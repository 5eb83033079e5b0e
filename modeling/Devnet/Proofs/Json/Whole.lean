import Devnet.Json.Fields
import Devnet.Proofs.Json.OrderFree

namespace Devnet.Json

/-- The literal `n` bytes further on. -/
def StringLiteral.moved (n : Nat) (l : StringLiteral) : StringLiteral :=
  { l with start := l.start + n }

mutual

/-- The tree `n` bytes further on; a break stays as it is. -/
def Doc.moved (n : Nat) : Doc → Doc
  | .null start stop => .null (start + n) (stop + n)
  | .bool b start stop => .bool b (start + n) (stop + n)
  | .number l start stop => .number l (start + n) (stop + n)
  | .string l start stop => .string (l.moved n) (start + n) (stop + n)
  | .array items start => .array (items.moved n) (start + n)
  | .object members start => .object (members.moved n) (start + n)
  | .broken b start => .broken b start

def Items.moved (n : Nat) : Items → Items
  | .close stop => .close (stop + n)
  | .broken b lead => .broken b lead
  | .item lead d rest => .item (lead + n) (d.moved n) (rest.moved n)

def Members.moved (n : Nat) : Members → Members
  | .close stop => .close (stop + n)
  | .broken b lead => .broken b lead
  | .stray d lead => .stray d lead
  | .keyOnly lead key after b => .keyOnly lead key after b
  | .member lead key after d rest =>
    .member (lead + n) (key.moved n) (after + n) (d.moved n) (rest.moved n)

end

mutual

/-- Nothing breaks off: every string, array and object is closed. -/
def Doc.Whole : Doc → Prop
  | .null _ _ | .bool _ _ _ | .number _ _ _ => True
  | .string l _ _ => l.ending = .closed
  | .array items _ => items.Whole
  | .object members _ => members.Whole
  | .broken _ _ => False

def Items.Whole : Items → Prop
  | .close _ => True
  | .broken _ _ => False
  | .item _ d rest => d.Whole ∧ rest.Whole

def Members.Whole : Members → Prop
  | .close _ => True
  | .broken _ _ | .stray _ _ | .keyOnly _ _ _ _ => False
  | .member _ key _ d rest => key.ending = .closed ∧ d.Whole ∧ rest.Whole

end

/-- What is accepted is whole, and is accepted alike wherever it stands. -/
def AcceptsWhole {α : Type} (reader : Doc → Except Complaint α) : Prop :=
  ∀ d v, reader d = .ok v → d.Whole ∧ ∀ n, reader (d.moved n) = .ok v

variable {α : Type}

theorem AcceptsWhole.map {β : Type} {reader : Doc → Except Complaint α}
    (h : AcceptsWhole reader) (f : α → β) : AcceptsWhole fun d => (reader d).map f := by
  intro d v hv
  obtain ⟨a, ha, rfl⟩ := map_eq_ok_iff.mp hv
  obtain ⟨hwhole, hmoved⟩ := h d a ha
  exact ⟨hwhole, fun n => map_eq_ok_iff.mpr ⟨a, hmoved n, rfl⟩⟩

theorem mapError_eq_ok_iff {ε ε' : Type} {x : Except ε α} {f : ε → ε'} {a : α} :
    x.mapError f = .ok a ↔ x = .ok a := by
  cases x <;> simp [Except.mapError]

theorem endFault_eq_none_iff {place : Nat} {e : Ending} :
    StringLiteral.endFault place e = none ↔ e = .closed := by
  cases e <;> simp [StringLiteral.endFault]

theorem decode_anywhere {place : Nat} {ps : List Piece} {e : Ending} {cs : List Char}
    (h : StringLiteral.decode place ps e = .ok cs) (other : Nat) :
    StringLiteral.decode other ps e = .ok cs := by
  fun_induction StringLiteral.decode place ps e generalizing other cs with
  | case1 place e hend =>
    rw [StringLiteral.decode, endFault_eq_none_iff.mpr (endFault_eq_none_iff.mp hend)]
    exact h
  | case2 | case5 | case7 | case8 => cases h
  | case3 _ _ _ _ ih | case4 _ _ _ _ ih =>
    obtain ⟨ds, hds, rfl⟩ := map_eq_ok_iff.mp h
    exact map_eq_ok_iff.mpr ⟨ds, ih hds _, rfl⟩
  | case6 place e n htrail hlead m qs hpair ih =>
    obtain ⟨ds, hds, rfl⟩ := map_eq_ok_iff.mp h
    rw [StringLiteral.decode, if_neg htrail, if_pos hlead]
    simp only [if_pos hpair]
    exact map_eq_ok_iff.mpr ⟨ds, ih hds _, rfl⟩
  | case9 place n ps e htrail hlead ih =>
    obtain ⟨ds, hds, rfl⟩ := map_eq_ok_iff.mp h
    rw [StringLiteral.decode.eq_def]
    simp only [if_neg htrail, if_neg hlead]
    exact map_eq_ok_iff.mpr ⟨ds, ih hds _, rfl⟩

namespace StringLiteral

variable {l : StringLiteral}

theorem text_moved {s : String} (h : l.text = .ok s) :
    l.ending = .closed ∧ ∀ n, (l.moved n).text = .ok s := by
  obtain ⟨cs, hcs, rfl⟩ := map_eq_ok_iff.mp h
  exact ⟨closed_of_decode hcs, fun n => map_eq_ok_iff.mpr ⟨cs, decode_anywhere hcs _, rfl⟩⟩

theorem skip_moved (h : l.skip = .ok ()) :
    l.ending = .closed ∧ ∀ n, (l.moved n).skip = .ok () := by
  obtain ⟨start, pieces, ending⟩ := l
  cases ending with
  | closed => exact ⟨rfl, fun _ => rfl⟩
  | _ => cases h

end StringLiteral

theorem read_eq_ok_iff {l : NumberLiteral} {stop : Nat} {n : Number} :
    l.read stop = .ok n ↔ l.value = .ok n := by
  rw [NumberLiteral.read]
  cases l.value <;> simp

mutual

theorem Doc.read_moved {d : Doc} {depth : Nat} {v : Json} (h : d.read depth = .ok v) :
    d.Whole ∧ ∀ n, (d.moved n).read depth = .ok v := by
  match d, depth, h with
  | .null .., _, h | .bool .., _, h => exact ⟨trivial, fun _ => h⟩
  | .number .., _, h =>
    obtain ⟨m, hm, rfl⟩ := map_eq_ok_iff.mp h
    refine ⟨trivial, fun n => map_eq_ok_iff.mpr ⟨m, ?_, rfl⟩⟩
    exact read_eq_ok_iff.mpr (read_eq_ok_iff.mp hm)
  | .string .., _, h =>
    obtain ⟨s, hs, rfl⟩ := map_eq_ok_iff.mp h
    obtain ⟨hclosed, hmoved⟩ := StringLiteral.text_moved hs
    exact ⟨hclosed, fun n => map_eq_ok_iff.mpr ⟨s, hmoved n, rfl⟩⟩
  | .array items _, depth + 1, h =>
    obtain ⟨vs, hvs, rfl⟩ := map_eq_ok_iff.mp h
    obtain ⟨hwhole, hmoved⟩ := Items.read_moved hvs
    exact ⟨hwhole, fun n => map_eq_ok_iff.mpr ⟨vs, hmoved n, rfl⟩⟩
  | .object members _, depth + 1, h =>
    obtain ⟨ms, hms, rfl⟩ := map_eq_ok_iff.mp h
    obtain ⟨hwhole, hmoved⟩ := Members.read_moved hms
    exact ⟨hwhole, fun n => map_eq_ok_iff.mpr ⟨ms, hmoved n, rfl⟩⟩

theorem Items.read_moved {items : Items} {depth : Nat} {vs : List Json}
    (h : items.read depth = .ok vs) :
    items.Whole ∧ ∀ n, (items.moved n).read depth = .ok vs := by
  match items, h with
  | .close _, h => exact ⟨trivial, fun _ => h⟩
  | .item _ d rest, h =>
    rw [Items.read] at h
    obtain ⟨v, hv, h⟩ := bind_eq_ok_iff.mp h
    obtain ⟨ws, hws, h⟩ := bind_eq_ok_iff.mp h
    obtain ⟨hd, hdmoved⟩ := Doc.read_moved hv
    obtain ⟨hrest, hrestmoved⟩ := Items.read_moved hws
    refine ⟨⟨hd, hrest⟩, fun n => ?_⟩
    rw [Items.moved, Items.read, hdmoved n, hrestmoved n]
    exact h

theorem Members.read_moved {members : Members} {depth : Nat} {ms : List (String × Json)}
    (h : members.read depth = .ok ms) :
    members.Whole ∧ ∀ n, (members.moved n).read depth = .ok ms := by
  match members, h with
  | .close _, h => exact ⟨trivial, fun _ => h⟩
  | .keyOnly _ key _ b, h =>
    rw [Members.read] at h
    obtain ⟨name, -, h⟩ := bind_eq_ok_iff.mp h
    contradiction
  | .member _ key _ d rest, h =>
    rw [Members.read] at h
    obtain ⟨name, hname, h⟩ := bind_eq_ok_iff.mp h
    obtain ⟨v, hv, h⟩ := bind_eq_ok_iff.mp h
    obtain ⟨ws, hws, h⟩ := bind_eq_ok_iff.mp h
    obtain ⟨hkey, hkeymoved⟩ := StringLiteral.text_moved hname
    obtain ⟨hd, hdmoved⟩ := Doc.read_moved hv
    obtain ⟨hrest, hrestmoved⟩ := Members.read_moved hws
    refine ⟨⟨hkey, hd, hrest⟩, fun n => ?_⟩
    rw [Members.moved, Members.read, hkeymoved n, hdmoved n, hrestmoved n]
    exact h

end

mutual

theorem Doc.skip_moved {d : Doc} (h : d.skip = .ok ()) :
    d.Whole ∧ ∀ n, (d.moved n).skip = .ok () := by
  match d, h with
  | .null .., h | .bool .., h | .number .., h => exact ⟨trivial, fun _ => h⟩
  | .string .., h => exact StringLiteral.skip_moved h
  | .array .., h => exact Items.skip_moved h
  | .object .., h => exact Members.skip_moved h

theorem Items.skip_moved {items : Items} (h : items.skip = .ok ()) :
    items.Whole ∧ ∀ n, (items.moved n).skip = .ok () := by
  match items, h with
  | .close _, h => exact ⟨trivial, fun _ => h⟩
  | .item _ d rest, h =>
    rw [Items.skip] at h
    obtain ⟨_, hd, hrest⟩ := bind_eq_ok_iff.mp h
    obtain ⟨hdwhole, hdmoved⟩ := Doc.skip_moved hd
    obtain ⟨hrestwhole, hrestmoved⟩ := Items.skip_moved hrest
    refine ⟨⟨hdwhole, hrestwhole⟩, fun n => ?_⟩
    rw [Items.moved, Items.skip, hdmoved n]
    exact hrestmoved n

theorem Members.skip_moved {members : Members} (h : members.skip = .ok ()) :
    members.Whole ∧ ∀ n, (members.moved n).skip = .ok () := by
  match members, h with
  | .close _, h => exact ⟨trivial, fun _ => h⟩
  | .keyOnly _ key _ b, h =>
    rw [Members.skip] at h
    obtain ⟨_, -, h⟩ := bind_eq_ok_iff.mp h
    contradiction
  | .member _ key _ d rest, h =>
    rw [Members.skip] at h
    obtain ⟨_, hkey, h⟩ := bind_eq_ok_iff.mp h
    obtain ⟨_, hd, hrest⟩ := bind_eq_ok_iff.mp h
    obtain ⟨hkeyclosed, hkeymoved⟩ := StringLiteral.skip_moved hkey
    obtain ⟨hdwhole, hdmoved⟩ := Doc.skip_moved hd
    obtain ⟨hrestwhole, hrestmoved⟩ := Members.skip_moved hrest
    refine ⟨⟨hkeyclosed, hdwhole, hrestwhole⟩, fun n => ?_⟩
    rw [Members.moved, Members.skip, hkeymoved n, hdmoved n]
    exact hrestmoved n

end

namespace Doc

theorem read_acceptsWhole (depth : Nat) : AcceptsWhole (Doc.read depth) :=
  fun _ _ h => Doc.read_moved h

theorem readNatural_acceptsWhole : AcceptsWhole readNatural := by
  intro d v h
  match d, h with
  | .number l _ stop, h =>
    obtain ⟨m, hm, h⟩ := bind_eq_ok_iff.mp h
    refine ⟨trivial, fun n => bind_eq_ok_iff.mpr ⟨m, read_eq_ok_iff.mpr (read_eq_ok_iff.mp hm), ?_⟩⟩
    match m, h with
    | .natural _, h => exact h

theorem readString_acceptsWhole (expected : String) : AcceptsWhole (readString expected) := by
  intro d v h
  match d, h with
  | .string _ _ _, h => exact StringLiteral.text_moved h

theorem readVariant_acceptsWhole (variants : List (String × α)) :
    AcceptsWhole (readVariant variants) := by
  intro d v h
  match d, h with
  | .string l _ stop, h =>
    obtain ⟨name, hname, h⟩ := bind_eq_ok_iff.mp h
    obtain ⟨hclosed, hmoved⟩ := StringLiteral.text_moved hname
    refine ⟨hclosed, fun n => bind_eq_ok_iff.mpr ⟨name, hmoved n, ?_⟩⟩
    cases hlookup : variants.lookup name with
    | none =>
      rw [hlookup] at h
      contradiction
    | some a =>
      rw [hlookup] at h
      exact h

end Doc

section Records

variable {σ τ : Type} {fields : List (FieldReader σ)} {depth : Nat}

/-- Each of the fields accepts whole values only, whatever has been collected. -/
def FieldsAcceptWhole (fields : List (FieldReader σ)) : Prop :=
  ∀ f ∈ fields, ∀ (depth : Nat) (s : σ), AcceptsWhole fun d => f.read depth d s

theorem Members.readFields_moved (hfields : FieldsAcceptWhole fields) {members : Members}
    {s t : σ} {stop : Nat} (h : members.readFields fields depth s = .ok (t, stop)) :
    members.Whole ∧ ∀ n, ∃ place, (members.moved n).readFields fields depth s = .ok (t, place) := by
  match members, h with
  | .close _, h =>
    cases h
    exact ⟨trivial, fun n => ⟨_, rfl⟩⟩
  | .keyOnly _ key _ b, h =>
    rw [Members.readFields] at h
    obtain ⟨name, -, h⟩ := bind_eq_ok_iff.mp h
    contradiction
  | .member _ key _ d rest, h =>
    rw [Members.readFields] at h
    obtain ⟨name, hname, h⟩ := bind_eq_ok_iff.mp h
    obtain ⟨hkey, hkeymoved⟩ := StringLiteral.text_moved hname
    cases hfield : fieldOf? fields name with
    | none =>
      -- the value is skipped, and then it is whole as well
      simp only [hfield] at h
      obtain ⟨_, hd, h⟩ := bind_eq_ok_iff.mp h
      obtain ⟨hdwhole, hdmoved⟩ := Doc.skip_moved hd
      obtain ⟨hrest, hrestmoved⟩ := Members.readFields_moved hfields h
      refine ⟨⟨hkey, hdwhole, hrest⟩, fun n => ?_⟩
      obtain ⟨place, hplace⟩ := hrestmoved n
      refine ⟨place, ?_⟩
      rw [Members.moved, Members.readFields, hkeymoved n]
      simp only [hfield, bind, Except.bind, hdmoved n]
      exact hplace
    | some f =>
      simp only [hfield] at h
      by_cases hset : f.isSet s
      · rw [if_pos hset] at h
        contradiction
      · rw [if_neg hset] at h
        obtain ⟨s', hs', h⟩ := bind_eq_ok_iff.mp h
        obtain ⟨hd, hdmoved⟩ :=
          hfields f (fieldOf_name hfield).1 depth s d s' (mapError_eq_ok_iff.mp hs')
        obtain ⟨hrest, hrestmoved⟩ := Members.readFields_moved hfields h
        refine ⟨⟨hkey, hd, hrest⟩, fun n => ?_⟩
        obtain ⟨place, hplace⟩ := hrestmoved n
        refine ⟨place, ?_⟩
        rw [Members.moved, Members.readFields, hkeymoved n]
        simp only [hfield, bind, Except.bind, if_neg hset, hdmoved n, Except.mapError]
        exact hplace

theorem Items.surplus_moved {items : Items} {stop : Nat} (h : items.surplus = .ok stop) :
    items.Whole ∧ ∀ n, ∃ place, (items.moved n).surplus = .ok place := by
  cases items with
  | close => exact ⟨trivial, fun n => ⟨_, rfl⟩⟩
  | item => cases h
  | broken b =>
    rw [Items.surplus.eq_def] at h
    split at h <;> contradiction

theorem Items.readFields_moved (hfields : FieldsAcceptWhole fields) {items : Items} {s t : σ}
    {count stop : Nat} (h : items.readFields depth fields s = .ok (t, count, stop)) :
    items.Whole ∧
      ∀ n, ∃ place, (items.moved n).readFields depth fields s = .ok (t, count, place) := by
  induction fields generalizing items s t count stop with
  | nil =>
    rw [Items.readFields] at h
    obtain ⟨stop, hstop, h⟩ := map_eq_ok_iff.mp h
    cases h
    obtain ⟨hwhole, hmoved⟩ := Items.surplus_moved hstop
    refine ⟨hwhole, fun n => ?_⟩
    obtain ⟨place, hplace⟩ := hmoved n
    refine ⟨place, ?_⟩
    rw [Items.readFields, hplace]
    rfl
  | cons f fields ih =>
    cases items with
    | close =>
      cases h
      exact ⟨trivial, fun n => ⟨_, rfl⟩⟩
    | broken => cases h
    | item lead d rest =>
      rw [Items.readFields] at h
      obtain ⟨s', hs', h⟩ := bind_eq_ok_iff.mp h
      obtain ⟨⟨t', count', stop'⟩, ht', h⟩ := bind_eq_ok_iff.mp h
      cases h
      obtain ⟨hd, hdmoved⟩ :=
        hfields f List.mem_cons_self depth s d s' (mapError_eq_ok_iff.mp hs')
      obtain ⟨hrest, hrestmoved⟩ :=
        ih (fun g hg => hfields g (List.mem_cons_of_mem f hg)) ht'
      refine ⟨⟨hd, hrest⟩, fun n => ?_⟩
      obtain ⟨place, hplace⟩ := hrestmoved n
      refine ⟨place, ?_⟩
      rw [Items.moved, Items.readFields]
      simp only [bind, Except.bind, hdmoved n, Except.mapError, hplace]
      rfl

theorem Doc.enter_eq_ok_iff {start : Nat} {inside : (depth : Nat) → Except Complaint α} {a : α} :
    Doc.enter depth start inside = .ok a ↔ ∃ k, depth = k + 1 ∧ inside k = .ok a := by
  cases depth <;> simp [Doc.enter]

theorem RecordShape.read_acceptsWhole {shape : RecordShape σ α}
    (hfields : FieldsAcceptWhole shape.fields) (depth : Nat) :
    AcceptsWhole (shape.read depth) := by
  intro d v h
  match d, h with
  | .object members _, h =>
    obtain ⟨k, rfl, h⟩ := Doc.enter_eq_ok_iff.mp h
    obtain ⟨⟨t, stop⟩, ht, h⟩ := bind_eq_ok_iff.mp h
    obtain ⟨hwhole, hmoved⟩ := Members.readFields_moved hfields ht
    refine ⟨hwhole, fun n => ?_⟩
    obtain ⟨place, hplace⟩ := hmoved n
    rw [Doc.moved, RecordShape.read]
    exact bind_eq_ok_iff.mpr
      ⟨(t, place), hplace, mapError_eq_ok_iff.mpr (mapError_eq_ok_iff.mp h)⟩
  | .array items _, h =>
    obtain ⟨k, rfl, h⟩ := Doc.enter_eq_ok_iff.mp h
    obtain ⟨⟨t, count, stop⟩, ht, h⟩ := bind_eq_ok_iff.mp h
    obtain ⟨hwhole, hmoved⟩ := Items.readFields_moved hfields ht
    refine ⟨hwhole, fun n => ?_⟩
    obtain ⟨place, hplace⟩ := hmoved n
    rw [Doc.moved, RecordShape.read]
    exact bind_eq_ok_iff.mpr
      ⟨(t, count, place), hplace, mapError_eq_ok_iff.mpr (mapError_eq_ok_iff.mp h)⟩

theorem Members.readTable_moved {reader : (depth : Nat) → Doc → Except Complaint α}
    {insert : String → α → τ → τ} (hreader : AcceptsWhole (reader depth)) {members : Members}
    {t u : τ} (h : members.readTable reader insert depth t = .ok u) :
    members.Whole ∧ ∀ n, (members.moved n).readTable reader insert depth t = .ok u := by
  match members, h with
  | .close _, h => exact ⟨trivial, fun _ => h⟩
  | .keyOnly _ key _ b, h =>
    rw [Members.readTable] at h
    obtain ⟨name, -, h⟩ := bind_eq_ok_iff.mp h
    contradiction
  | .member _ key _ d rest, h =>
    rw [Members.readTable] at h
    obtain ⟨name, hname, h⟩ := bind_eq_ok_iff.mp h
    obtain ⟨v, hv, h⟩ := bind_eq_ok_iff.mp h
    obtain ⟨hkey, hkeymoved⟩ := StringLiteral.text_moved hname
    obtain ⟨hd, hdmoved⟩ := hreader d v (mapError_eq_ok_iff.mp hv)
    obtain ⟨hrest, hrestmoved⟩ := Members.readTable_moved hreader h
    refine ⟨⟨hkey, hd, hrest⟩, fun n => ?_⟩
    rw [Members.moved, Members.readTable, hkeymoved n, hdmoved n]
    exact hrestmoved n

end Records

end Devnet.Json
