import Devnet.Json.Fields
import Devnet.Proofs.Json.MemberOrder
import Devnet.Proofs.Json.Spelling
import Mathlib.Data.List.Nodup

namespace Devnet.Json

/-- Alike trees are read alike, or both are refused. -/
def IgnoresOrder {α : Type} (reader : Doc → Except Complaint α) : Prop :=
  ∀ d e : Doc, d.Alike e → (reader d).toOption = (reader e).toOption

theorem IgnoresOrder.ok {α : Type} {reader : Doc → Except Complaint α} (h : IgnoresOrder reader)
    {d e : Doc} (hde : d.Alike e) {a : α} (hread : reader d = .ok a) : reader e = .ok a := by
  rw [← toOption_eq_some_iff, ← h d e hde, hread]
  rfl

theorem IgnoresOrder.map {α β : Type} {reader : Doc → Except Complaint α}
    (h : IgnoresOrder reader) (f : α → β) : IgnoresOrder fun d => (reader d).map f := by
  intro d e hde
  rw [toOption_map, toOption_map, h d e hde]

namespace Doc

theorem toOption_read (l : NumberLiteral) (stop : Nat) :
    (l.read stop).toOption = l.value.toOption := by
  rw [NumberLiteral.read]
  cases l.value <;> rfl

theorem toOption_readNatural (l : NumberLiteral) (start stop : Nat) :
    (Doc.number l start stop).readNatural.toOption = l.value.toOption.bind fun
      | .natural n => some n
      | _ => none := by
  rw [readNatural, toOption_bind, toOption_read]
  congr 1
  funext n
  cases n <;> rfl

theorem readNatural_ignoresOrder : IgnoresOrder readNatural := by
  intro d e h
  cases h.matches with
  | number same => rw [toOption_readNatural, toOption_readNatural, same]
  | _ => rfl

theorem readString_ignoresOrder (expected : String) : IgnoresOrder (readString expected) := by
  intro d e h
  cases h.matches with
  | string text text' => rw [readString, readString, text, text']
  | _ => rfl

theorem readVariant_ignoresOrder {α : Type} (variants : List (String × α)) :
    IgnoresOrder (readVariant variants) := by
  intro d e h
  cases h.matches with
  | @string l l' s text text' =>
    simp only [readVariant, text, text', bind, Except.bind]
    cases variants.lookup s <;> rfl
  | _ => rfl

/-- Without a container to open there is no outcome. -/
theorem enter_ignores {α : Type} {depth start start' : Nat}
    {inside inside' : (depth : Nat) → Except Complaint α}
    (h : ∀ k, (inside k).toOption = (inside' k).toOption) :
    (enter depth start inside).toOption = (enter depth start' inside').toOption := by
  cases depth with
  | zero => rfl
  | succ depth => exact h depth

end Doc

/-- A literal that stands for a text is closed. -/
theorem closed_of_decode {place : Nat} {ps : List Piece} {ending : Ending} {cs : List Char}
    (h : StringLiteral.decode place ps ending = .ok cs) : ending = .closed := by
  have hmap {x : Except Complaint (List Char)} {c : Char} {ds : List Char}
      (h : x.map (c :: ·) = .ok ds) : ∃ es, x = .ok es := by
    cases x with
    | error => cases h
    | ok es => exact ⟨es, rfl⟩
  fun_induction StringLiteral.decode place ps ending generalizing cs with
  | case1 place e hend =>
    cases e <;> first | rfl | cases hend
  | case2 | case5 | case7 | case8 => cases h
  | case3 _ _ _ _ ih | case4 _ _ _ _ ih | case6 _ _ _ _ _ _ _ _ ih | case9 _ _ _ _ _ _ ih =>
    obtain ⟨es, hes⟩ := hmap h
    exact ih hes

theorem skip_of_text {l : StringLiteral} {s : String} (h : l.text = .ok s) : l.skip = .ok () := by
  have hclosed : l.ending = .closed := by
    rw [StringLiteral.text] at h
    cases hdecode : StringLiteral.decode l.start l.pieces l.ending with
    | error => rw [hdecode] at h; cases h
    | ok cs => exact closed_of_decode hdecode
  simp only [StringLiteral.skip, hclosed]
  rfl

mutual

/-- A value that a tree holds can be passed over. -/
theorem Doc.skip_of_holds {d : Doc} {w : Written} (h : d.Holds w) : d.skip = .ok () := by
  match d, w, h with
  | .null .., .null, _ | .bool .., .bool _, _ | .number .., .number _, _ => rfl
  | .string .., .string _, h => exact skip_of_text h
  | .array .., .array _, h => exact Items.skip_of_holds h
  | .object .., .object _, h => exact Members.skip_of_holds h

theorem Items.skip_of_holds {items : Items} {ws : List Written} (h : items.Holds ws) :
    items.skip = .ok () := by
  match items, ws, h with
  | .close _, [], _ => rfl
  | .item _ d rest, w :: ws, ⟨hd, hrest⟩ =>
    rw [Items.skip, Doc.skip_of_holds hd]
    exact Items.skip_of_holds hrest

theorem Members.skip_of_holds {members : Members} {ms : List (String × Written)}
    (h : members.Holds ms) : members.skip = .ok () := by
  match members, ms, h with
  | .close _, [], _ => rfl
  | .member _ key _ d rest, (name, w) :: ms, ⟨hkey, hd, hrest⟩ =>
    rw [Members.skip, skip_of_text hkey, Doc.skip_of_holds hd]
    exact Members.skip_of_holds hrest

end

theorem Doc.skip_ignoresOrder : IgnoresOrder Doc.skip := by
  rintro d e ⟨v, w, -, -, hd, he⟩
  rw [Doc.skip_of_holds hd, Doc.skip_of_holds he]

namespace Written

/-- A value that is read whole where `depth` containers may be opened: no number is too large. -/
inductive Fits : (depth : Nat) → Written → Prop where
  | null (depth : Nat) : Fits depth .null
  | bool (depth : Nat) (b : Bool) : Fits depth (.bool b)
  | number (depth : Nat) (n : Number) : Fits depth (.number (some n))
  | string (depth : Nat) (s : String) : Fits depth (.string s)
  | array {depth : Nat} {vs : List Written} (items : ∀ v ∈ vs, Fits depth v) :
      Fits (depth + 1) (.array vs)
  | object {depth : Nat} {ms : List (String × Written)} (members : ∀ m ∈ ms, Fits depth m.2) :
      Fits (depth + 1) (.object ms)

theorem fits_array_iff {depth : Nat} {vs : List Written} :
    Fits depth (.array vs) ↔ ∃ k, depth = k + 1 ∧ ∀ v ∈ vs, Fits k v := by
  constructor
  · rintro (_ | _ | _ | _ | items)
    exact ⟨_, rfl, items⟩
  · rintro ⟨k, rfl, items⟩
    exact .array items

theorem fits_object_iff {depth : Nat} {ms : List (String × Written)} :
    Fits depth (.object ms) ↔ ∃ k, depth = k + 1 ∧ ∀ m ∈ ms, Fits k m.2 := by
  constructor
  · rintro (_ | _ | _ | _ | _ | members)
    exact ⟨_, rfl, members⟩
  · rintro ⟨k, rfl, members⟩
    exact .object members

theorem Reorders.fits_iff {v w : Written} (h : v.Reorders w) (depth : Nat) :
    v.Fits depth ↔ w.Fits depth := by
  induction h generalizing depth with
  | refl => exact Iff.rfl
  | trans _ _ ihf ihn => exact (ihf depth).trans (ihn depth)
  | members order => simp only [fits_object_iff, order.mem_iff]
  | inItem _ before after ih => simp [fits_array_iff, or_imp, forall_and, ih]
  | inMember _ name before after ih => simp [fits_object_iff, or_imp, forall_and, ih]

end Written

theorem exists_map_ok {ε α β : Type} (x : Except ε α) (f : α → β) :
    (∃ b, x.map f = .ok b) ↔ ∃ a, x = .ok a := by
  cases x <;> simp [Except.map]

theorem exists_bind_ok {ε α β : Type} (x : Except ε α) (f : α → Except ε β) :
    (∃ b, x >>= f = .ok b) ↔ ∃ a, x = .ok a ∧ ∃ b, f a = .ok b := by
  cases x <;> simp [bind, Except.bind]

mutual

theorem Doc.read_ok_iff {d : Doc} {w : Written} (h : d.Holds w) (depth : Nat) :
    (∃ v, d.read depth = .ok v) ↔ w.Fits depth := by
  match d, w, h with
  | .null .., .null, _ => simp [Doc.read, Written.Fits.null]
  | .bool .., .bool b, _ => simp [Doc.read, Written.Fits.bool]
  | .number l _ stop, .number n, h =>
    obtain rfl : l.value.toOption = n := h
    rw [Doc.read, exists_map_ok, NumberLiteral.read]
    cases l.value with
    | error => exact ⟨nofun, nofun⟩
    | ok n => exact ⟨fun _ => .number depth n, fun _ => ⟨n, rfl⟩⟩
  | .string .., .string _, h =>
    have htext : StringLiteral.text _ = .ok _ := h
    simp [Doc.read, htext, Except.map, Written.Fits.string]
  | .array items _, .array ws, h =>
    cases depth with
    | zero => simp [Doc.read, Written.fits_array_iff]
    | succ depth =>
      rw [Doc.read, exists_map_ok, Items.read_ok_iff h, Written.fits_array_iff]
      simp
  | .object members _, .object ms, h =>
    cases depth with
    | zero => simp [Doc.read, Written.fits_object_iff]
    | succ depth =>
      rw [Doc.read, exists_map_ok, Members.read_ok_iff h, Written.fits_object_iff]
      simp

theorem Items.read_ok_iff {items : Items} {ws : List Written} (h : items.Holds ws) (depth : Nat) :
    (∃ vs, items.read depth = .ok vs) ↔ ∀ w ∈ ws, w.Fits depth := by
  match items, ws, h with
  | .close _, [], _ => simp [Items.read]
  | .item _ d rest, w :: ws, ⟨hd, hrest⟩ =>
    rw [Items.read, List.forall_mem_cons, ← Doc.read_ok_iff hd, ← Items.read_ok_iff hrest]
    simp only [exists_bind_ok]
    simp [pure, Except.pure]

theorem Members.read_ok_iff {members : Members} {ms : List (String × Written)}
    (h : members.Holds ms) (depth : Nat) :
    (∃ ns, members.read depth = .ok ns) ↔ ∀ m ∈ ms, m.2.Fits depth := by
  match members, ms, h with
  | .close _, [], _ => simp [Members.read]
  | .member _ key _ d rest, (name, w) :: ms, ⟨hkey, hd, hrest⟩ =>
    rw [Members.read, hkey, List.forall_mem_cons, ← Doc.read_ok_iff hd,
      ← Members.read_ok_iff hrest]
    simp only [exists_bind_ok]
    simp [pure, Except.pure]

end

/-- Whether a value is read whole does not depend on the order of members. -/
theorem Doc.Alike.read_ok_iff {d e : Doc} (h : d.Alike e) (depth : Nat) :
    (∃ v, d.read depth = .ok v) ↔ ∃ v, e.read depth = .ok v := by
  obtain ⟨v, w, hreorders, -, hd, he⟩ := h
  rw [Doc.read_ok_iff hd, Doc.read_ok_iff he, hreorders.fits_iff]

theorem RowsAlike.foldl_eq {rows others : List (String × Doc)} (h : RowsAlike rows others)
    {β : Type} {step : β → String × Doc → β}
    (alike : ∀ r t, RowAlike r t → ∀ b, step b r = step b t)
    (comm : ∀ r t : String × Doc, r.1 ≠ t.1 → ∀ b, step (step b r) t = step (step b t) r) (b : β) :
    rows.foldl step b = others.foldl step b := by
  obtain ⟨mid, hmid, hperm⟩ := h.aligned
  have hdistinct : (mid.map (·.1)).Nodup := by
    rw [← names_of_forall₂ (fun _ _ h => h.1) hmid]
    exact h.distinct
  have hone : rows.foldl step b = mid.foldl step b := by
    clear hperm hdistinct h
    induction hmid generalizing b with
    | nil => rfl
    | cons hrt _ ih => rw [List.foldl_cons, List.foldl_cons, alike _ _ hrt, ih]
  rw [hone]
  refine hperm.foldl_eq' (fun r hr t ht b => ?_) b
  by_cases hname : r.1 = t.1
  · rw [List.inj_on_of_nodup_map hdistinct hr ht hname]
  · exact comm r t hname b

section Records

variable {σ α : Type} {fields : List (FieldReader σ)} {depth : Nat}

/-- Reading the first field leaves the second as it is, and the order of reading does not matter. -/
structure FieldReader.Apart (f g : FieldReader σ) : Prop where
  isSet : ∀ {depth : Nat} {d : Doc} {s t : σ}, f.read depth d s = .ok t → g.isSet t = g.isSet s
  read : ∀ (depth : Nat) (d e : Doc) (s : σ),
    ((f.read depth d s).toOption.bind fun t => (g.read depth e t).toOption) =
      (g.read depth e s).toOption.bind fun t => (f.read depth d t).toOption

/-- The field puts the value that a reader gives into its own place. -/
theorem FieldReader.apart_of_set {β γ : Type} {f g : FieldReader σ}
    {reader : Nat → Doc → Except Complaint β} {reader' : Nat → Doc → Except Complaint γ}
    {set : β → σ → σ} {set' : γ → σ → σ}
    (hf : ∀ depth d s, f.read depth d s = (reader depth d).map (set · s))
    (hg : ∀ depth d s, g.read depth d s = (reader' depth d).map (set' · s))
    (comm : ∀ b c s, set' c (set b s) = set b (set' c s))
    (isSet : ∀ b s, g.isSet (set b s) = g.isSet s) : f.Apart g where
  isSet h := by
    rw [hf] at h
    obtain ⟨b, -, rfl⟩ := map_eq_ok_iff.mp h
    exact isSet b _
  read depth d e s := by
    simp only [hf, hg, toOption_map, Option.bind_map, Function.comp_def]
    cases (reader depth d).toOption <;> cases (reader' depth e).toOption <;> simp [comm]

/-- A record whose members may come in any order. -/
structure RecordShape.OrderFree (shape : RecordShape σ α) : Prop where
  reads : ∀ f ∈ shape.fields, ∀ (depth : Nat) (s : σ), IgnoresOrder fun d => f.read depth d s
  apart : ∀ f ∈ shape.fields, ∀ g ∈ shape.fields, f.name ≠ g.name → f.Apart g

/-- One more row collected, unless there is a complaint already. -/
def collect (fields : List (FieldReader σ)) (depth : Nat) (s? : Option σ) (r : String × Doc) :
    Option σ :=
  s?.bind fun s =>
    match fieldOf? fields r.1 with
    | none => r.2.skip.toOption.map fun _ => s
    | some f => if f.isSet s then none else (f.read depth r.2 s).toOption

theorem foldl_collect_none (rows : List (String × Doc)) :
    rows.foldl (collect fields depth) none = none := by
  induction rows with
  | nil => rfl
  | cons r rows ih => exact ih

theorem Members.Lists.readFields {members : Members} {rows : List (String × Doc)}
    (h : members.Lists rows) (s : σ) :
    (members.readFields fields depth s).toOption.map (·.1) =
      rows.foldl (collect fields depth) (some s) := by
  induction h generalizing s with
  | close stop => rfl
  | @member key name rest rows lead after d named _ ih =>
    rw [List.foldl_cons, Members.readFields, named]
    simp only [bind, Except.bind, collect, Option.bind_some]
    cases fieldOf? fields name with
    | none =>
      cases d.skip with
      | error => exact (foldl_collect_none rows).symm
      | ok => exact ih s
    | some f =>
      by_cases hset : f.isSet s
      · simp only [if_pos hset]
        exact (foldl_collect_none rows).symm
      · simp only [if_neg hset]
        cases f.read depth d s with
        | error => exact (foldl_collect_none rows).symm
        | ok t => exact ih t

theorem fieldOf_name {name : String} {f : FieldReader σ} (h : fieldOf? fields name = some f) :
    f ∈ fields ∧ f.name = name :=
  ⟨List.mem_of_find?_eq_some h, by simpa using List.find?_some h⟩

theorem collect_alike (hreads : ∀ f ∈ fields, ∀ (depth : Nat) (s : σ),
    IgnoresOrder fun d => f.read depth d s) {r t : String × Doc} (h : RowAlike r t)
    (s? : Option σ) : collect fields depth s? r = collect fields depth s? t := by
  obtain ⟨hname, hdoc⟩ := h
  cases s? with
  | none => rfl
  | some s =>
    simp only [collect, Option.bind_some, hname, Doc.skip_ignoresOrder _ _ hdoc]
    cases hf : fieldOf? fields t.1 with
    | none => rfl
    | some f => simp only [hreads f (fieldOf_name hf).1 depth s _ _ hdoc]

theorem FieldReader.Apart.bind_unset {f g : FieldReader σ} (h : f.Apart g) (d e : Doc) (s : σ) :
    ((f.read depth d s).toOption.bind fun t =>
        if g.isSet t then none else (g.read depth e t).toOption) =
      if g.isSet s then none
      else (f.read depth d s).toOption.bind fun t => (g.read depth e t).toOption := by
  cases hread : f.read depth d s with
  | error c => exact (ite_self _).symm
  | ok t =>
    rw [← h.isSet hread]
    rfl

theorem collect_comm (hapart : ∀ f ∈ fields, ∀ g ∈ fields, f.name ≠ g.name → f.Apart g)
    {r t : String × Doc} (hne : r.1 ≠ t.1) (s? : Option σ) :
    collect fields depth (collect fields depth s? r) t =
      collect fields depth (collect fields depth s? t) r := by
  cases s? with
  | none => rfl
  | some s =>
    simp only [collect, Option.bind_some]
    cases hf : fieldOf? fields r.1 with
    | none => cases r.2.skip.toOption <;> simp
    | some f =>
      cases hg : fieldOf? fields t.1 with
      | none => cases t.2.skip.toOption <;> simp
      | some g =>
        obtain ⟨hfmem, hfname⟩ := fieldOf_name hf
        obtain ⟨hgmem, hgname⟩ := fieldOf_name hg
        have hnames : f.name ≠ g.name := by rwa [hfname, hgname]
        have hfg := hapart f hfmem g hgmem hnames
        have hgf := hapart g hgmem f hfmem hnames.symm
        by_cases hfset : f.isSet s
        · by_cases hgset : g.isSet s
          · simp [hfset, hgset]
          · simp [hfset, hgset, hgf.bind_unset]
        · by_cases hgset : g.isSet s
          · simp [hfset, hgset, hfg.bind_unset]
          · simp [hfset, hgset, hfg.bind_unset, hgf.bind_unset, hfg.read]

theorem readFields_ignores {shape : RecordShape σ α} (h : shape.OrderFree) (depth : Nat)
    {members members' : Members} {rows others : List (String × Doc)} (lists : members.Lists rows)
    (lists' : members'.Lists others) (alike : RowsAlike rows others) (s : σ) :
    (members.readFields shape.fields depth s).toOption.map (·.1) =
      (members'.readFields shape.fields depth s).toOption.map (·.1) := by
  rw [lists.readFields, lists'.readFields]
  exact alike.foldl_eq (fun _ _ hrt => collect_alike h.reads hrt)
    (fun _ _ hne => collect_comm h.apart hne) (some s)

/-- In an array the fields are read one by one, and nothing may be left over. -/
theorem readFields_ignores_items (hreads : ∀ f ∈ fields, ∀ (depth : Nat) (s : σ),
    IgnoresOrder fun d => f.read depth d s) (depth : Nat) {items items' : Items}
    {ds es : List Doc} (lists : items.Lists ds) (lists' : items'.Lists es)
    (alike : List.Forall₂ Doc.Alike ds es) (s : σ) :
    (items.readFields depth fields s).toOption.map (·.1) =
      (items'.readFields depth fields s).toOption.map (·.1) := by
  induction alike generalizing fields items items' s with
  | nil =>
    cases lists
    cases lists'
    cases fields <;> rfl
  | @cons d e ds es hde _ ih =>
    cases lists with
    | item lead d lists =>
      cases lists' with
      | item lead' e lists' =>
        cases fields with
        | nil => rfl
        | cons f fields =>
          have hf := hreads f List.mem_cons_self depth s d e hde
          have hrest := ih (fun g hg => hreads g (List.mem_cons_of_mem f hg)) lists lists'
          simp only [Items.readFields, toOption_bind, toOption_mapError, hf, Option.map_bind]
          congr 1
          funext t
          simpa only [toOption_pure, Option.map_eq_bind, Option.bind_assoc, Option.bind_some,
            Function.comp_def] using hrest t

theorem RecordShape.OrderFree.read_ignoresOrder {shape : RecordShape σ α} (h : shape.OrderFree)
    (depth : Nat) : IgnoresOrder (shape.read depth) := by
  intro d e hde
  cases hde.matches with
  | array lists lists' alike =>
    refine Doc.enter_ignores fun k => ?_
    have hfields := readFields_ignores_items h.reads k lists lists' alike shape.empty
    simp only [toOption_bind, toOption_mapError]
    simpa only [Option.bind_map, Function.comp_def] using
      congrArg (·.bind fun s => (shape.finish s).toOption) hfields
  | object lists lists' alike =>
    refine Doc.enter_ignores fun k => ?_
    have hfields := readFields_ignores h k lists lists' alike shape.empty
    simp only [toOption_bind, toOption_mapError]
    simpa only [Option.bind_map, Function.comp_def] using
      congrArg (·.bind fun s => (shape.finish s).toOption) hfields
  | _ => rfl

end Records

section Tables

variable {α τ : Type} {reader : (depth : Nat) → Doc → Except Complaint α}
  {insert : String → α → τ → τ} {depth : Nat}

/-- One more entry put in, unless there is a complaint already. -/
def enterRow (reader : (depth : Nat) → Doc → Except Complaint α) (insert : String → α → τ → τ)
    (depth : Nat) (t? : Option τ) (r : String × Doc) : Option τ :=
  t?.bind fun t => (reader depth r.2).toOption.map fun v => insert r.1 v t

theorem foldl_enterRow_none (rows : List (String × Doc)) :
    rows.foldl (enterRow reader insert depth) none = none := by
  induction rows with
  | nil => rfl
  | cons r rows ih => exact ih

theorem Members.Lists.readTable {members : Members} {rows : List (String × Doc)}
    (h : members.Lists rows) (t : τ) :
    (members.readTable reader insert depth t).toOption =
      rows.foldl (enterRow reader insert depth) (some t) := by
  induction h generalizing t with
  | close stop => rfl
  | @member key name rest rows lead after d named _ ih =>
    rw [List.foldl_cons, Members.readTable, named]
    simp only [bind, Except.bind, enterRow, Option.bind_some]
    cases reader depth d with
    | error => exact (foldl_enterRow_none rows).symm
    | ok v => exact ih (insert name v t)

/-- A table whose entries of different names may be put in in any order. -/
theorem readTable_ignores (hreader : IgnoresOrder (reader depth))
    (comm : ∀ name other : String, name ≠ other → ∀ v w t,
      insert other w (insert name v t) = insert name v (insert other w t))
    {members members' : Members} {rows others : List (String × Doc)}
    (lists : members.Lists rows) (lists' : members'.Lists others) (alike : RowsAlike rows others)
    (t : τ) : (members.readTable reader insert depth t).toOption =
      (members'.readTable reader insert depth t).toOption := by
  rw [lists.readTable, lists'.readTable]
  refine alike.foldl_eq (fun r s hrs t? => ?_) (fun r s hne t? => ?_) (some t)
  · obtain ⟨hname, hdoc⟩ := hrs
    simp only [enterRow, hname, hreader _ _ hdoc]
  · cases t? with
    | none => rfl
    | some t =>
      simp only [enterRow, Option.bind_some]
      cases (reader depth r.2).toOption <;> cases (reader depth s.2).toOption <;>
        simp [comm _ _ hne]

end Tables

/-- Two texts of a value whose members stand in different orders are read alike. -/
theorem readText_reordered {α : Type} {reader : (depth : Nat) → Doc → Except Complaint α}
    (hreader : IgnoresOrder (reader depthLimit)) {v w : Written} {raw other : String}
    (hraw : IsText raw v) (hother : IsText other w) (hreorders : v.Reorders w)
    (hdistinct : v.Distinct) :
    (readText reader raw).toOption = (readText reader other).toOption := by
  obtain ⟨d, hd, hv⟩ := hraw.source
  obtain ⟨e, he, hw⟩ := hother.source
  have halike : d.Alike e := ⟨v, w, hreorders, hdistinct, hv, hw⟩
  simp only [readText, hd, he, Source.read, toOption_mapError, toOption_bind, hreader d e halike]

end Devnet.Json
