import Devnet.Config.Load
import Devnet.Proofs.Json.OrderFree
import Devnet.Proofs.Json.Printing
import Mathlib.Data.Option.Basic
import Mathlib.Data.String.Basic

namespace Devnet

open Json (Complaint Doc Items Members IgnoresOrder RowsAlike RowAlike Written FieldReader
  RecordShape)

namespace AccountSource

/-- What an item of a list comes to; only a string is a text. -/
def textOf : Json → Except Complaint String
  | .string s => .ok s
  | v => .error (complaint (.wrongType (Json.found v) "a string"))

theorem textsOf_array_eq (vs : List Json) : textsOf (.array vs) = vs.mapM textOf := by
  rw [textsOf]
  congr 1

/-- What no value in a family is good for, is refused wherever it comes from. -/
theorem toOption_map_bind_none {ε α β γ : Type} (x : Except ε α) {f : α → β} {g : β → Except ε γ}
    (h : ∀ a, (g (f a)).toOption = none) : (x.map f >>= g).toOption = none := by
  cases x with
  | error => rfl
  | ok a => exact h a

theorem readText_ignoresOrder (depth : Nat) :
    IgnoresOrder fun d => d.read depth >>= textOf := by
  intro d e h
  cases h.matches with
  | null | bool => rfl
  | number =>
    simp only [Doc.read]
    rw [toOption_map_bind_none _ fun _ => rfl, toOption_map_bind_none _ fun _ => rfl]
  | string text text' => simp only [Doc.read, text, text']
  | array | object =>
    cases depth with
    | zero => rfl
    | succ depth =>
      simp only [Doc.read]
      rw [toOption_map_bind_none _ fun _ => rfl, toOption_map_bind_none _ fun _ => rfl]

/-- The items may be read and turned into texts one by one. -/
theorem readTexts_cons (depth lead : Nat) (d : Doc) (rest : Items) :
    ((Items.item lead d rest).read depth >>= fun vs => vs.mapM textOf).toOption =
      (d.read depth >>= textOf).toOption.bind fun t =>
        (rest.read depth >>= fun vs => vs.mapM textOf).toOption.map (t :: ·) := by
  simp only [Items.read, toOption_bind, toOption_pure, List.mapM_cons, Option.bind_assoc,
    Option.bind_some]
  cases (d.read depth).toOption with
  | none => rfl
  | some v =>
    simp only [Option.bind_some]
    cases (rest.read depth).toOption <;> cases (textOf v).toOption <;>
      simp [Option.map_eq_bind]

theorem readItemTexts_ignores (depth : Nat) {items items' : Items} {ds es : List Doc}
    (lists : items.Lists ds) (lists' : items'.Lists es) (alike : List.Forall₂ Doc.Alike ds es) :
    (items.read depth >>= fun vs => vs.mapM textOf).toOption =
      (items'.read depth >>= fun vs => vs.mapM textOf).toOption := by
  induction alike generalizing items items' with
  | nil =>
    cases lists
    cases lists'
    rfl
  | cons hde _ ih =>
    cases lists with
    | item lead d lists =>
      cases lists' with
      | item lead' e lists' =>
        rw [readTexts_cons, readTexts_cons, ih lists lists', readText_ignoresOrder depth _ _ hde]

theorem readTexts_ignoresOrder (depth : Nat) :
    IgnoresOrder fun d => d.read depth >>= textsOf := by
  intro d e h
  cases h.matches with
  | null | bool => rfl
  | number =>
    simp only [Doc.read]
    rw [toOption_map_bind_none _ fun _ => rfl, toOption_map_bind_none _ fun _ => rfl]
  | string text text' => simp only [Doc.read, text, text']
  | array lists lists' alike =>
    cases depth with
    | zero => rfl
    | succ depth =>
      have hitems := readItemTexts_ignores depth lists lists' alike
      simpa only [Doc.read, toOption_bind, toOption_map, Option.bind_map,
        Function.comp_def, textsOf_array_eq] using hitems
  | object =>
    cases depth with
    | zero => rfl
    | succ depth =>
      simp only [Doc.read]
      rw [toOption_map_bind_none _ fun _ => rfl, toOption_map_bind_none _ fun _ => rfl]

/-- The row is read whole and gives the member. -/
def ReadsRow (depth : Nat) (r : String × Doc) (m : String × Json) : Prop :=
  r.1 = m.1 ∧ r.2.read depth = .ok m.2

/-- The kind is the one that was seen, or the one that the only tag names. -/
def Tagged (kind : Kind) (rows : List (String × Doc)) : Option Kind → Prop
  | some seen => seen = kind ∧ ∀ r ∈ rows, r.1 ≠ tagName
  | none => ∃ d, (tagName, d) ∈ rows ∧ d.readVariant Kind.variants = .ok kind

/-- The rows beside the tag. -/
def untagged (rows : List (String × Doc)) : List (String × Doc) :=
  rows.filter fun r => r.1 ≠ tagName

theorem untagged_cons_tag (d : Doc) (rows : List (String × Doc)) :
    untagged ((tagName, d) :: rows) = untagged rows := by
  simp [untagged]

theorem untagged_cons {name : String} (h : name ≠ tagName) (d : Doc) (rows : List (String × Doc)) :
    untagged ((name, d) :: rows) = (name, d) :: untagged rows := by
  simp [untagged, h]

theorem tagged_cons_iff {name : String} (h : name ≠ tagName) (d : Doc)
    (rows : List (String × Doc)) (kind : Kind) (tag : Option Kind) :
    Tagged kind ((name, d) :: rows) tag ↔ Tagged kind rows tag := by
  cases tag <;> simp [Tagged, h, h.symm]

theorem readMembers_eq_ok_iff {depth : Nat} {members : Members} {rows : List (String × Doc)}
    (h : members.Lists rows) (distinct : (rows.map (·.1)).Nodup) (tag : Option Kind) {kind : Kind}
    {ms : List (String × Json)} :
    readMembers depth tag members = .ok (kind, ms) ↔
      Tagged kind rows tag ∧ List.Forall₂ (ReadsRow depth) (untagged rows) ms := by
  induction h generalizing tag ms with
  | close stop => cases tag <;> simp [readMembers, Tagged, untagged, eq_comm]
  | @member key name rest rows lead after d named _ ih =>
    obtain ⟨hname, hrows⟩ := List.nodup_cons.mp distinct
    rw [readMembers, named]
    change (if name = tagName then _ else _) = _ ↔ _
    by_cases htag : name = tagName
    · subst htag
      -- names are distinct, so there is no second tag among the rows behind
      have habsent : ∀ r ∈ rows, r.1 ≠ tagName := by
        intro r hr heq
        exact hname (List.mem_map.mpr ⟨r, hr, heq⟩)
      rw [if_pos rfl, untagged_cons_tag]
      cases tag with
      | some seen => simp [Tagged]
      | none =>
        rw [if_neg (by simp), bind_eq_ok_iff]
        simp only [ih hrows, Tagged]
        constructor
        · rintro ⟨k, hk, ⟨rfl, -⟩, hms⟩
          exact ⟨⟨d, List.mem_cons_self, hk⟩, hms⟩
        · rintro ⟨⟨e, he, hk⟩, hms⟩
          rcases List.mem_cons.mp he with heq | he
          · cases heq
            exact ⟨kind, hk, ⟨rfl, habsent⟩, hms⟩
          · exact absurd rfl (habsent _ he)
    · rw [if_neg htag, untagged_cons htag, tagged_cons_iff htag, List.forall₂_cons_left_iff,
        bind_eq_ok_iff]
      simp only [bind_eq_ok_iff]
      constructor
      · rintro ⟨v, hv, ⟨k, ns⟩, hrest, heq⟩
        cases heq
        obtain ⟨hkind, hns⟩ := (ih hrows tag).mp hrest
        exact ⟨hkind, (name, v), ns, ⟨rfl, hv⟩, hns, rfl⟩
      · rintro ⟨hkind, ⟨n, v⟩, ns, ⟨rfl, hv⟩, hns, rfl⟩
        exact ⟨v, hv, (kind, ns), (ih hrows tag).mpr ⟨hkind, hns⟩, rfl⟩

theorem go_some {name : String} {ms : List (String × Json)} (habsent : ∀ m ∈ ms, m.1 ≠ name)
    (texts : List String) : listOf.go name (some texts) ms = .ok texts := by
  induction ms with
  | nil => rfl
  | cons m ms ih =>
    rw [listOf.go, if_neg (habsent m List.mem_cons_self)]
    exact ih fun n hn => habsent n (List.mem_cons_of_mem m hn)

theorem listOf_eq_ok_iff {name : String} {ms : List (String × Json)}
    (distinct : (ms.map (·.1)).Nodup) {texts : List String} :
    listOf name ms = .ok texts ↔ ∃ v, (name, v) ∈ ms ∧ textsOf v = .ok texts := by
  rw [listOf]
  induction ms with
  | nil => simp [listOf.go]
  | cons m ms ih =>
    obtain ⟨n, v⟩ := m
    obtain ⟨hn, hms⟩ := List.nodup_cons.mp distinct
    rw [listOf.go]
    by_cases hname : n = name
    · subst hname
      have habsent : ∀ m ∈ ms, m.1 ≠ n := by
        intro m hm heq
        exact hn (List.mem_map.mpr ⟨m, hm, heq⟩)
      have habsent' (w : Json) : (n, w) ∉ ms := fun hw => habsent _ hw rfl
      have hbind : ((textsOf v).bind fun texts => listOf.go n (some texts) ms) = textsOf v := by
        cases textsOf v with
        | error => rfl
        | ok texts => exact go_some habsent texts
      simp [hbind, habsent']
    · rw [if_neg hname, ih hms]
      simp [Ne.symm hname]

theorem listName_ne_tagName (l : Listed) : l.listName ≠ tagName := by cases l <;> decide

/-- What a source of the kind is built from. -/
def BuiltFrom (depth : Nat) (rows : List (String × Doc)) (a : AccountSource) : Kind → Prop
  | .bare => a = .node
  | .listed l => ∃ d texts, (l.listName, d) ∈ rows ∧
      (d.read depth >>= textsOf) = .ok texts ∧ a = l.build texts

/-- Without a word on the order of the rows: one of them is the tag, each other is read whole, and
the one with the list holds texts. -/
structure ObjectGives (depth : Nat) (rows : List (String × Doc)) (a : AccountSource) : Prop where
  others : ∀ r ∈ rows, r.1 ≠ tagName → ∃ v, r.2.read depth = .ok v
  built : ∃ kind d, (tagName, d) ∈ rows ∧ d.readVariant Kind.variants = .ok kind ∧
    BuiltFrom depth rows a kind

theorem exists_forall₂_iff {depth : Nat} {rows : List (String × Doc)} :
    (∃ ms, List.Forall₂ (ReadsRow depth) rows ms) ↔ ∀ r ∈ rows, ∃ v, r.2.read depth = .ok v := by
  induction rows with
  | nil => simp
  | cons r rows ih =>
    rw [List.forall_mem_cons, ← ih]
    constructor
    · rintro ⟨_, _ | ⟨hr, hrows⟩⟩
      exact ⟨⟨_, hr.2⟩, _, hrows⟩
    · rintro ⟨⟨v, hv⟩, ms, hms⟩
      exact ⟨(r.1, v) :: ms, .cons ⟨rfl, hv⟩ hms⟩

theorem mem_untagged {rows : List (String × Doc)} {r : String × Doc} :
    r ∈ untagged rows ↔ r ∈ rows ∧ r.1 ≠ tagName := by
  simp [untagged]

theorem ofMembers_eq_ok_iff {depth : Nat} {rows : List (String × Doc)}
    {ms : List (String × Json)} (h : List.Forall₂ (ReadsRow depth) (untagged rows) ms)
    (distinct : (rows.map (·.1)).Nodup) {kind : Kind} {a : AccountSource} :
    ofMembers kind ms = .ok a ↔ BuiltFrom depth rows a kind := by
  have hnames : (ms.map (·.1)).Nodup := by
    rw [← names_of_forall₂ (fun _ _ h => h.1) h]
    exact distinct.sublist ((List.filter_sublist).map _)
  cases kind with
  | bare => simp [ofMembers, BuiltFrom, eq_comm]
  | listed l =>
    rw [ofMembers, map_eq_ok_iff]
    constructor
    · rintro ⟨texts, hlist, rfl⟩
      obtain ⟨v, hv, htexts⟩ := (listOf_eq_ok_iff hnames).mp hlist
      obtain ⟨⟨name, d⟩, hr, hname, hread⟩ :=
        exists_of_mem_forall₂ (R := flip (ReadsRow depth)) h.flip hv
      obtain rfl : name = l.listName := hname
      exact ⟨d, texts, (mem_untagged.mp hr).1, bind_eq_ok_iff.mpr ⟨v, hread, htexts⟩, rfl⟩
    · rintro ⟨d, texts, hd, htexts, rfl⟩
      have hr := mem_untagged.mpr ⟨hd, listName_ne_tagName l⟩
      obtain ⟨⟨name, v⟩, hv, hname, hread⟩ := exists_of_mem_forall₂ h hr
      obtain rfl : l.listName = name := hname
      obtain ⟨w, hw, htexts⟩ := bind_eq_ok_iff.mp htexts
      obtain rfl : w = v := Except.ok.inj (hw.symm.trans hread)
      exact ⟨texts, (listOf_eq_ok_iff hnames).mpr ⟨w, hv, htexts⟩, rfl⟩

theorem readObject_eq_ok_iff {depth : Nat} {members : Members} {rows : List (String × Doc)}
    (h : members.Lists rows) (distinct : (rows.map (·.1)).Nodup) {a : AccountSource} :
    (readMembers depth none members >>= fun p => ofMembers p.1 p.2) = .ok a ↔
      ObjectGives depth rows a := by
  rw [bind_eq_ok_iff]
  constructor
  · rintro ⟨⟨kind, ms⟩, hmembers, hof⟩
    obtain ⟨⟨d, hd, hkind⟩, hms⟩ := (readMembers_eq_ok_iff h distinct none).mp hmembers
    refine ⟨fun r hr htag => ?_, kind, d, hd, hkind, (ofMembers_eq_ok_iff hms distinct).mp hof⟩
    exact exists_forall₂_iff.mp ⟨ms, hms⟩ r (mem_untagged.mpr ⟨hr, htag⟩)
  · rintro ⟨hothers, kind, d, hd, hkind, hbuilt⟩
    obtain ⟨ms, hms⟩ := exists_forall₂_iff.mpr fun r hr =>
      hothers r (mem_untagged.mp hr).1 (mem_untagged.mp hr).2
    exact ⟨(kind, ms), (readMembers_eq_ok_iff h distinct none).mpr ⟨⟨d, hd, hkind⟩, hms⟩,
      (ofMembers_eq_ok_iff hms distinct).mpr hbuilt⟩

theorem BuiltFrom.transfer {depth : Nat} {rows others : List (String × Doc)}
    (hto : ∀ r ∈ rows, ∃ s ∈ others, RowAlike r s) {a : AccountSource} {kind : Kind}
    (h : BuiltFrom depth rows a kind) : BuiltFrom depth others a kind := by
  cases kind with
  | bare => exact h
  | listed l =>
    obtain ⟨d, texts, hd, htexts, rfl⟩ := h
    obtain ⟨⟨name, e⟩, he, hname, halike⟩ := hto _ hd
    obtain rfl : l.listName = name := hname
    exact ⟨e, texts, he, (readTexts_ignoresOrder depth).ok halike htexts, rfl⟩

theorem ObjectGives.transfer {depth : Nat} {rows others : List (String × Doc)}
    (hto : ∀ r ∈ rows, ∃ s ∈ others, RowAlike r s) (hfrom : ∀ s ∈ others, ∃ r ∈ rows, RowAlike r s)
    {a : AccountSource} (h : ObjectGives depth rows a) : ObjectGives depth others a := by
  obtain ⟨hothers, kind, d, hd, hkind, hbuilt⟩ := h
  refine ⟨fun s hs htag => ?_, ?_⟩
  · obtain ⟨r, hr, hname, halike⟩ := hfrom s hs
    exact (halike.read_ok_iff depth).mp (hothers r hr (hname ▸ htag))
  · obtain ⟨⟨name, e⟩, he, hname, halike⟩ := hto _ hd
    obtain rfl : tagName = name := hname
    exact ⟨kind, e, he, (Doc.readVariant_ignoresOrder _).ok halike hkind, hbuilt.transfer hto⟩

theorem objectGives_iff {depth : Nat} {rows others : List (String × Doc)}
    (h : RowsAlike rows others) (a : AccountSource) :
    ObjectGives depth rows a ↔ ObjectGives depth others a := by
  have hto : ∀ r ∈ rows, ∃ s ∈ others, RowAlike r s := fun r hr => h.exists_right hr
  have hfrom : ∀ s ∈ others, ∃ r ∈ rows, RowAlike r s := fun s hs => h.exists_left hs
  refine ⟨fun hgives => hgives.transfer hto hfrom, fun hgives => hgives.transfer ?_ ?_⟩
  · intro s hs
    obtain ⟨r, hr, hrs⟩ := hfrom s hs
    exact ⟨r, hr, hrs.symm⟩
  · intro r hr
    obtain ⟨s, hs, hrs⟩ := hto r hr
    exact ⟨s, hs, hrs.symm⟩

/-- What the items behind the kind come to: the bare kind has none, the others have one list. -/
def restGives (depth : Nat) : Kind → List Doc → Option AccountSource
  | .bare, [] => some .node
  | .listed l, [d] => (d.read depth >>= textsOf).toOption.map l.build
  | _, _ => none

/-- More than one value is too many, whatever the kind. -/
theorem toOption_ofItems_long (kind : Kind) (v w : Json) (vs : List Json) :
    (ofItems kind (v :: w :: vs)).toOption = none := by
  cases kind with
  | bare => rfl
  | listed l =>
    simp only [ofItems, bind, Except.bind]
    cases textsOf v <;> rfl

theorem toOption_ofItems_single (kind : Kind) (v : Json) :
    (ofItems kind [v]).toOption =
      match kind with
      | .bare => none
      | .listed l => (textsOf v).toOption.map l.build := by
  cases kind with
  | bare => rfl
  | listed l =>
    simp only [ofItems, bind, Except.bind]
    cases textsOf v <;> rfl

theorem toOption_readRest {depth : Nat} {items : Items} {ds : List Doc} (h : items.Lists ds)
    (kind : Kind) : (items.read depth >>= ofItems kind).toOption = restGives depth kind ds := by
  cases h with
  | close => cases kind <;> rfl
  | item lead d lists =>
    cases lists with
    | close =>
      simp only [Items.read, toOption_bind, toOption_ok, toOption_pure,
        Option.bind_assoc, Option.bind_some, toOption_ofItems_single]
      cases kind with
      | bare => exact Option.bind_fun_none _
      | listed l =>
        rw [restGives, toOption_bind, Option.map_bind]
        rfl
    | @item _ es lead e lists =>
      have hgives : restGives depth kind (d :: e :: es) = none := by cases kind <;> rfl
      simp [hgives, Items.read, toOption_bind, toOption_ofItems_long]

theorem readRest_ignores (depth : Nat) {items items' : Items} {ds es : List Doc}
    (lists : items.Lists ds) (lists' : items'.Lists es) (alike : List.Forall₂ Doc.Alike ds es)
    (kind : Kind) :
    (items.read depth >>= ofItems kind).toOption =
      (items'.read depth >>= ofItems kind).toOption := by
  rw [toOption_readRest lists, toOption_readRest lists']
  cases alike with
  | nil => rfl
  | cons hde rest =>
    cases rest with
    | nil =>
      cases kind with
      | bare => rfl
      | listed l => rw [restGives, restGives, readTexts_ignoresOrder depth _ _ hde]
    | cons => cases kind <;> rfl

/-- In an array the kind comes first. -/
theorem readItems_ignores {depth : Nat} {items items' : Items} {ds es : List Doc}
    (lists : items.Lists ds) (lists' : items'.Lists es) (alike : List.Forall₂ Doc.Alike ds es) :
    (readItems depth items >>= fun p => ofItems p.1 p.2).toOption =
      (readItems depth items' >>= fun p => ofItems p.1 p.2).toOption := by
  cases lists with
  | close =>
    cases alike
    cases lists'
    rfl
  | item lead d lists =>
    cases alike with
    | cons hde rest =>
      cases lists' with
      | item lead' e lists' =>
        have hrest := readRest_ignores depth lists lists' rest
        simp only [toOption_bind] at hrest
        simp only [readItems, toOption_bind, toOption_pure, Option.bind_assoc,
          Option.bind_some, hrest, Doc.readVariant_ignoresOrder _ _ _ hde]

theorem read_ignoresOrder (depth : Nat) : IgnoresOrder (AccountSource.read depth) := by
  intro d e h
  cases h.matches with
  | array lists lists' alike =>
    exact Doc.enter_ignores fun k => readItems_ignores lists lists' alike
  | object lists lists' alike =>
    refine Doc.enter_ignores fun k => Option.ext fun a => ?_
    rw [toOption_eq_some_iff, toOption_eq_some_iff]
    exact (readObject_eq_ok_iff lists alike.distinct).trans ((objectGives_iff alike a).trans
      (readObject_eq_ok_iff lists' alike.distinct_right).symm)
  | _ => rfl

end AccountSource

namespace NameTable

variable {α : Type}

theorem insertRow_comm {name other : String} (hne : name ≠ other) (v w : α)
    (rows : List (String × α)) :
    insertRow other w (insertRow name v rows) = insertRow name v (insertRow other w rows) := by
  have hnames : name < other ∨ other < name := lt_or_gt_of_ne hne
  induction rows with
  | nil => rcases hnames with h | h <;> simp [insertRow, h, hne, hne.symm, h.not_gt]
  | cons r rows ih =>
    -- Each name goes before the row, in its place or behind it.
    obtain ⟨n, x⟩ := r
    rcases lt_trichotomy name n with h | h | h <;>
      rcases lt_trichotomy other n with k | k | k <;> grind [insertRow]

/-- Rows of different names may be put in in either order. -/
theorem insert_comm {name other : String} (hne : name ≠ other) (v w : α) (t : NameTable α) :
    (t.insert name v).insert other w = (t.insert other w).insert name v :=
  NameTable.ext (insertRow_comm hne v w t.rows)

end NameTable

namespace NetworkEntry

theorem shape_orderFree : shape.OrderFree where
  reads f hf depth s := by
    simp only [shape, List.mem_cons, List.not_mem_nil, or_false] at hf
    rcases hf with rfl | rfl | rfl
    · exact Doc.readNatural_ignoresOrder.map _
    · exact (Doc.readString_ignoresOrder _).map _
    · exact (AccountSource.read_ignoresOrder depth).map _
  apart f hf g hg hne := by
    simp only [shape, List.mem_cons, List.not_mem_nil, or_false] at hf hg
    rcases hf with rfl | rfl | rfl <;> rcases hg with rfl | rfl | rfl <;>
      first
      | exact absurd rfl hne
      | exact FieldReader.apart_of_set (fun _ _ _ => rfl) (fun _ _ _ => rfl) (fun _ _ _ => rfl)
          (fun _ _ => rfl)

end NetworkEntry

namespace FixtureTexts

theorem shape_orderFree : shape.OrderFree where
  reads f hf depth s := by
    simp only [shape, List.mem_cons, List.not_mem_nil, or_false] at hf
    rcases hf with rfl | rfl <;> exact (Doc.readString_ignoresOrder _).map _
  apart f hf g hg hne := by
    simp only [shape, List.mem_cons, List.not_mem_nil, or_false] at hf hg
    rcases hf with rfl | rfl <;> rcases hg with rfl | rfl <;>
      first
      | exact absurd rfl hne
      | exact FieldReader.apart_of_set (fun _ _ _ => rfl) (fun _ _ _ => rfl) (fun _ _ _ => rfl)
          (fun _ _ => rfl)

end FixtureTexts

namespace Config

theorem readNetworks_ignoresOrder (depth : Nat) : IgnoresOrder (readNetworks depth) := by
  intro d e h
  cases h.matches with
  | object lists lists' alike =>
    exact Doc.enter_ignores fun k =>
      Json.readTable_ignores (NetworkEntry.shape_orderFree.read_ignoresOrder k)
        (fun _ _ hne v w t => t.insert_comm hne v w) lists lists' alike NameTable.empty
  | _ => rfl

theorem shape_orderFree : shape.OrderFree where
  reads f hf depth s := by
    simp only [shape, List.mem_cons, List.not_mem_nil, or_false] at hf
    rcases hf with rfl | rfl | rfl | rfl
    · exact (readNetworks_ignoresOrder depth).map _
    · exact (FixtureTexts.shape_orderFree.read_ignoresOrder depth).map _
    · exact Doc.readNatural_ignoresOrder.map _
    · exact Doc.readNatural_ignoresOrder.map _
  apart f hf g hg hne := by
    simp only [shape, List.mem_cons, List.not_mem_nil, or_false] at hf hg
    rcases hf with rfl | rfl | rfl | rfl <;> rcases hg with rfl | rfl | rfl | rfl <;>
      first
      | exact absurd rfl hne
      | exact FieldReader.apart_of_set (fun _ _ _ => rfl) (fun _ _ _ => rfl) (fun _ _ _ => rfl)
          (fun _ _ => rfl)

theorem toOption_parse (raw : String) :
    (parse raw).toOption = (decode raw).toOption.bind fun c => c.validate.toOption := by
  rw [parse]
  cases decode raw <;> rfl

/-- Texts whose values differ only in the order of the members of their objects, and in the blanks
between the tokens, are parsed to the same configuration. -/
theorem parse_reordered {v w : Written} {raw other : String} (hreorders : v.Reorders w)
    (hdistinct : v.Distinct) (hraw : Json.IsText raw v) (hother : Json.IsText other w)
    (c : Config) : parse raw = .ok c ↔ parse other = .ok c := by
  have hdecode : (decode raw).toOption = (decode other).toOption :=
    Json.readText_reordered (shape_orderFree.read_ignoresOrder Json.depthLimit) hraw hother
      hreorders hdistinct
  rw [← toOption_eq_some_iff, ← toOption_eq_some_iff, toOption_parse, toOption_parse,
    hdecode]

/-- The tag stands behind the list, and a member that nothing reads stands between the others. -/
theorem parse_tag_last :
    let entry (accounts : List (String × Json)) : Json :=
      .object [("chain_id", .natural 31337), ("accounts", .object accounts)]
    let networks (accounts : List (String × Json)) : String × Json :=
      ("networks", .object [("hardhat", entry accounts)])
    let tagFirst : Json := .object
      [networks [("source", .string "keys"), ("private_keys", .array [])], ("note", .null),
        ("poll_interval_ms", .natural 250)]
    let tagLast : Json := .object [("poll_interval_ms", .natural 250), ("note", .null),
      networks [("private_keys", .array []), ("source", .string "keys")]]
    let c : Config := ⟨NameTable.empty.insert "hardhat" ⟨31337, Defaults.rpcUrl, .keys []⟩,
      .builtIn, Defaults.receiptTimeoutSeconds, 250⟩
    parse tagFirst.text = .ok c ↔ parse ("\n" ++ tagLast.text) = .ok c := by
  intro entry networks tagFirst tagLast c
  have hreorders : tagFirst.written.Reorders tagLast.written :=
    .trans (.inMember (.inMember (.inMember (.members (.swap ..)) "accounts" [_] [])
      "hardhat" [] []) "networks" [] [_, _]) (.members (List.reverse_perm _).symm)
  have hdistinct : tagFirst.written.Distinct := by
    simp [tagFirst, networks, entry, Json.natural, Json.written, Json.writtenMembers,
      Json.writtenItems, Written.distinct_object_iff, Written.distinct_array_iff,
      Written.Distinct.null, Written.Distinct.number, Written.Distinct.string]
  have hnull : Json.Prints .null := .null
  have hempty : Json.Prints (.array []) := Json.prints_array (by simp)
  have hsource : Json.Prints (.string "keys") := Json.prints_string "keys"
  have hprints (accounts : List (String × Json)) (h : ∀ m ∈ accounts, Json.Prints m.2) :
      Json.Prints (networks accounts).2 := by
    have hentry : Json.Prints (entry accounts) :=
      Json.prints_object (by simpa using ⟨Json.prints_natural 31337, Json.prints_object h⟩)
    exact Json.prints_object (by simpa using hentry)
  have hfirst : Json.Prints tagFirst := Json.prints_object
    (by simpa using ⟨hprints _ (by simpa using ⟨hsource, hempty⟩), hnull, Json.prints_natural 250⟩)
  have hlast : Json.Prints tagLast := Json.prints_object
    (by simpa using ⟨Json.prints_natural 250, hnull, hprints _ (by simpa using ⟨hempty, hsource⟩)⟩)
  have hblank : Json.Blank ['\n'] := by simp [Json.Blank, Json.isSpace]
  have hother : Json.IsText ("\n" ++ tagLast.text) tagLast.written := hlast.isText hblank
  have hraw := hfirst.isText Json.blank_nil
  rw [String.ofList_nil, String.empty_append] at hraw
  exact parse_reordered hreorders hdistinct hraw hother c

end Config

end Devnet
