import Devnet.Proofs.Json.Written
import Devnet.Proofs.Results
import Mathlib.Data.List.Perm.Basic

namespace Devnet.Json

namespace Written

/-- The second value is the first with the members of its objects put into another order. -/
inductive Reorders : Written → Written → Prop where
  | refl (v : Written) : Reorders v v
  | trans {u v w : Written} (first : Reorders u v) (next : Reorders v w) : Reorders u w
  | members {ms ns : List (String × Written)} (order : ms.Perm ns) :
      Reorders (.object ms) (.object ns)
  | inItem {v w : Written} (h : Reorders v w) (before after : List Written) :
      Reorders (.array (before ++ v :: after)) (.array (before ++ w :: after))
  | inMember {v w : Written} (h : Reorders v w) (name : String)
      (before after : List (String × Written)) :
      Reorders (.object (before ++ (name, v) :: after)) (.object (before ++ (name, w) :: after))

/-- No object, at any depth, has two members of one name. -/
inductive Distinct : Written → Prop where
  | null : Distinct .null
  | bool (b : Bool) : Distinct (.bool b)
  | number (n : Option Number) : Distinct (.number n)
  | string (s : String) : Distinct (.string s)
  | array {vs : List Written} (items : ∀ v ∈ vs, Distinct v) : Distinct (.array vs)
  | object {ms : List (String × Written)} (names : (ms.map (·.1)).Nodup)
      (values : ∀ m ∈ ms, Distinct m.2) : Distinct (.object ms)

/-- Two members of one name whose values differ in the order of members only. -/
def MemberReorders (m n : String × Written) : Prop := m.1 = n.1 ∧ m.2.Reorders n.2

theorem MemberReorders.trans {l m n : String × Written} (h : MemberReorders l m)
    (k : MemberReorders m n) : MemberReorders l n :=
  ⟨h.1.trans k.1, h.2.trans k.2⟩

/-- What a reordered value comes to at its top: the members one by one, and then their order. -/
inductive Opened : Written → Written → Prop where
  | null : Opened .null .null
  | bool (b : Bool) : Opened (.bool b) (.bool b)
  | number (n : Option Number) : Opened (.number n) (.number n)
  | string (s : String) : Opened (.string s) (.string s)
  | array {vs ws : List Written} (items : List.Forall₂ Reorders vs ws) :
      Opened (.array vs) (.array ws)
  | object {ms os ns : List (String × Written)} (members : List.Forall₂ MemberReorders ms os)
      (order : os.Perm ns) : Opened (.object ms) (.object ns)

theorem Reorders.symm {v w : Written} (h : v.Reorders w) : w.Reorders v := by
  induction h with
  | refl v => exact .refl v
  | trans _ _ ihf ihn => exact ihn.trans ihf
  | members order => exact .members order.symm
  | inItem _ before after ih => exact .inItem ih before after
  | inMember _ name before after ih => exact .inMember ih name before after

theorem distinct_array_iff {vs : List Written} :
    (Written.array vs).Distinct ↔ ∀ v ∈ vs, v.Distinct :=
  ⟨fun | .array items => items, .array⟩

theorem distinct_object_iff {ms : List (String × Written)} :
    (Written.object ms).Distinct ↔ (ms.map (·.1)).Nodup ∧ ∀ m ∈ ms, m.2.Distinct :=
  ⟨fun | .object names values => ⟨names, values⟩, fun h => .object h.1 h.2⟩

theorem Reorders.distinct {v w : Written} (h : v.Reorders w) (distinct : v.Distinct) :
    w.Distinct := by
  induction h with
  | refl => exact distinct
  | trans _ _ ihf ihn => exact ihn (ihf distinct)
  | members order =>
    obtain ⟨names, values⟩ := distinct_object_iff.mp distinct
    exact .object ((order.map _).nodup_iff.mp names) fun m hm => values m (order.mem_iff.mpr hm)
  | inItem _ before after ih =>
    simp only [distinct_array_iff, List.forall_mem_append, List.forall_mem_cons] at distinct ⊢
    exact ⟨distinct.1, ih distinct.2.1, distinct.2.2⟩
  | inMember _ name before after ih =>
    simp only [distinct_object_iff, List.forall_mem_append, List.forall_mem_cons,
      List.map_append, List.map_cons] at distinct ⊢
    exact ⟨distinct.1, distinct.2.1, ih distinct.2.2.1, distinct.2.2.2⟩

theorem items_refl (vs : List Written) : List.Forall₂ Reorders vs vs :=
  List.forall₂_same.mpr fun v _ => .refl v

theorem members_refl (ms : List (String × Written)) : List.Forall₂ MemberReorders ms ms :=
  List.forall₂_same.mpr fun m _ => ⟨rfl, .refl m.2⟩

theorem Opened.refl (v : Written) : Opened v v := by
  cases v with
  | null => exact .null
  | bool b => exact .bool b
  | number n => exact .number n
  | string s => exact .string s
  | array vs => exact .array (items_refl vs)
  | object ms => exact .object (members_refl ms) (.refl ms)

theorem Opened.trans {u v w : Written} (h : Opened u v) (k : Opened v w) : Opened u w := by
  cases h with
  | null | bool | number | string => exact k
  | array items =>
    cases k with
    | array items' => exact .array (forall₂_join items items' fun _ _ _ _ h k => h.trans k)
  | object members order =>
    cases k with
    | object members' order' =>
      -- The second values are met in the first order: the orders are then put together.
      obtain ⟨mid, hmembers, horder⟩ := List.perm_comp_forall₂ order members'
      exact .object (forall₂_join members hmembers fun _ _ _ _ h k => h.trans k)
        (horder.trans order')

theorem Reorders.opened {v w : Written} (h : v.Reorders w) : Opened v w := by
  induction h with
  | refl v => exact .refl v
  | trans _ _ ihf ihn => exact ihf.trans ihn
  | members order => exact .object (members_refl _) order
  | inItem h before after =>
    exact .array (List.rel_append (items_refl before) (.cons h (items_refl after)))
  | @inMember v w h name before after =>
    have hmember : MemberReorders (name, v) (name, w) := ⟨rfl, h⟩
    exact .object (List.rel_append (members_refl before) (.cons hmember (members_refl after)))
      (.refl _)

end Written

/-- The tree of an array that is closed holds these items. -/
inductive Items.Lists : Items → List Doc → Prop where
  | close (stop : Nat) : Lists (.close stop) []
  | item {rest : Items} {ds : List Doc} (lead : Nat) (d : Doc) (lists : Lists rest ds) :
      Lists (.item lead d rest) (d :: ds)

/-- The tree of an object that is closed has these rows, each a name and the tree of a value. -/
inductive Members.Lists : Members → List (String × Doc) → Prop where
  | close (stop : Nat) : Lists (.close stop) []
  | member {key : StringLiteral} {name : String} {rest : Members} {rows : List (String × Doc)}
      (lead after : Nat) (d : Doc) (named : key.text = .ok name) (lists : Lists rest rows) :
      Lists (.member lead key after d rest) ((name, d) :: rows)

theorem Items.Holds.lists {items : Items} {vs : List Written} (h : items.Holds vs) :
    ∃ ds, items.Lists ds ∧ List.Forall₂ Doc.Holds ds vs := by
  match items, vs, h with
  | .close stop, [], _ => exact ⟨[], .close stop, .nil⟩
  | .item lead d rest, v :: vs, ⟨hd, hrest⟩ =>
    obtain ⟨ds, hlists, hholds⟩ := Items.Holds.lists hrest
    exact ⟨d :: ds, .item lead d hlists, .cons hd hholds⟩

/-- The row has the name of the member, and its tree holds the value. -/
def RowHolds (r : String × Doc) (m : String × Written) : Prop := r.1 = m.1 ∧ r.2.Holds m.2

theorem Members.Holds.lists {members : Members} {ms : List (String × Written)}
    (h : members.Holds ms) : ∃ rows, members.Lists rows ∧ List.Forall₂ RowHolds rows ms := by
  match members, ms, h with
  | .close stop, [], _ => exact ⟨[], .close stop, .nil⟩
  | .member lead key after d rest, (name, v) :: ms, ⟨hname, hd, hrest⟩ =>
    obtain ⟨rows, hlists, hholds⟩ := Members.Holds.lists hrest
    exact ⟨(name, d) :: rows, .member lead after d hname hlists, .cons ⟨rfl, hd⟩ hholds⟩

/-- The trees hold values without repeated names that differ in the order of members only. -/
def Doc.Alike (d e : Doc) : Prop :=
  ∃ v w : Written, v.Reorders w ∧ v.Distinct ∧ d.Holds v ∧ e.Holds w

theorem Doc.Alike.symm {d e : Doc} (h : d.Alike e) : e.Alike d := by
  obtain ⟨v, w, hreorders, hdistinct, hd, he⟩ := h
  exact ⟨w, v, hreorders.symm, hreorders.distinct hdistinct, he, hd⟩

def RowAlike (r s : String × Doc) : Prop := r.1 = s.1 ∧ r.2.Alike s.2

theorem RowAlike.symm {r s : String × Doc} (h : RowAlike r s) : RowAlike s r :=
  ⟨h.1.symm, h.2.symm⟩

/-- The rows of two objects that differ in the order of members only. -/
structure RowsAlike (rows others : List (String × Doc)) : Prop where
  distinct : (rows.map (·.1)).Nodup
  aligned : ∃ mid, List.Forall₂ RowAlike rows mid ∧ mid.Perm others

/-- Two trees that match at their top, and further down in what they hold. -/
inductive Doc.Matches : Doc → Doc → Prop where
  | null (i j i' j' : Nat) : Matches (.null i j) (.null i' j')
  | bool (b : Bool) (i j i' j' : Nat) : Matches (.bool b i j) (.bool b i' j')
  | number {l l' : NumberLiteral} (same : l.value.toOption = l'.value.toOption)
      (i j i' j' : Nat) : Matches (.number l i j) (.number l' i' j')
  | string {l l' : StringLiteral} {s : String} (text : l.text = .ok s) (text' : l'.text = .ok s)
      (i j i' j' : Nat) : Matches (.string l i j) (.string l' i' j')
  | array {items items' : Items} {ds es : List Doc} (lists : items.Lists ds)
      (lists' : items'.Lists es) (alike : List.Forall₂ Doc.Alike ds es) (i i' : Nat) :
      Matches (.array items i) (.array items' i')
  | object {members members' : Members} {rows others : List (String × Doc)}
      (lists : members.Lists rows) (lists' : members'.Lists others)
      (alike : RowsAlike rows others) (i i' : Nat) :
      Matches (.object members i) (.object members' i')

theorem forall₂_alike {ds es : List Doc} {vs ws : List Written}
    (hd : List.Forall₂ Doc.Holds ds vs) (he : List.Forall₂ Doc.Holds es ws)
    (h : List.Forall₂ Written.Reorders vs ws) (distinct : ∀ v ∈ vs, v.Distinct) :
    List.Forall₂ Doc.Alike ds es := by
  have hes : List.Forall₂ (flip Doc.Holds) ws es := he.flip
  have hws : List.Forall₂ (fun v e => ∃ w, v.Reorders w ∧ e.Holds w) vs es :=
    forall₂_join h hes fun _ w _ _ hvw he => ⟨w, hvw, he⟩
  exact forall₂_join hd hws fun _ v hv _ hd ⟨w, hvw, he⟩ => ⟨v, w, hvw, distinct v hv, hd, he⟩

theorem forall₂_rowAlike {rows others : List (String × Doc)} {ms ns : List (String × Written)}
    (hd : List.Forall₂ RowHolds rows ms) (he : List.Forall₂ RowHolds others ns)
    (h : List.Forall₂ Written.MemberReorders ms ns) (distinct : ∀ m ∈ ms, m.2.Distinct) :
    List.Forall₂ RowAlike rows others := by
  have hothers : List.Forall₂ (flip RowHolds) ns others := he.flip
  have hns : List.Forall₂ (fun m s => ∃ n, Written.MemberReorders m n ∧ RowHolds s n) ms others :=
    forall₂_join h hothers fun _ n _ _ hmn hs => ⟨n, hmn, hs⟩
  refine forall₂_join hd hns fun r m hm s hr ⟨n, hmn, hs⟩ => ⟨?_, ?_⟩
  · exact hr.1.trans (hmn.1.trans hs.1.symm)
  · exact ⟨m.2, n.2, hmn.2, distinct m hm, hr.2, hs.2⟩

/-- The rows are met in the order of the values: this aligns them. -/
theorem rowsAlike_of_opened {rows others : List (String × Doc)} {ms os ns : List (String × Written)}
    (hd : List.Forall₂ RowHolds rows ms) (he : List.Forall₂ RowHolds others ns)
    (members : List.Forall₂ Written.MemberReorders ms os) (order : os.Perm ns)
    (distinct : (Written.object ms).Distinct) : RowsAlike rows others := by
  cases distinct with
  | object names values =>
    obtain ⟨mid, hmid, hperm⟩ := List.perm_comp_forall₂ order (r := flip RowHolds) he.flip
    refine ⟨?_, mid, forall₂_rowAlike hd hmid.flip members values, hperm⟩
    rw [names_of_forall₂ (fun _ _ h => h.1) hd]
    exact names

/-- Trees that are alike match from the top down. -/
theorem Doc.Alike.matches {d e : Doc} (h : d.Alike e) : d.Matches e := by
  obtain ⟨v, w, hreorders, hdistinct, hd, he⟩ := h
  cases hreorders.opened with
  | null =>
    match d, hd, e, he with
    | .null .., _, .null .., _ => exact .null ..
  | bool b =>
    match d, hd, e, he with
    | .bool _ i j, rfl, .bool _ i' j', rfl => exact .bool _ i j i' j'
  | number n =>
    match d, hd, e, he with
    | .number .., hd, .number .., he => exact .number (hd.trans he.symm) ..
  | string s =>
    match d, hd, e, he with
    | .string .., hd, .string .., he => exact .string hd he ..
  | array items =>
    match d, hd, e, he with
    | .array .., hd, .array .., he =>
      obtain ⟨ds, hlists, hds⟩ := Items.Holds.lists hd
      obtain ⟨es, hlists', hes⟩ := Items.Holds.lists he
      cases hdistinct with
      | array values => exact .array hlists hlists' (forall₂_alike hds hes items values) ..
  | object members order =>
    match d, hd, e, he with
    | .object .., hd, .object .., he =>
      obtain ⟨rows, hlists, hrows⟩ := Members.Holds.lists hd
      obtain ⟨others, hlists', hothers⟩ := Members.Holds.lists he
      exact .object hlists hlists' (rowsAlike_of_opened hrows hothers members order hdistinct) ..

namespace RowsAlike

variable {rows others : List (String × Doc)}

theorem exists_right (h : RowsAlike rows others) {r : String × Doc} (hr : r ∈ rows) :
    ∃ s ∈ others, RowAlike r s := by
  obtain ⟨mid, hmid, hperm⟩ := h.aligned
  obtain ⟨s, hs, hrs⟩ := exists_of_mem_forall₂ hmid hr
  exact ⟨s, hperm.mem_iff.mp hs, hrs⟩

theorem exists_left (h : RowsAlike rows others) {s : String × Doc} (hs : s ∈ others) :
    ∃ r ∈ rows, RowAlike r s := by
  obtain ⟨mid, hmid, hperm⟩ := h.aligned
  exact exists_of_mem_forall₂ (R := flip RowAlike) hmid.flip (hperm.mem_iff.mpr hs)

theorem distinct_right (h : RowsAlike rows others) : (others.map (·.1)).Nodup := by
  obtain ⟨mid, hmid, hperm⟩ := h.aligned
  have hnames := names_of_forall₂ (fun _ _ h => h.1) hmid
  rw [← (hperm.map _).nodup_iff, ← hnames]
  exact h.distinct

end RowsAlike

end Devnet.Json
