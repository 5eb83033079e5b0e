import Devnet.Proofs.Json.Reach
import Devnet.Rpc.Response

namespace Devnet.Rpc

open Json

/-- What is read up to some place is read on in the same text, and ends at that place. -/
def Stops {τ : Type} (stop : τ → Nat) (scan : Cursor → τ × Option Cursor) : Prop :=
  ∀ c t c', scan c = (t, some c') → c.Reaches c' ∧ stop t = c'.offset

theorem wordDoc_stops {word : List Char} (hword : byteLength word = word.length)
    {build : (start stop : Nat) → Doc} (hbuild : ∀ start stop, docStop (build start stop) = stop)
    (start : Nat) : Stops docStop (wordDoc word build start) := by
  intro c d c' h
  rw [wordDoc] at h
  cases hscan : scanWord word c with
  | error b =>
    rw [hscan] at h
    cases h
  | ok a =>
    rw [hscan] at h
    cases h
    obtain ⟨hrest, hoffset⟩ := scanWord_reaches hscan
    exact ⟨⟨word, hrest, by rw [hoffset, hword]⟩, hbuild _ _⟩

theorem numberDoc_stops (negative : Bool) (start : Nat) :
    Stops docStop (numberDoc negative start) := by
  intro c d c' h
  rw [numberDoc] at h
  cases hscan : scanNumber negative c with
  | error b =>
    rw [hscan] at h
    cases h
  | ok a =>
    rw [hscan] at h
    cases h
    exact ⟨scanNumber_advances negative _ _ _ hscan, rfl⟩

theorem stringDoc_stops (start : Nat) : Stops docStop (stringDoc start) := by
  intro c d c' h
  rcases hscan : StringLiteral.scan c with ⟨l, a⟩
  simp only [stringDoc, hscan] at h
  cases h
  exact StringLiteral.scan_reaches hscan

/-- The five parts of the scanner with so much fuel. -/
structure ScannerStops (fuel : Nat) : Prop where
  doc : Stops docStop (scanDoc fuel)
  items : ∀ first, Stops itemsStop (scanItems fuel first)
  item : Stops itemsStop (scanItem fuel)
  members : ∀ first, Stops membersStop (scanMembers fuel first)
  member : ∀ lead, Stops membersStop (scanMember fuel lead)

/-- What stops after a character that has been read stops also when it is yet to be read. -/
theorem Stops.after {τ : Type} {stop : τ → Nat} {scan : Cursor → τ × Option Cursor}
    (h : Stops stop scan) {x : Char} (hx : x.utf8Size = 1) {i : Nat} {r : List Char} {t : τ}
    {c' : Cursor} (hscan : scan ⟨i + 1, r⟩ = (t, some c')) :
    Cursor.Reaches ⟨i, x :: r⟩ c' ∧ stop t = c'.offset := by
  obtain ⟨hreaches, hstop⟩ := h _ _ _ hscan
  exact ⟨(Cursor.Reaches.step hx i r).trans hreaches, hstop⟩

/-- What is read on from the place after blanks is read on from the place before them. -/
theorem and_reaches_of_skipped {c c' : Cursor} {P : Prop} (h : c.skipSpace.Reaches c' ∧ P) :
    c.Reaches c' ∧ P :=
  ⟨c.reaches_skipSpace.trans h.1, h.2⟩

section Step

variable {fuel : Nat} (h : ScannerStops fuel)
include h

theorem scanDoc_stops : Stops docStop (scanDoc (fuel + 1)) := by
  intro c d c' hscan
  apply and_reaches_of_skipped
  rw [scanDoc] at hscan
  generalize c.skipSpace = a at hscan ⊢
  obtain ⟨i, rest⟩ := a
  dsimp only at hscan
  split at hscan
  · cases hscan
  · rename_i r
    rcases hms : scanMembers fuel true ⟨i + 1, r⟩ with ⟨ms, a⟩
    simp only [hms] at hscan
    cases hscan
    exact (h.members true).after rfl hms
  · rename_i r
    rcases his : scanItems fuel true ⟨i + 1, r⟩ with ⟨is, a⟩
    simp only [his] at hscan
    cases hscan
    exact (h.items true).after rfl his
  · exact (stringDoc_stops i).after rfl hscan
  · exact (wordDoc_stops rfl (fun _ _ => rfl) i).after rfl hscan
  · exact (wordDoc_stops rfl (fun _ _ => rfl) i).after rfl hscan
  · exact (wordDoc_stops rfl (fun _ _ => rfl) i).after rfl hscan
  · exact (numberDoc_stops true i).after rfl hscan
  · split at hscan
    · exact numberDoc_stops false i _ _ _ hscan
    · cases hscan

theorem scanItem_stops : Stops itemsStop (scanItem (fuel + 1)) := by
  intro c items c' hscan
  rcases hd : scanDoc fuel c with ⟨d, a⟩
  cases a with
  | none =>
    simp only [scanItem, hd] at hscan
    cases hscan
  | some a =>
    rcases hrest : scanItems fuel false a with ⟨rest, b⟩
    simp only [scanItem, hd, hrest] at hscan
    cases hscan
    obtain ⟨hreaches, hstop⟩ := h.items false _ _ _ hrest
    exact ⟨(h.doc _ _ _ hd).1.trans hreaches, hstop⟩

theorem scanItems_stops (first : Bool) : Stops itemsStop (scanItems (fuel + 1) first) := by
  intro c items c' hscan
  apply and_reaches_of_skipped
  rw [scanItems] at hscan
  generalize c.skipSpace = a at hscan ⊢
  obtain ⟨i, rest⟩ := a
  dsimp only at hscan
  split at hscan
  · cases hscan
  · rename_i r
    cases hscan
    exact ⟨.step rfl i r, rfl⟩
  · rename_i x r _
    split at hscan
    · exact h.item _ _ _ hscan
    · split at hscan
      · rename_i hx
        subst hx
        have hcomma := Cursor.reaches_nextToken (x := ',') rfl i r
        generalize Cursor.skipSpace ⟨i + 1, r⟩ = b at hcomma hscan
        obtain ⟨j, next⟩ := b
        dsimp only at hscan
        split at hscan
        · cases hscan
        · cases hscan
        · obtain ⟨hreaches, hstop⟩ := h.item _ _ _ hscan
          exact ⟨hcomma.trans hreaches, hstop⟩
      · cases hscan

theorem scanMember_stops (lead : Nat) : Stops membersStop (scanMember (fuel + 1) lead) := by
  rintro ⟨i, cs⟩ members c' hscan
  rw [scanMember] at hscan
  split at hscan
  · rename_i r hcs
    obtain rfl : cs = '"' :: r := hcs
    have hquote := Cursor.Reaches.step (x := '"') rfl i r
    rcases hkey : StringLiteral.scan ⟨i + 1, r⟩ with ⟨key, a⟩
    simp only [hkey] at hscan
    cases a with
    | none => cases hscan
    | some a =>
      have hname := hquote.trans (StringLiteral.scan_reaches hkey).1
      have hskip := hname.trans a.reaches_skipSpace
      dsimp only at hscan
      generalize a.skipSpace = b at hskip hscan
      obtain ⟨j, next⟩ := b
      dsimp only at hscan
      split at hscan
      · rename_i s
        have hcolon := hskip.trans (.step (x := ':') rfl j s)
        rcases hd : scanDoc fuel ⟨j + 1, s⟩ with ⟨d, a'⟩
        simp only [hd] at hscan
        cases a' with
        | none => cases hscan
        | some a' =>
          rcases hrest : scanMembers fuel false a' with ⟨rest, after⟩
          simp only [hrest] at hscan
          cases hscan
          obtain ⟨hreaches, hstop⟩ := h.members false _ _ _ hrest
          exact ⟨(hcolon.trans (h.doc _ _ _ hd).1).trans hreaches, hstop⟩
      · cases hscan
      · cases hscan
      · cases hscan
  · cases hscan

theorem scanMembers_stops (first : Bool) : Stops membersStop (scanMembers (fuel + 1) first) := by
  intro c members c' hscan
  apply and_reaches_of_skipped
  rw [scanMembers] at hscan
  generalize c.skipSpace = a at hscan ⊢
  obtain ⟨i, rest⟩ := a
  dsimp only at hscan
  split at hscan
  · cases hscan
  · rename_i r
    cases hscan
    exact ⟨.step rfl i r, rfl⟩
  · rename_i x r _
    split at hscan
    · exact h.member i _ _ _ hscan
    · split at hscan
      · rename_i hx
        subst hx
        have hcomma := Cursor.reaches_nextToken (x := ',') rfl i r
        generalize Cursor.skipSpace ⟨i + 1, r⟩ = b at hcomma hscan
        obtain ⟨j, next⟩ := b
        dsimp only at hscan
        split at hscan
        · cases hscan
        · cases hscan
        · obtain ⟨hreaches, hstop⟩ := h.member i _ _ _ hscan
          exact ⟨hcomma.trans hreaches, hstop⟩
      · cases hscan

end Step

theorem scannerStops (fuel : Nat) : ScannerStops fuel := by
  induction fuel with
  | zero =>
    -- without fuel nothing is read up to a place
    have hnone {τ : Type} {stop : τ → Nat} {scan : Cursor → τ × Option Cursor}
        (h : ∀ c, (scan c).2 = none) : Stops stop scan := by
      intro c t c' hscan
      have hafter := h c
      rw [hscan] at hafter
      cases hafter
    exact ⟨hnone fun _ => rfl, fun _ => hnone fun _ => rfl, hnone fun _ => rfl,
      fun _ => hnone fun _ => rfl, fun _ => hnone fun _ => rfl⟩
  | succ fuel ih =>
    exact ⟨scanDoc_stops ih, scanItems_stops ih, scanItem_stops ih, scanMembers_stops ih,
      scanMember_stops ih⟩

/-- A value starts at its first character, the blanks before it left out. -/
theorem scanDoc_start {fuel : Nat} {c : Cursor} {d : Doc} {after : Option Cursor}
    (h : scanDoc (fuel + 1) c = (d, after)) : d.start = c.skipSpace.offset := by
  have hword {word : List Char} {build : (start stop : Nat) → Doc} {i : Nat} {a : Cursor}
      (hbuild : ∀ stop, (build i stop).start = i) : (wordDoc word build i a).1.start = i := by
    rw [wordDoc]
    split
    · exact hbuild _
    · rfl
  have hnumber {negative : Bool} {i : Nat} {a : Cursor} :
      (numberDoc negative i a).1.start = i := by
    rw [numberDoc]
    split <;> rfl
  obtain rfl : (scanDoc (fuel + 1) c).1 = d := congrArg Prod.fst h
  clear h
  rw [scanDoc]
  obtain ⟨i, rest⟩ := c.skipSpace
  dsimp only
  split
  · rfl
  · rfl
  · rfl
  · rfl
  iterate 3 exact hword fun _ => rfl
  · exact hnumber
  · split
    · exact hnumber
    · rfl

theorem byteLength_cons_succ (c : Char) (cs : List Char) :
    ∃ n, byteLength (c :: cs) = n + 1 ∧ n + 1 - c.utf8Size = byteLength cs := by
  have hpos := c.utf8Size_pos
  refine ⟨byteLength (c :: cs) - 1, ?_, ?_⟩ <;> rw [byteLength_cons] <;> omega

theorem dropBytes_append (cs ds : List Char) : dropBytes (byteLength cs) (cs ++ ds) = ds := by
  induction cs with
  | nil => cases ds <;> rfl
  | cons c cs ih =>
    obtain ⟨n, hn, hleft⟩ := byteLength_cons_succ c cs
    rw [hn, List.cons_append, dropBytes, hleft, ih]

theorem takeBytes_append (cs ds : List Char) : takeBytes (byteLength cs) (cs ++ ds) = cs := by
  induction cs with
  | nil => cases ds <;> rfl
  | cons c cs ih =>
    obtain ⟨n, hn, hleft⟩ := byteLength_cons_succ c cs
    rw [hn, List.cons_append, takeBytes, hleft, ih]

/-- Between two places of a text stands what is read from the one to the other. -/
theorem slice_between {text : String} {i j : Nat} {read rest : List Char}
    (hfront : Cursor.Reaches ⟨0, text.toList⟩ ⟨i, read ++ rest⟩)
    (hread : Cursor.Reaches ⟨i, read ++ rest⟩ ⟨j, rest⟩) :
    slice text i j = String.ofList read := by
  obtain ⟨front, htext, hi⟩ := hfront
  obtain ⟨read', hrest, hj⟩ := hread
  obtain rfl : read = read' := List.append_cancel_right hrest
  dsimp only at htext hi hj
  rw [Nat.zero_add] at hi
  rw [slice, htext, hj, hi, dropBytes_append, Nat.add_sub_cancel_left, takeBytes_append]

/-- A spelled value is taken out of any text by its places. -/
theorem slice_of_spells {text : String} {cs r : List Char} {v : Written}
    (value : Spells cs (.value v)) {i fuel : Nat} (hfuel : 3 * cs.length ≤ fuel)
    (hr : EndsNumber r) (hfront : Cursor.Reaches ⟨0, text.toList⟩ ⟨i, cs ++ r⟩) :
    ∃ d j, scanDoc fuel ⟨i, cs ++ r⟩ = (d, some ⟨j, r⟩) ∧ d.Holds v ∧
      slice text d.start (docStop d) = String.ofList cs := by
  obtain ⟨d, j, hscan, hholds⟩ := value.scans fuel i r hfuel hr
  obtain ⟨hread, hstop⟩ := (scannerStops fuel).doc _ _ _ hscan
  obtain ⟨x, s, rfl, hx⟩ := value.head
  obtain ⟨fuel, rfl, -⟩ := exists_succ_of_fuel hfuel
  have hstart := scanDoc_start hscan
  rw [List.cons_append, skipSpace_solid hx.solid.1] at hstart
  refine ⟨d, j, hscan, hholds, ?_⟩
  rw [hstart, hstop]
  exact slice_between hfront hread

end Devnet.Rpc
