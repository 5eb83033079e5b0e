import Devnet.Proofs.Json.Printing
import Devnet.Proofs.Json.Whole

namespace Devnet.Json

/-- The text at the cursor `n` bytes further on, with more behind it. -/
def Cursor.moved (n : Nat) (tail : List Char) (c : Cursor) : Cursor :=
  ⟨c.offset + n, c.rest ++ tail⟩

theorem moved_step (i n : Nat) (cs tail : List Char) :
    (⟨i + n + 1, cs ++ tail⟩ : Cursor) = Cursor.moved n tail ⟨i + 1, cs⟩ := by
  rw [Cursor.moved, Nat.add_right_comm]

/-- Text is blank up to its end or up to the first character that is no blank. -/
theorem blank_or_solid (cs : List Char) :
    Blank cs ∨ ∃ b x r, cs = b ++ x :: r ∧ Blank b ∧ isSpace x = false := by
  induction cs with
  | nil => exact .inl blank_nil
  | cons c cs ih =>
    by_cases hc : isSpace c
    · have hcons {b : List Char} (hb : Blank b) : Blank (c :: b) := by
        intro x hx
        rcases List.mem_cons.mp hx with rfl | hx
        · exact hc
        · exact hb x hx
      rcases ih with hb | ⟨b, x, r, rfl, hb, hx⟩
      · exact .inl (hcons hb)
      · exact .inr ⟨c :: b, x, r, rfl, hcons hb, hx⟩
    · exact .inr ⟨[], c, cs, rfl, blank_nil, by simpa using hc⟩

theorem Blank.skipSpace_eq {b : List Char} (h : Blank b) (i : Nat) :
    ∃ j, Cursor.skipSpace ⟨i, b⟩ = ⟨j, []⟩ :=
  ⟨(Cursor.skipSpace ⟨i, b⟩).offset, by rw [← h.skipSpace i]⟩

theorem skipSpace_moved {c : Cursor} {i : Nat} {x : Char} {r : List Char}
    (h : c.skipSpace = ⟨i, x :: r⟩) (n : Nat) (tail : List Char) :
    (c.moved n tail).skipSpace = ⟨i + n, x :: (r ++ tail)⟩ := by
  obtain ⟨k, cs⟩ := c
  rcases blank_or_solid cs with hblank | ⟨b, y, s, rfl, hblank, hy⟩
  · obtain ⟨j, hskip⟩ := hblank.skipSpace_eq k
    cases h.symm.trans hskip
  · cases h.symm.trans (skipSpace_blank hblank hy s k)
    rw [Cursor.moved, List.append_assoc, List.cons_append, skipSpace_blank hblank hy,
      Nat.add_right_comm]

/-- What the scanner finds to be a closed string spells its pieces. -/
theorem spellsPieces_of_scan {cs r : List Char} {ps : List Piece}
    (h : scanPieces cs = (ps, .closed, r)) : ∃ body, cs = body ++ r ∧ SpellsPieces body ps := by
  fun_induction scanPieces cs generalizing ps r with
  | case1 | case3 | case5 | case8 | case9 => simp at h
  | case6 r' =>
    have hnot : brokenUnit r' ≠ .closed := by
      rw [brokenUnit]
      split <;> simp
    simp [hnot] at h
  | case2 r' =>
    obtain ⟨rfl, -, rfl⟩ := h
    exact ⟨['"'], rfl, .closed⟩
  | case4 a b c d r' n hcode qs e s hscan ih =>
    obtain ⟨rfl, rfl, rfl⟩ := h
    obtain ⟨body, rfl, hbody⟩ := ih hscan
    exact ⟨_, rfl, .unit hcode hbody⟩
  | case7 c r' _ hu x hescape qs e s hscan ih =>
    obtain ⟨rfl, rfl, rfl⟩ := h
    obtain ⟨body, rfl, hbody⟩ := ih hscan
    exact ⟨_, rfl, .short hescape hbody⟩
  | case10 c r' hquote hlast _ _ hescape hprintable qs e s hscan ih =>
    obtain ⟨rfl, rfl, rfl⟩ := h
    obtain ⟨body, rfl, hbody⟩ := ih hscan
    have hbackslash : c ≠ '\\' := by
      rintro rfl
      cases hr : body ++ s with
      | nil => exact hlast rfl hr
      | cons x xs => exact hescape x xs rfl hr
    exact ⟨c :: body, rfl, .plain hquote hbackslash (Nat.not_lt.mp hprintable) hbody⟩

theorem StringLiteral.last_moved (l : StringLiteral) (n : Nat) :
    (l.moved n).last = l.last + n := by
  have hfold (ps : List Piece) (place : Nat) :
      ps.foldl (fun place p => place + p.width) (place + n) =
        ps.foldl (fun place p => place + p.width) place + n := by
    induction ps generalizing place with
    | nil => rfl
    | cons p ps ih => rw [List.foldl_cons, List.foldl_cons, Nat.add_right_comm, ih]
  exact hfold l.pieces l.start

theorem StringLiteral.scan_moved {c : Cursor} {l : StringLiteral} {after : Option Cursor}
    (h : scan c = (l, after)) (hclosed : l.ending = .closed) :
    ∃ c', after = some c' ∧
      ∀ n tail, scan (c.moved n tail) = (l.moved n, some (c'.moved n tail)) := by
  obtain ⟨i, cs⟩ := c
  rcases hscan : scanPieces cs with ⟨ps, e, r⟩
  simp only [scan, hscan] at h
  obtain rfl : e = .closed := by
    split at h <;> (injection h with hl; subst hl; first | rfl | exact hclosed)
  obtain ⟨rfl, rfl⟩ := h
  obtain ⟨body, rfl, hbody⟩ := spellsPieces_of_scan hscan
  refine ⟨_, rfl, fun n tail => ?_⟩
  have hmoved := last_moved ⟨i, ps, .closed⟩ n
  simp only [scan, Cursor.moved, List.append_assoc, hbody.scan (r ++ tail)]
  rw [StringLiteral.moved] at hmoved ⊢
  rw [hmoved, Nat.add_right_comm]

/-- A part of a number that is read alike at any other place and whatever follows, if something
follows already; at the end of the text its digits could go on. -/
def Steady {α : Type} (scan : Cursor → Except Break (α × Cursor)) : Prop :=
  ∀ c a c', scan c = .ok (a, c') → c'.rest ≠ [] →
    c.rest ≠ [] ∧ ∀ n tail, scan (c.moved n tail) = .ok (a, c'.moved n tail)

theorem scanDigits_append_tail {cs r : List Char} {ds : List Nat} (h : scanDigits cs = (ds, r))
    (hr : r ≠ []) (tail : List Char) : scanDigits (cs ++ tail) = (ds, r ++ tail) := by
  induction cs generalizing ds with
  | nil =>
    obtain ⟨-, rfl⟩ := h
    contradiction
  | cons c cs ih =>
    rw [scanDigits] at h
    rw [List.cons_append, scanDigits]
    cases hc : digit? c with
    | none =>
      simp only [hc] at h
      obtain ⟨rfl, rfl⟩ := h
      rfl
    | some d =>
      rcases hscan : scanDigits cs with ⟨es, s⟩
      simp only [hc, hscan] at h
      obtain ⟨rfl, rfl⟩ := h
      rw [ih hscan]

theorem rest_of_scanDigits_nil {cs r : List Char} (h : scanDigits cs = ([], r)) : r = cs := by
  cases cs with
  | nil => exact (congrArg Prod.snd h).symm
  | cons c cs =>
    rw [scanDigits] at h
    split at h
    · cases h
    · exact (congrArg Prod.snd h).symm

theorem scanSomeDigits_steady (extra : Nat) : Steady (scanSomeDigits extra) := by
  rintro ⟨i, cs⟩ ds ⟨j, r⟩ h hr
  rcases hscan : scanDigits cs with ⟨es, s⟩
  simp only [scanSomeDigits, hscan] at h
  cases es with
  | nil => cases s <;> cases h
  | cons e es =>
    simp only [Except.ok.injEq, Prod.mk.injEq, Cursor.mk.injEq] at h
    obtain ⟨rfl, rfl, rfl⟩ := h
    refine ⟨?_, fun n tail => ?_⟩
    · rintro rfl
      cases hscan
    · simp only [scanSomeDigits, Cursor.moved, scanDigits_append_tail hscan hr]
      rw [Nat.add_right_comm]

theorem scanWhole_steady : Steady scanWhole := by
  rintro ⟨i, cs⟩ ds ⟨j, r⟩ h hr
  rw [scanWhole] at h
  split at h
  · rename_i s hcs
    obtain rfl : cs = '0' :: s := hcs
    rcases hscan : scanDigits s with ⟨es, t⟩
    simp only [hscan] at h
    cases es with
    | cons => cases h
    | nil =>
      simp only [Except.ok.injEq, Prod.mk.injEq, Cursor.mk.injEq] at h
      obtain ⟨rfl, rfl, rfl⟩ := h
      obtain rfl := rest_of_scanDigits_nil hscan
      refine ⟨by simp, fun n tail => ?_⟩
      simp only [scanWhole, Cursor.moved, List.cons_append, scanDigits_append_tail hscan hr]
      rw [Nat.add_right_comm]
  · rename_i hzero
    obtain ⟨hcs, hmoved⟩ := scanSomeDigits_steady 1 _ _ _ h hr
    refine ⟨hcs, fun n tail => ?_⟩
    rw [← hmoved n tail, scanWhole]
    split
    · rename_i s hs
      cases cs with
      | nil => contradiction
      | cons x cs =>
        obtain ⟨rfl, -⟩ := List.cons.inj hs
        exact absurd rfl (hzero cs)
    · rfl

theorem scanFraction_steady : Steady scanFraction := by
  rintro ⟨i, cs⟩ ds ⟨j, r⟩ h hr
  cases cs with
  | nil =>
    cases h
    contradiction
  | cons x cs =>
    refine ⟨by simp, fun n tail => ?_⟩
    by_cases hx : x = '.'
    · subst hx
      obtain ⟨⟨es, c'⟩, hes, h⟩ := map_eq_ok_iff.mp h
      cases h
      obtain ⟨-, hmoved⟩ := scanSomeDigits_steady 1 _ _ _ hes hr
      have hnext := hmoved n tail
      rw [Cursor.moved, Nat.add_right_comm] at hnext
      simp only [scanFraction, Cursor.moved, List.cons_append]
      exact map_eq_ok_iff.mpr ⟨_, hnext, rfl⟩
    · have hplain (i : Nat) (cs : List Char) :
          scanFraction ⟨i, x :: cs⟩ = .ok (none, ⟨i, x :: cs⟩) := by simp [scanFraction, hx]
      rw [hplain] at h
      cases h
      exact hplain _ _

theorem scanSign_moved {c : Cursor} (h : (scanSign c).2.rest ≠ []) (n : Nat) (tail : List Char) :
    scanSign (c.moved n tail) = ((scanSign c).1, (scanSign c).2.moved n tail) := by
  obtain ⟨i, cs⟩ := c
  cases cs with
  | nil => contradiction
  | cons x cs =>
    by_cases hplus : x = '+'
    · subst hplus
      simp [scanSign, Cursor.moved, Nat.add_right_comm]
    · by_cases hminus : x = '-'
      · subst hminus
        simp [scanSign, Cursor.moved, Nat.add_right_comm]
      · simp [scanSign, Cursor.moved, hplus, hminus]

theorem scanExponent_steady : Steady scanExponent := by
  rintro ⟨i, cs⟩ ds ⟨j, r⟩ h hr
  cases cs with
  | nil =>
    cases h
    contradiction
  | cons x cs =>
    refine ⟨by simp, fun n tail => ?_⟩
    by_cases hx : x = 'e' ∨ x = 'E'
    · simp only [scanExponent, if_pos hx] at h
      obtain ⟨⟨es, c'⟩, hes, h⟩ := map_eq_ok_iff.mp h
      cases h
      obtain ⟨hsign, hmoved⟩ := scanSomeDigits_steady 1 _ _ _ hes hr
      have hnext := scanSign_moved hsign n tail
      rw [Cursor.moved, Nat.add_right_comm] at hnext
      simp only [scanExponent, Cursor.moved, List.cons_append, if_pos hx, hnext]
      exact map_eq_ok_iff.mpr ⟨_, hmoved n tail, rfl⟩
    · simp only [scanExponent, Cursor.moved, List.cons_append, if_neg hx] at h ⊢
      cases h
      rfl

theorem scanNumber_steady (negative : Bool) : Steady (scanNumber negative) := by
  intro c l c' h hr
  rw [scanNumber] at h
  obtain ⟨⟨whole, c₁⟩, hwhole, h⟩ := bind_eq_ok_iff.mp h
  obtain ⟨⟨fraction, c₂⟩, hfraction, h⟩ := bind_eq_ok_iff.mp h
  obtain ⟨⟨exponent, c₃⟩, hexponent, h⟩ := bind_eq_ok_iff.mp h
  cases h
  obtain ⟨h₂, hexponent⟩ := scanExponent_steady _ _ _ hexponent hr
  obtain ⟨h₁, hfraction⟩ := scanFraction_steady _ _ _ hfraction h₂
  obtain ⟨h₀, hwhole⟩ := scanWhole_steady _ _ _ hwhole h₁
  refine ⟨h₀, fun n tail => ?_⟩
  rw [scanNumber, hwhole n tail]
  simp only [bind, Except.bind, hfraction n tail, hexponent n tail]
  rfl

/-- The end of the value shows where it stands; only a number might go on. -/
def Doc.EndsItself : Doc → Prop
  | .number _ _ _ => False
  | _ => True

theorem scanWord_moved {word : List Char} {c c' : Cursor} (h : scanWord word c = .ok c') (n : Nat)
    (tail : List Char) : scanWord word (c.moved n tail) = .ok (c'.moved n tail) := by
  induction word generalizing c with
  | nil =>
    cases h
    rfl
  | cons e es ih =>
    obtain ⟨i, cs⟩ := c
    cases cs with
    | nil => cases h
    | cons x cs =>
      rw [scanWord] at h
      split at h
      · rename_i hx
        rw [Cursor.moved, List.cons_append, scanWord, if_pos hx, Nat.add_right_comm]
        exact ih h
      · cases h

theorem wordDoc_moved {word : List Char} {build : (start stop : Nat) → Doc} {start : Nat}
    {c : Cursor} {d : Doc} {after : Option Cursor} (h : wordDoc word build start c = (d, after))
    (hwhole : d.Whole)
    (hbuild : ∀ start stop n, (build start stop).moved n = build (start + n) (stop + n)) :
    ∃ c', after = some c' ∧ ∀ n tail,
      wordDoc word build (start + n) (c.moved n tail) = (d.moved n, some (c'.moved n tail)) := by
  rw [wordDoc] at h
  cases hscan : scanWord word c with
  | error =>
    rw [hscan] at h
    cases h
    exact hwhole.elim
  | ok c' =>
    rw [hscan] at h
    cases h
    refine ⟨c', rfl, fun n tail => ?_⟩
    rw [wordDoc, scanWord_moved hscan n tail, hbuild]
    rfl

theorem stringDoc_moved {start : Nat} {c : Cursor} {d : Doc} {after : Option Cursor}
    (h : stringDoc start c = (d, after)) (hwhole : d.Whole) :
    ∃ c', after = some c' ∧ ∀ n tail,
      stringDoc (start + n) (c.moved n tail) = (d.moved n, some (c'.moved n tail)) := by
  rcases hscan : StringLiteral.scan c with ⟨l, a⟩
  simp only [stringDoc, hscan] at h
  cases h
  obtain ⟨c', rfl, hmoved⟩ := StringLiteral.scan_moved hscan hwhole
  refine ⟨c', rfl, fun n tail => ?_⟩
  simp only [stringDoc, hmoved n tail, StringLiteral.last_moved, Doc.moved, Nat.add_right_comm]

theorem numberDoc_moved {negative : Bool} {start : Nat} {c : Cursor} {d : Doc}
    {after : Option Cursor} (h : numberDoc negative start c = (d, after)) (hwhole : d.Whole) :
    ∃ c', after = some c' ∧ ((c'.rest = [] → d.EndsItself) → ∀ n tail,
      numberDoc negative (start + n) (c.moved n tail) = (d.moved n, some (c'.moved n tail))) := by
  rw [numberDoc] at h
  cases hscan : scanNumber negative c with
  | error =>
    rw [hscan] at h
    cases h
    exact hwhole.elim
  | ok p =>
    obtain ⟨l, c'⟩ := p
    rw [hscan] at h
    cases h
    refine ⟨c', rfl, fun hend n tail => ?_⟩
    rw [numberDoc, (scanNumber_steady negative c l c' hscan hend).2 n tail]
    rfl

section Cases

variable {fuel : Nat}

/-- Items that are whole close at once or go on with an item. -/
theorem scanItems_cases {first : Bool} {i : Nat} {cs : List Char} {items : Items}
    {after : Option Cursor} (hscan : scanItems (fuel + 1) first ⟨i, cs⟩ = (items, after))
    (hwhole : items.Whole) :
    (∃ b r, Blank b ∧ cs = b ++ ']' :: r) ∨
      ∃ sep x r, Separates first sep ∧ isSpace x = false ∧ x ≠ ']' ∧ cs = sep ++ x :: r := by
  rcases blank_or_solid cs with hblank | ⟨b, x, r, rfl, hblank, hx⟩
  · obtain ⟨j, hskip⟩ := hblank.skipSpace_eq i
    simp only [scanItems, hskip] at hscan
    cases hscan
    exact hwhole.elim
  · by_cases hclose : x = ']'
    · subst hclose
      exact .inl ⟨b, r, hblank, rfl⟩
    · refine .inr ?_
      cases first with
      | true => exact ⟨b, x, r, .first hblank, hx, hclose, rfl⟩
      | false =>
        simp only [scanItems, skipSpace_blank hblank hx, Bool.false_eq_true, if_false] at hscan
        split at hscan
        · rename_i hcomma
          subst hcomma
          rcases blank_or_solid r with hr | ⟨c, y, s, rfl, hc, hy⟩
          · obtain ⟨j, hskip⟩ := hr.skipSpace_eq (i + b.length + 1)
            simp only [hskip] at hscan
            cases hscan
            exact hwhole.elim
          · simp only [skipSpace_blank hc hy] at hscan
            have hbracket : y ≠ ']' := by
              rintro rfl
              cases hscan
              exact hwhole
            exact ⟨b ++ ',' :: c, y, s, .next hblank hc, hy, hbracket, by simp⟩
        · cases hscan
          exact hwhole.elim

/-- A member that is whole has a key, a colon and a value. -/
theorem scanMember_cases {lead : Nat} {c : Cursor} {members : Members} {after : Option Cursor}
    (hscan : scanMember (fuel + 1) lead c = (members, after)) (hwhole : members.Whole) :
    ∃ r key a j s d a' rest, c.rest = '"' :: r ∧
      StringLiteral.scan ⟨c.offset + 1, r⟩ = (key, some a) ∧ a.skipSpace = ⟨j, ':' :: s⟩ ∧
      scanDoc fuel ⟨j + 1, s⟩ = (d, some a') ∧ scanMembers fuel false a' = (rest, after) ∧
      members = .member lead key j d rest := by
  rw [scanMember] at hscan
  split at hscan
  · rename_i r hr
    rcases hkey : StringLiteral.scan ⟨c.offset + 1, r⟩ with ⟨key, _ | a⟩
    · simp only [hkey] at hscan
      cases hscan
      exact hwhole.elim
    · rcases hskip : a.skipSpace with ⟨j, next⟩
      simp only [hkey, hskip] at hscan
      split at hscan
      · rename_i s
        rcases hd : scanDoc fuel ⟨j + 1, s⟩ with ⟨d, _ | a'⟩
        · simp only [hd] at hscan
          cases hscan
          exact hwhole.2.2.elim
        · rcases hrest : scanMembers fuel false a' with ⟨rest, b⟩
          simp only [hd, hrest] at hscan
          cases hscan
          exact ⟨r, key, a, j, s, d, a', rest, hr, hkey, hskip, hd, hrest, rfl⟩
      all_goals
        cases hscan
        exact hwhole.elim
  · cases hscan
    exact hwhole.elim

theorem quote_of_scanMember {lead i : Nat} {x : Char} {r : List Char} {members : Members}
    {after : Option Cursor} (hscan : scanMember fuel lead ⟨i, x :: r⟩ = (members, after))
    (hwhole : members.Whole) : x = '"' := by
  cases fuel with
  | zero =>
    cases hscan
    exact hwhole.elim
  | succ fuel =>
    obtain ⟨s, -, -, -, -, -, -, -, hrest, -⟩ := scanMember_cases hscan hwhole
    exact (List.cons.inj hrest).1

/-- Members that are whole close at once or go on with a key. -/
theorem scanMembers_cases {first : Bool} {i : Nat} {cs : List Char} {members : Members}
    {after : Option Cursor} (hscan : scanMembers (fuel + 1) first ⟨i, cs⟩ = (members, after))
    (hwhole : members.Whole) :
    (∃ b r, Blank b ∧ cs = b ++ '\x7d' :: r) ∨
      ∃ sep r, Separates first sep ∧ cs = sep ++ '"' :: r := by
  rcases blank_or_solid cs with hblank | ⟨b, x, r, rfl, hblank, hx⟩
  · obtain ⟨j, hskip⟩ := hblank.skipSpace_eq i
    simp only [scanMembers, hskip] at hscan
    cases hscan
    exact hwhole.elim
  · by_cases hclose : x = '\x7d'
    · subst hclose
      exact .inl ⟨b, r, hblank, rfl⟩
    · refine .inr ?_
      cases first with
      | true =>
        simp only [scanMembers, skipSpace_blank hblank hx, if_true] at hscan
        obtain rfl := quote_of_scanMember hscan hwhole
        exact ⟨b, r, .first hblank, rfl⟩
      | false =>
        simp only [scanMembers, skipSpace_blank hblank hx, Bool.false_eq_true, if_false] at hscan
        split at hscan
        · rename_i hcomma
          subst hcomma
          rcases blank_or_solid r with hr | ⟨c, y, s, rfl, hc, hy⟩
          · obtain ⟨j, hskip⟩ := hr.skipSpace_eq (i + b.length + 1)
            simp only [hskip] at hscan
            cases hscan
            exact hwhole.elim
          · simp only [skipSpace_blank hc hy] at hscan
            split at hscan
            · contradiction
            · cases hscan
              exact hwhole.elim
            · obtain rfl := quote_of_scanMember hscan hwhole
              exact ⟨b ++ ',' :: c, s, .next hblank hc, by simp⟩
        · cases hscan
          exact hwhole.elim

end Cases

/-- With so much fuel: what is taken apart whole is taken apart alike with more fuel, `n` bytes
further on and whatever follows; where the text ends with it, its end must show by itself. -/
def Moves {τ : Type} (whole ends : τ → Prop) (moved : Nat → τ → τ)
    (scan : (n fuel : Nat) → Cursor → τ × Option Cursor) (fuel : Nat) : Prop :=
  ∀ c t after, scan 0 fuel c = (t, after) → whole t → ∃ c', after = some c' ∧ c.rest ≠ [] ∧
    ((c'.rest = [] → ends t) → ∀ more, fuel ≤ more → ∀ n tail,
      scan n more (c.moved n tail) = (moved n t, some (c'.moved n tail)))

/-- The five parts of the scanner with so much fuel. -/
structure ScannerMoves (fuel : Nat) : Prop where
  doc : Moves Doc.Whole Doc.EndsItself Doc.moved (fun _ => scanDoc) fuel
  items : ∀ first,
    Moves Items.Whole (fun _ => True) Items.moved (fun _ fuel => scanItems fuel first) fuel
  item : Moves Items.Whole (fun _ => True) Items.moved (fun _ => scanItem) fuel
  members : ∀ first,
    Moves Members.Whole (fun _ => True) Members.moved (fun _ fuel => scanMembers fuel first) fuel
  member : ∀ lead, Moves Members.Whole (fun _ => True) Members.moved
    (fun n fuel => scanMember fuel (lead + n)) fuel

theorem exists_succ_of_le {fuel more : Nat} (h : fuel + 1 ≤ more) :
    ∃ k, more = k + 1 ∧ fuel ≤ k :=
  ⟨more - 1, by omega, by omega⟩

section Step

variable {fuel : Nat} (h : ScannerMoves fuel)
include h

/-- A value at its first character. -/
theorem scanDoc_solid_moves {i : Nat} {x : Char} {r : List Char} {d : Doc} {after : Option Cursor}
    (hx : isSpace x = false) (hscan : scanDoc (fuel + 1) ⟨i, x :: r⟩ = (d, after))
    (hwhole : d.Whole) :
    ∃ c', after = some c' ∧ ((c'.rest = [] → d.EndsItself) → ∀ more, fuel ≤ more → ∀ n tail,
      scanDoc (more + 1) ⟨i + n, x :: (r ++ tail)⟩ = (d.moved n, some (c'.moved n tail))) := by
  simp only [scanDoc, skipSpace_solid hx] at hscan
  -- by the first character: none, the two brackets, the quote, the words, the minus, the rest
  split at hscan
  · contradiction
  · rename_i heq
    obtain ⟨rfl, rfl⟩ := List.cons.inj heq
    rcases hms : scanMembers fuel true ⟨i + 1, r⟩ with ⟨ms, a⟩
    simp only [hms] at hscan
    cases hscan
    obtain ⟨c', rfl, -, hmoved⟩ := h.members true _ _ _ hms hwhole
    refine ⟨c', rfl, fun _ more hmore n tail => ?_⟩
    have hnext : scanMembers more true _ = _ := hmoved (fun _ => trivial) more hmore n tail
    simp only [scanDoc, skipSpace_solid hx, moved_step, hnext]
    rfl
  · rename_i heq
    obtain ⟨rfl, rfl⟩ := List.cons.inj heq
    rcases hitems : scanItems fuel true ⟨i + 1, r⟩ with ⟨is, a⟩
    simp only [hitems] at hscan
    cases hscan
    obtain ⟨c', rfl, -, hmoved⟩ := h.items true _ _ _ hitems hwhole
    refine ⟨c', rfl, fun _ more hmore n tail => ?_⟩
    have hnext : scanItems more true _ = _ := hmoved (fun _ => trivial) more hmore n tail
    simp only [scanDoc, skipSpace_solid hx, moved_step, hnext]
    rfl
  · rename_i heq
    obtain ⟨rfl, rfl⟩ := List.cons.inj heq
    obtain ⟨c', rfl, hmoved⟩ := stringDoc_moved hscan hwhole
    refine ⟨c', rfl, fun _ more _ n tail => ?_⟩
    simp only [scanDoc, skipSpace_solid hx, moved_step]
    exact hmoved n tail
  iterate 3 -- null, true and false
    rename_i heq
    obtain ⟨rfl, rfl⟩ := List.cons.inj heq
    obtain ⟨c', rfl, hmoved⟩ := wordDoc_moved hscan hwhole fun _ _ _ => rfl
    refine ⟨c', rfl, fun _ more _ n tail => ?_⟩
    simp only [scanDoc, skipSpace_solid hx, moved_step]
    exact hmoved n tail
  · rename_i heq
    obtain ⟨rfl, rfl⟩ := List.cons.inj heq
    obtain ⟨c', rfl, hmoved⟩ := numberDoc_moved hscan hwhole
    refine ⟨c', rfl, fun hend more _ n tail => ?_⟩
    simp only [scanDoc, skipSpace_solid hx, moved_step]
    exact hmoved hend n tail
  · rename_i heq
    obtain ⟨rfl, rfl⟩ := List.cons.inj heq
    split at hscan
    · rename_i hdigit
      obtain ⟨c', rfl, hmoved⟩ := numberDoc_moved hscan hwhole
      refine ⟨c', rfl, fun hend more _ n tail => ?_⟩
      rw [scanDoc_number hdigit]
      exact hmoved hend n tail
    · cases hscan
      exact hwhole.elim

theorem scanDoc_moves : Moves Doc.Whole Doc.EndsItself Doc.moved (fun _ => scanDoc) (fuel + 1) := by
  rintro ⟨i, cs⟩ d after hscan hwhole
  rcases blank_or_solid cs with hblank | ⟨b, x, r, rfl, hblank, hx⟩
  · obtain ⟨j, hskip⟩ := hblank.skipSpace_eq i
    simp only [scanDoc, hskip] at hscan
    cases hscan
    exact hwhole.elim
  · have hsolid : scanDoc (fuel + 1) ⟨i + b.length, x :: r⟩ = (d, after) := by
      rw [← scanDoc_append hblank]
      exact hscan
    obtain ⟨c', rfl, hmoved⟩ := scanDoc_solid_moves h hx hsolid hwhole
    refine ⟨c', rfl, by simp, fun hend more hmore n tail => ?_⟩
    obtain ⟨more, rfl, hle⟩ := exists_succ_of_le hmore
    show scanDoc (more + 1) ⟨i + n, (b ++ x :: r) ++ tail⟩ = _
    rw [List.append_assoc, List.cons_append, scanDoc_append hblank, Nat.add_right_comm]
    exact hmoved hend more hle n tail

theorem scanItems_moves (first : Bool) : Moves Items.Whole (fun _ => True) Items.moved
    (fun _ fuel => scanItems fuel first) (fuel + 1) := by
  rintro ⟨i, cs⟩ items after hscan hwhole
  rcases scanItems_cases hscan hwhole with ⟨b, r, hblank, rfl⟩ |
    ⟨sep, x, r, hsep, hx, hclose, rfl⟩
  · cases (scanItems_close first hblank fuel i r).symm.trans hscan
    refine ⟨_, rfl, by simp, fun _ more hmore n tail => ?_⟩
    obtain ⟨more, rfl, -⟩ := exists_succ_of_le hmore
    show scanItems (more + 1) first ⟨i + n, (b ++ ']' :: r) ++ tail⟩ = _
    rw [List.append_assoc, List.cons_append, scanItems_close first hblank, Items.moved,
      Cursor.moved, Nat.add_right_comm i n, Nat.add_right_comm (i + b.length)]
  · have hitem : scanItem fuel ⟨i + sep.length, x :: r⟩ = (items, after) := by
      rw [← scanItems_separates hsep hx hclose]
      exact hscan
    obtain ⟨c', rfl, -, hmoved⟩ := h.item _ _ _ hitem hwhole
    refine ⟨c', rfl, by simp, fun hend more hmore n tail => ?_⟩
    obtain ⟨more, rfl, hle⟩ := exists_succ_of_le hmore
    show scanItems (more + 1) first ⟨i + n, (sep ++ x :: r) ++ tail⟩ = _
    rw [List.append_assoc, List.cons_append, scanItems_separates hsep hx hclose,
      Nat.add_right_comm]
    exact hmoved hend more hle n tail

theorem scanItem_moves :
    Moves Items.Whole (fun _ => True) Items.moved (fun _ => scanItem) (fuel + 1) := by
  rintro c items after hscan hwhole
  rcases hd : scanDoc fuel c with ⟨d, a⟩
  cases a with
  | none =>
    simp only [scanItem, hd] at hscan
    cases hscan
    exact hwhole.2.elim
  | some a =>
    rcases hrest : scanItems fuel false a with ⟨rest, b⟩
    simp only [scanItem, hd, hrest] at hscan
    cases hscan
    obtain ⟨c', rfl, hne, hrestmoved⟩ := h.items false _ _ _ hrest hwhole.2
    obtain ⟨c₁, heq, hc, hdmoved⟩ := h.doc _ _ _ hd hwhole.1
    obtain rfl := Option.some.inj heq
    refine ⟨c', rfl, hc, fun _ more hmore n tail => ?_⟩
    obtain ⟨more, rfl, hle⟩ := exists_succ_of_le hmore
    have hdnext : scanDoc more _ = _ := hdmoved (fun hnil => absurd hnil hne) more hle n tail
    have hrestnext : scanItems more false _ = _ := hrestmoved (fun _ => trivial) more hle n tail
    simp only [scanItem, hdnext, hrestnext]
    rfl

theorem scanMembers_moves (first : Bool) : Moves Members.Whole (fun _ => True) Members.moved
    (fun _ fuel => scanMembers fuel first) (fuel + 1) := by
  rintro ⟨i, cs⟩ members after hscan hwhole
  rcases scanMembers_cases hscan hwhole with ⟨b, r, hblank, rfl⟩ | ⟨sep, r, hsep, rfl⟩
  · cases (scanMembers_close first hblank fuel i r).symm.trans hscan
    refine ⟨_, rfl, by simp, fun _ more hmore n tail => ?_⟩
    obtain ⟨more, rfl, -⟩ := exists_succ_of_le hmore
    show scanMembers (more + 1) first ⟨i + n, (b ++ '\x7d' :: r) ++ tail⟩ = _
    rw [List.append_assoc, List.cons_append, scanMembers_close first hblank, Members.moved,
      Cursor.moved, Nat.add_right_comm i n, Nat.add_right_comm (i + b.length)]
  · obtain ⟨lead, hlead⟩ := scanMembers_separates hsep
    have hmember : scanMember fuel (i + lead) ⟨i + sep.length, '"' :: r⟩ = (members, after) := by
      rw [← hlead]
      exact hscan
    obtain ⟨c', rfl, -, hmoved⟩ := h.member (i + lead) _ _ _ hmember hwhole
    refine ⟨c', rfl, by simp, fun hend more hmore n tail => ?_⟩
    obtain ⟨more, rfl, hle⟩ := exists_succ_of_le hmore
    show scanMembers (more + 1) first ⟨i + n, (sep ++ '"' :: r) ++ tail⟩ = _
    rw [List.append_assoc, List.cons_append, hlead, Nat.add_right_comm i n,
      Nat.add_right_comm i n]
    exact hmoved hend more hle n tail

theorem scanMember_moves (lead : Nat) : Moves Members.Whole (fun _ => True) Members.moved
    (fun n fuel => scanMember fuel (lead + n)) (fuel + 1) := by
  intro c members after hscan hwhole
  obtain ⟨r, key, a, j, s, d, a', rest, hr, hkey, hskip, hd, hrest, rfl⟩ :=
    scanMember_cases hscan hwhole
  obtain ⟨hclosed, hdwhole, hrestwhole⟩ := hwhole
  obtain ⟨c', rfl, hne, hrestmoved⟩ := h.members false _ _ _ hrest hrestwhole
  obtain ⟨a₁, heq, -, hdmoved⟩ := h.doc _ _ _ hd hdwhole
  obtain rfl := Option.some.inj heq
  obtain ⟨a₂, heq, hkeymoved⟩ := StringLiteral.scan_moved hkey hclosed
  obtain rfl := Option.some.inj heq
  refine ⟨c', rfl, by simp [hr], fun _ more hmore n tail => ?_⟩
  obtain ⟨more, rfl, hle⟩ := exists_succ_of_le hmore
  have hkeynext := hkeymoved n tail
  have hdnext : scanDoc more _ = _ := hdmoved (fun hnil => absurd hnil hne) more hle n tail
  have hrestnext : scanMembers more false _ = _ := hrestmoved (fun _ => trivial) more hle n tail
  have hrestchars : (c.moved n tail).rest = '"' :: (r ++ tail) := by
    rw [Cursor.moved, hr]
    rfl
  have hoffset : (c.moved n tail).offset = c.offset + n := rfl
  simp only [scanMember, hrestchars, hoffset, moved_step, hkeynext, skipSpace_moved hskip n tail,
    hdnext, hrestnext]
  rfl

end Step

/-- What takes nothing apart whole has nothing to take apart alike. -/
theorem Moves.of_not_whole {τ : Type} {whole ends : τ → Prop} {moved : Nat → τ → τ}
    {scan : (n fuel : Nat) → Cursor → τ × Option Cursor} {fuel : Nat}
    (h : ∀ c, ¬ whole (scan 0 fuel c).1) : Moves whole ends moved scan fuel := by
  intro c t after hscan hwhole
  refine absurd ?_ (h c)
  rwa [hscan]

theorem scannerMoves (fuel : Nat) : ScannerMoves fuel := by
  induction fuel with
  | zero =>
    exact ⟨.of_not_whole fun _ h => h, fun _ => .of_not_whole fun _ h => h,
      .of_not_whole fun _ h => h, fun _ => .of_not_whole fun _ h => h,
      fun _ => .of_not_whole fun _ h => h⟩
  | succ fuel ih =>
    exact ⟨scanDoc_moves ih, scanItems_moves ih, scanItem_moves ih, scanMembers_moves ih,
      scanMember_moves ih⟩

theorem skipSpace_rest_eq_nil_iff {c : Cursor} : c.skipSpace.rest = [] ↔ Blank c.rest := by
  obtain ⟨i, cs⟩ := c
  refine ⟨fun h => ?_, fun h => h.skipSpace i⟩
  rcases blank_or_solid cs with hcs | ⟨b, x, r, rfl, hb, hx⟩
  · exact hcs
  · rw [skipSpace_blank hb hx] at h
    contradiction

theorem blank_append_iff {b c : List Char} : Blank (b ++ c) ↔ Blank b ∧ Blank c := by
  simp only [Blank, List.mem_append, or_imp, forall_and]

/-- A text that is taken apart whole, with blanks before it and anything behind it: the value is the
same, and something stands behind it unless blanks follow only. -/
theorem Source.ofChars_moved {cs b : List Char} {d : Doc} (h : ofChars cs = ⟨d, none⟩)
    (hwhole : d.Whole) (hends : d.EndsItself) (hb : Blank b) (tail : List Char) :
    ∃ trailing, ofChars (b ++ (cs ++ tail)) = ⟨d.moved b.length, trailing⟩ ∧
      (trailing = none ↔ Blank tail) := by
  rcases hscan : scanDoc (3 * cs.length + 3) ⟨0, cs⟩ with ⟨d', after⟩
  simp only [ofChars, hscan] at h
  obtain rfl : d' = d := by cases after <;> exact congrArg Source.doc h
  obtain ⟨c', rfl, -, hmoved⟩ := (scannerMoves _).doc _ _ _ hscan hwhole
  have hrest : Blank c'.rest := by
    have htrailing := congrArg Source.trailing h
    simp only at htrailing
    split at htrailing
    · rename_i hempty
      exact skipSpace_rest_eq_nil_iff.mp (List.isEmpty_iff.mp hempty)
    · contradiction
  have hnext : scanDoc (3 * (b ++ (cs ++ tail)).length + 3) ⟨0, b ++ (cs ++ tail)⟩ =
      (d'.moved b.length, some (c'.moved b.length tail)) := by
    have hfuel : 3 * cs.length + 3 ≤ 3 * (b ++ (cs ++ tail)).length + 3 := by
      simp only [List.length_append]
      omega
    rw [scanDoc_append hb, Nat.zero_add, ← hmoved (fun _ => hends) _ hfuel b.length tail,
      Cursor.moved, Nat.zero_add]
  refine ⟨_, by rw [ofChars, hnext], ?_⟩
  have hblank : (c'.moved b.length tail).skipSpace.rest = [] ↔ Blank tail := by
    rw [skipSpace_rest_eq_nil_iff, Cursor.moved, blank_append_iff, and_iff_right hrest]
  rw [← hblank]
  simp

section Reading

variable {α : Type} {reader : (depth : Nat) → Doc → Except Complaint α} {raw : String} {v : α}

theorem readText_eq_ok_iff :
    readText reader raw = .ok v ↔
      ∃ d, Source.ofText raw = ⟨d, none⟩ ∧ reader depthLimit d = .ok v := by
  rcases hsource : Source.ofText raw with ⟨d, trailing⟩
  rw [readText, mapError_eq_ok_iff, hsource, Source.read, bind_eq_ok_iff]
  cases trailing with
  | none => simp [pure, Except.pure]
  | some place => simp

variable (hreader : AcceptsWhole (reader depthLimit))
  (hends : ∀ d v, reader depthLimit d = .ok v → d.EndsItself)
include hreader hends

/-- A text that is accepted, with blanks before it and anything behind it. -/
theorem exists_source_of_readText (h : readText reader raw = .ok v) {b : String}
    (hb : Blank b.toList) (tail : String) :
    ∃ d trailing, Source.ofText (b ++ (raw ++ tail)) = ⟨d, trailing⟩ ∧
      reader depthLimit d = .ok v ∧ (trailing = none ↔ Blank tail.toList) := by
  obtain ⟨d, hsource, hd⟩ := readText_eq_ok_iff.mp h
  obtain ⟨hwhole, hmoved⟩ := hreader d v hd
  obtain ⟨trailing, hmore, htrailing⟩ :=
    Source.ofChars_moved hsource hwhole (hends d v hd) hb tail.toList
  refine ⟨_, trailing, ?_, hmoved b.toList.length, htrailing⟩
  rw [Source.ofText, String.toList_append, String.toList_append, hmore]

theorem readText_between_blanks (h : readText reader raw = .ok v) {b tail : String}
    (hb : Blank b.toList) (htail : Blank tail.toList) :
    readText reader (b ++ (raw ++ tail)) = .ok v := by
  obtain ⟨d, trailing, hsource, hd, htrailing⟩ :=
    exists_source_of_readText hreader hends h hb tail
  exact readText_eq_ok_iff.mpr ⟨d, htrailing.mpr htail ▸ hsource, hd⟩

/-- Behind a text that is accepted blanks may follow only. -/
theorem blank_of_readText (h : readText reader raw = .ok v) {tail : String} {w : α}
    (hmore : readText reader (raw ++ tail) = .ok w) : Blank tail.toList := by
  obtain ⟨d, trailing, hsource, -, htrailing⟩ :=
    exists_source_of_readText hreader hends h (b := "") (by simp [Blank]) tail
  obtain ⟨e, hsource', -⟩ := readText_eq_ok_iff.mp hmore
  rw [String.empty_append] at hsource
  exact htrailing.mp (congrArg Source.trailing (hsource.symm.trans hsource'))

end Reading

end Devnet.Json
