namespace Devnet.Text

/-- The code points with the property White_Space, as closed ranges. -/
def blankRanges : List (Nat × Nat) :=
  [(0x09, 0x0D), (0x20, 0x20), (0x85, 0x85), (0xA0, 0xA0), (0x1680, 0x1680), (0x2000, 0x200A),
   (0x2028, 0x2029), (0x202F, 0x202F), (0x205F, 0x205F), (0x3000, 0x3000)]

def isBlank (c : Char) : Bool :=
  blankRanges.any fun r => r.1 ≤ c.toNat && c.toNat ≤ r.2

def trimFront (cs : List Char) : List Char := cs.dropWhile isBlank

def trim (cs : List Char) : List Char := (trimFront (trimFront cs).reverse).reverse

theorem trimFront_blanks_append {bs : List Char} (h : ∀ b ∈ bs, isBlank b = true)
    (cs : List Char) : trimFront (bs ++ cs) = trimFront cs := by
  induction bs with
  | nil => rfl
  | cons b bs ih =>
    have hb : isBlank b = true := h b (by simp)
    have hs := ih fun x hx => h x (by simp [hx])
    simpa [trimFront, List.dropWhile_cons, hb] using hs

theorem trimFront_of_head {c : Char} (h : isBlank c = false) (cs : List Char) :
    trimFront (c :: cs) = c :: cs := by
  simp [trimFront, h]

theorem trimFront_of_unspaced {cs : List Char} (h : ∀ c ∈ cs.head?, isBlank c = false) :
    trimFront cs = cs := by
  cases cs with
  | nil => rfl
  | cons c cs => exact trimFront_of_head (h c rfl) cs

theorem trim_surrounded {lead core trail : List Char} (hlead : ∀ c ∈ lead, isBlank c = true)
    (htrail : ∀ c ∈ trail, isBlank c = true) (hhead : ∀ c ∈ core.head?, isBlank c = false)
    (hlast : ∀ c ∈ core.getLast?, isBlank c = false) : trim (lead ++ core ++ trail) = core := by
  rw [trim, List.append_assoc, trimFront_blanks_append hlead]
  cases core with
  | nil =>
    have hblank : trimFront trail = [] := by
      simpa [trimFront] using trimFront_blanks_append htrail []
    rw [List.nil_append, hblank]
    rfl
  | cons c core =>
    rw [List.cons_append, trimFront_of_head (hhead c rfl), ← List.cons_append, List.reverse_append,
      trimFront_blanks_append fun c hc => htrail c (List.mem_reverse.mp hc),
      trimFront_of_unspaced (by rwa [List.head?_reverse]), List.reverse_reverse]

/-- What is taken off in front is blank, and what is left does not begin with a blank. -/
theorem trimFront_split (cs : List Char) :
    ∃ lead, cs = lead ++ trimFront cs ∧ (∀ c ∈ lead, isBlank c = true) ∧
      ∀ c ∈ (trimFront cs).head?, isBlank c = false := by
  induction cs with
  | nil => exact ⟨[], rfl, by simp, by simp [trimFront]⟩
  | cons c cs ih =>
    cases hc : isBlank c with
    | false =>
      rw [trimFront_of_head hc]
      exact ⟨[], rfl, by simp, by simpa using hc⟩
    | true =>
      obtain ⟨lead, hsplit, hlead, hhead⟩ := ih
      have hstep : trimFront (c :: cs) = trimFront cs := by
        rw [trimFront, List.dropWhile_cons_of_pos hc, trimFront]
      rw [hstep]
      exact ⟨c :: lead, congrArg (c :: ·) hsplit, by simpa [hc] using hlead, hhead⟩

/-- Trimming takes blanks off the two ends, and leaves no blank there. -/
theorem trim_split (cs : List Char) :
    ∃ lead trail, cs = lead ++ trim cs ++ trail ∧ (∀ c ∈ lead, isBlank c = true) ∧
      (∀ c ∈ trail, isBlank c = true) ∧ (∀ c ∈ (trim cs).head?, isBlank c = false) ∧
      ∀ c ∈ (trim cs).getLast?, isBlank c = false := by
  obtain ⟨lead, hfront, hlead, hhead⟩ := trimFront_split cs
  obtain ⟨back, hback, hblank, hlast⟩ := trimFront_split (trimFront cs).reverse
  have hcore : trimFront cs = trim cs ++ back.reverse := by
    rw [trim, ← List.reverse_append, ← hback, List.reverse_reverse]
  refine ⟨lead, back.reverse, ?_, hlead, ?_, ?_, ?_⟩
  · rw [List.append_assoc, ← hcore]
    exact hfront
  · intro c hc
    exact hblank c (List.mem_reverse.mp hc)
  · intro c hc
    refine hhead c ?_
    rw [hcore, List.head?_append, hc]
    rfl
  · intro c hc
    refine hlast c ?_
    rwa [trim, List.getLast?_reverse] at hc

end Devnet.Text
