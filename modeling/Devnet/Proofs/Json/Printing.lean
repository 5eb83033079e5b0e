import Devnet.Proofs.Json.Spelling

namespace Devnet.Json

/-- The value is printed as a spelling of it. -/
def Prints (v : Json) : Prop := Spells v.chars (.value v.written)

/-- The printed text, and blanks before it. -/
theorem Prints.isText {v : Json} (h : Prints v) {b : List Char} (hb : Blank b) :
    IsText (String.ofList b ++ v.text) v.written := by
  refine ⟨b, v.chars, [], ?_, hb, h, fun _ hc => absurd hc List.not_mem_nil⟩
  simp [text]

theorem prints_natural (n : UInt64) : Prints (natural n) := by
  obtain ⟨l, hspells, hsign, hvalue⟩ := spellsUnsigned_natural n
  exact .number hspells hsign (by rw [hvalue]; rfl)

theorem prints_string (s : String) : Prints (.string s) := .string (spellsString_stringChars s)

theorem blank_nil : Blank [] := fun _ h => absurd h List.not_mem_nil

theorem separates_comma : Separates false [','] := .next blank_nil blank_nil

theorem commaSeparated_cons (p : List Char) (ps : List (List Char)) :
    commaSeparated (p :: ps) = p ++ ps.flatMap (',' :: ·) := by
  induction ps generalizing p with
  | nil => simp [commaSeparated]
  | cons q ps ih => rw [commaSeparated, ih, List.flatMap_cons, List.cons_append]

theorem spells_nextItems {vs : List Json} (h : ∀ v ∈ vs, Prints v) :
    Spells ((itemChars vs).flatMap (',' :: ·) ++ [']']) (.items false (writtenItems vs)) := by
  induction vs with
  | nil => exact .noItems blank_nil
  | cons v vs ih =>
    have hv := h v List.mem_cons_self
    have hvs := ih fun w hw => h w (List.mem_cons_of_mem _ hw)
    have hspells := Spells.item separates_comma hv hvs
    rw [itemChars, writtenItems, List.flatMap_cons, List.append_assoc]
    simpa using hspells

theorem prints_array {vs : List Json} (h : ∀ v ∈ vs, Prints v) : Prints (.array vs) := by
  refine .array ?_
  cases vs with
  | nil => exact .noItems blank_nil
  | cons v vs =>
    have hv := h v List.mem_cons_self
    have hvs := spells_nextItems fun w hw => h w (List.mem_cons_of_mem _ hw)
    have hspells := Spells.item (.first blank_nil) hv hvs
    rw [itemChars, writtenItems, commaSeparated_cons, List.append_assoc]
    simpa using hspells

theorem spells_nextMembers {ms : List (String × Json)} (h : ∀ m ∈ ms, Prints m.2) :
    Spells ((memberChars ms).flatMap (',' :: ·) ++ ['\x7d'])
      (.members false (writtenMembers ms)) := by
  induction ms with
  | nil => exact .noMembers blank_nil
  | cons m ms ih =>
    obtain ⟨name, v⟩ := m
    have hv := h (name, v) List.mem_cons_self
    have hms := ih fun w hw => h w (List.mem_cons_of_mem _ hw)
    have hspells := Spells.member separates_comma (spellsString_stringChars name) blank_nil
      blank_nil hv hms
    rw [memberChars, writtenMembers, List.flatMap_cons, List.append_assoc]
    simpa using hspells

theorem prints_object {ms : List (String × Json)} (h : ∀ m ∈ ms, Prints m.2) :
    Prints (.object ms) := by
  refine .object ?_
  cases ms with
  | nil => exact .noMembers blank_nil
  | cons m ms =>
    obtain ⟨name, v⟩ := m
    have hv := h (name, v) List.mem_cons_self
    have hms := spells_nextMembers fun w hw => h w (List.mem_cons_of_mem _ hw)
    have hspells := Spells.member (.first blank_nil) (spellsString_stringChars name) blank_nil
      blank_nil hv hms
    rw [memberChars, writtenMembers, commaSeparated_cons, List.append_assoc]
    simpa using hspells

end Devnet.Json
