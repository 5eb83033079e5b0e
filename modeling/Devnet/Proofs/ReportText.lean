import Devnet.CommandLine.LogFilter
import Devnet.Report
import Mathlib.Data.List.Basic

namespace Devnet

/-- The text ends with the line, and there is a line above it. -/
structure EndsWithLine (text line : String) : Prop where
  unbroken : '\n' ∉ line.toList
  above : ∃ before, text = before ++ "\n" ++ line

theorem not_mem_digits {c : Char} (hc : c.isDigit = false) (n : Nat) :
    c ∉ (toString n).toList := by
  rw [Nat.toString_eq_repr, Nat.toList_repr]
  intro h
  have hdigit := Nat.isDigit_of_mem_toDigits (by decide) (by decide) h
  simp [hdigit] at hc

theorem toString_nat_inj {m n : Nat} : toString m = toString n ↔ m = n := by
  refine ⟨fun h => ?_, congrArg toString⟩
  have hdigits : Nat.toDigits 10 m = Nat.toDigits 10 n := by
    simpa only [Nat.toString_eq_repr, Nat.toList_repr] using congrArg String.toList h
  simpa using congrArg (fun digits => Nat.ofDigitChars 10 digits 0) hdigits

/-- What stands behind the last blank is the same in equal texts. -/
theorem after_blank_inj {front other word last : List Char} (hword : ' ' ∉ word)
    (hlast : ' ' ∉ last) (h : front ++ ' ' :: word = other ++ ' ' :: last) : word = last := by
  rcases List.append_eq_append_iff.mp h with ⟨between, -, hcut⟩ | ⟨between, -, hcut⟩
  · cases between with
    | nil => exact (List.cons.inj hcut).2
    | cons c between => exact absurd ((List.cons.inj hcut).2 ▸ by simp) hword
  · cases between with
    | nil => exact (List.cons.inj hcut).2.symm
    | cons c between => exact absurd ((List.cons.inj hcut).2 ▸ by simp) hlast

theorem counted_inj {front other words : String} {m n : Nat}
    (h : front ++ " " ++ toString m ++ words = other ++ " " ++ toString n ++ words) : m = n := by
  have hchars := congrArg String.toList ((String.append_left_inj words).mp h)
  have hblank : " ".toList = [' '] := by decide
  simp only [String.toList_append, hblank, List.append_assoc, List.singleton_append] at hchars
  have hdigits := after_blank_inj (not_mem_digits rfl m) (not_mem_digits rfl n) hchars
  exact toString_nat_inj.mp (String.toList_inj.mp hdigits)

/-- What is printed of the outcomes one by one, with the failed ones of them and the number of the
others. -/
inductive Outcome.Printed : List Outcome → String → List Outcome → Nat → Prop where
  | none : Printed [] "" [] 0
  | ok {name : String} {detail : Detail} {outcomes failed : List Outcome} {lines : String}
      {passed : Nat} (rest : Printed outcomes lines failed passed) :
      Printed (⟨name, .ok detail⟩ :: outcomes)
        ("  ok   " ++ name ++ ": " ++ detail.text ++ "\n" ++ lines) failed (passed + 1)
  | fail {name : String} {e : CheckError} {outcomes failed : List Outcome} {lines : String}
      {passed : Nat} (rest : Printed outcomes lines failed passed) :
      Printed (⟨name, .error e⟩ :: outcomes)
        ("  FAIL " ++ name ++ ": " ++ e.message ++ " (" ++ e.failureClass.name ++ ")\n" ++ lines)
        (⟨name, .error e⟩ :: failed) passed

theorem Outcome.Printed.length_eq {outcomes failed : List Outcome} {lines : String} {passed : Nat}
    (h : Printed outcomes lines failed passed) : passed + failed.length = outcomes.length := by
  induction h with
  | none => rfl
  | ok _ ih => simp only [List.length_cons]; omega
  | fail _ ih => simp only [List.length_cons]; omega

theorem Outcome.Printed.intercalate_eq {outcomes failed : List Outcome} {lines : String}
    {passed : Nat} (h : Printed outcomes lines failed passed) (last : String) :
    "\n".intercalate (outcomes.map (·.text) ++ [last]) = lines ++ last := by
  induction h with
  | none => rw [List.map_nil, List.nil_append, String.intercalate_singleton, String.empty_append]
  | ok _ ih =>
    rw [List.map_cons, List.cons_append, String.intercalate_cons_of_ne_nil (by simp), ih]
    simp only [Outcome.text, toString, String.append_assoc]
  | fail _ ih =>
    rw [List.map_cons, List.cons_append, String.intercalate_cons_of_ne_nil (by simp), ih]
    simp only [Outcome.text, toString, String.append_assoc]
    rfl

namespace Report

theorem summary_unbroken (r : Report) : '\n' ∉ r.summary.toList := by
  have hnewline : '\n'.isDigit = false := rfl
  have hpassed := not_mem_digits hnewline (r.outcomes.length - r.failures.length)
  have hfailed := not_mem_digits hnewline r.failures.length
  have hsummary : r.summary = toString (r.outcomes.length - r.failures.length) ++ " passed, " ++
    toString r.failures.length ++ " failed" := rfl
  simp only [hsummary, String.toList_append, List.mem_append, not_or]
  exact ⟨⟨⟨hpassed, by decide⟩, hfailed⟩, by decide⟩

/-- The summary is the last line of the text. -/
theorem endsWithSummary (r : Report) : EndsWithLine r.text r.summary := by
  refine ⟨r.summary_unbroken, ?_⟩
  rw [text, String.intercalate_append_of_ne_nil (by simp) (by simp), String.intercalate_singleton]
  exact ⟨_, rfl⟩

theorem failures_length_le (r : Report) : r.failures.length ≤ r.outcomes.length :=
  List.length_filter_le ..

theorem text_head (r : Report) : r.text.toList.head? = some 'n' := by
  have htext : r.text = "network " ++ r.network.name ++ ":" ++ "\n" ++
      "\n".intercalate (r.outcomes.map (·.text) ++ [r.summary]) := by
    rw [text, List.cons_append, String.intercalate_cons_of_ne_nil (by simp)]
    rfl
  simp only [htext, String.toList_append, List.append_assoc]
  rfl

theorem failures_printed (r : Report) : ∃ lines passed,
    Outcome.Printed r.outcomes lines r.failures passed := by
  rw [failures]
  induction r.outcomes with
  | nil => exact ⟨"", 0, .none⟩
  | cons o outcomes ih =>
    obtain ⟨lines, passed, hprinted⟩ := ih
    obtain ⟨name, result⟩ := o
    cases result with
    | ok detail => exact ⟨_, _, .ok hprinted⟩
    | error e => exact ⟨_, _, .fail hprinted⟩

theorem passed_printed {r : Report} {lines : String} {passed : Nat}
    (h : Outcome.Printed r.outcomes lines r.failures passed) :
    r.text = "network " ++ r.network.name ++ ":\n" ++ lines ++ toString passed ++ " passed, " ++
      toString r.failures.length ++ " failed" := by
  have hcount : r.outcomes.length - r.failures.length = passed := by
    have := h.length_eq
    omega
  have hsummary : r.summary =
      toString passed ++ " passed, " ++ toString r.failures.length ++ " failed" := by
    rw [← hcount]
    rfl
  rw [text, List.cons_append, String.intercalate_cons_of_ne_nil (by simp),
    h.intercalate_eq, hsummary]
  simp only [toString, String.append_assoc]
  rfl

/-- The number of the failed ones is read off the end of the text: the blank before it cuts off all
the digits there are. -/
theorem text_endsWith_iff (r : Report) (n : Nat) :
    (∃ front, r.text = front ++ " passed, " ++ toString n ++ " failed") ↔
      r.failures.length = n := by
  obtain ⟨lines, passed, hprinted⟩ := r.failures_printed
  rw [passed_printed hprinted]
  constructor
  · rintro ⟨front, h⟩
    have hwords : " passed, " = " passed," ++ " " := rfl
    rw [hwords, ← String.append_assoc, ← @String.append_assoc front] at h
    exact counted_inj h
  · rintro rfl
    exact ⟨_, rfl⟩

/-- A report is printed as its heading, the entry of every outcome in their order, and the numbers
of the passed and the failed ones, and it ends with no failure where it is a success. -/
theorem text_tells (r : Report) : ∃ lines passed,
    Outcome.Printed r.outcomes lines r.failures passed ∧
    passed + r.failures.length = r.outcomes.length ∧
    r.text = "network " ++ r.network.name ++ ":\n" ++ lines ++ toString passed ++ " passed, " ++
      toString r.failures.length ++ " failed" ∧
    (r.isSuccess = true ↔ r.failures = []) ∧
    ((∃ front, r.text = front ++ " passed, 0 failed") ↔ r.isSuccess = true) := by
  obtain ⟨lines, passed, hprinted⟩ := r.failures_printed
  refine ⟨lines, passed, hprinted, hprinted.length_eq, passed_printed hprinted, r.isSuccess_iff, ?_⟩
  have hzero : " passed, 0 failed" = " passed, " ++ toString 0 ++ " failed" := by decide
  simp only [hzero, ← String.append_assoc]
  rw [r.text_endsWith_iff 0, r.isSuccess_iff, List.length_eq_zero_iff]

end Report

namespace CommandLine

theorem shownLine_head (l : LogLine) : (shownLine l).toList.head? ≠ some 'n' := by
  have hlabel : ∀ level : LogLevel, ∃ c cs, Text.trimFront level.label.toList = c :: cs ∧ c ≠ 'n'
    | .error | .warn | .info | .debug | .trace => ⟨_, _, rfl, by decide⟩
  obtain ⟨c, cs, hcs, hc⟩ := hlabel l.level
  simpa [shownLine, hcs] using hc

theorem shownLine_ne_text (l : LogLine) (r : Report) : shownLine l ≠ r.text := by
  intro h
  exact shownLine_head l (h ▸ r.text_head)

end CommandLine

end Devnet
