namespace Devnet.Text

/-- A capital letter of packed text with the numbers before it, which are in base 36 and parted by
commas. -/
structure PackedEntry where
  numbers : List Nat
  kind : Char

/-- A number of the entry; one that is left out counts as one. -/
def PackedEntry.number (e : PackedEntry) (i : Nat) : Nat := e.numbers.getD i 1

def packedDigit? (c : Char) : Option Nat :=
  if '0' ≤ c ∧ c ≤ '9' then some (c.toNat - '0'.toNat)
  else if 'a' ≤ c ∧ c ≤ 'z' then some (c.toNat - 'a'.toNat + 10)
  else none

/-- The entries of packed text; `done` and `current` are the numbers read for the next one. -/
def packedEntries : (done : List Nat) → (current : Option Nat) → List Char → List PackedEntry
  | _, _, [] => []
  | done, current, c :: cs =>
    match packedDigit? c with
    | some d => packedEntries done (some (36 * current.getD 0 + d)) cs
    | none =>
      if c = ',' then packedEntries (done ++ [current.getD 0]) none cs
      else if 'A' ≤ c ∧ c ≤ 'Z' then ⟨done ++ current.toList, c⟩ :: packedEntries [] none cs
      else packedEntries done current cs

/-- Runs of code points, each with its length. -/
abbrev RunTable (α : Type) := List (Nat × α)

namespace RunTable

/-- The table of packed text whose entries mean `run`. -/
def ofPacked {α : Type} (run : PackedEntry → Nat × α) (s : String) : RunTable α :=
  (packedEntries [] none s.toList).map run

/-- The runs of a class of code points: the entries of the letter `kind` belong to it. -/
def ofClass (kind : Char) (s : String) : RunTable Bool :=
  ofPacked (fun e => (e.number 0, e.kind == kind)) s

/-- What holds for a code point, and its place in its run. -/
def find? {α : Type} : RunTable α → Nat → Option (α × Nat)
  | [], _ => none
  | (count, a) :: runs, n => if n < count then some (a, n) else find? runs (n - count)

/-- What holds for a code point; `default` behind the last run. -/
def getD {α : Type} (t : RunTable α) (n : Nat) (default : α) : α :=
  match t.find? n with
  | some (a, _) => a
  | none => default

end RunTable

end Devnet.Text
