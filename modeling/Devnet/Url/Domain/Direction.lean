import Devnet.Text.RunTable

namespace Devnet.Url.Domain

inductive Direction where
  | leftToRight
  | rightToLeft
  | arabicLetter
  | arabicNumber
  | europeanNumber
  | numberSign
  | numberSeparator
  | numberTerminator
  | neutral
  | boundary
  | mark
  | other
  deriving DecidableEq

namespace Direction

/-- Runs, each with a letter for the direction of its characters. -/
def runs : String :=
  "9B5XeB5X2O3T5OSCS2CaEC12OqL4OyBO4TaO6T15OoLOchL2O7LeO2LsOLhO35M4L2O3jL2O3vL8M73L5O2T19MRMR2MR2MR
  9M1iR2OA2TACA2ObM1cAlMaNT2N3AM2tA8MO6M2A2MO4M2AaEnAMuAtM2hAbMfA17R9M2R4O3RMoR4MR9MR3MR7M15R5M2R
  1jA9M16A1lM1jLMLM4L8M4LM3LfM2L2MtLM1mLM4L6M6LMkL4McL2T7LT2L5M1lL2M3LrMkL2M3LMbL2M1lLM4L8M4L3MiL4M
  bL8TL8M1mLM2LML6M6LaMbL4MsLM1pLMcL3MzL6OT6OM3LM1jLML3M5LiMaL4MiL7O2LM1mLMfL9MdL4MqL2M1lL2M4L5M7LM
  kL4MrLM20L5M3L6M2hLM2LbMT7L8M2qLM2L9MbL8M20L2MrLMLMLM4O1fLeML5ML2M5L1dM8LM2uL4ML6ML2M2L2MpL2M4L3M
  gL4MdLM2L2M6LMfLMjjL3M1cLgO2oLOiiL5O36L3MtL2MuLeMiLeM1jL7M8LM2LbM7LTL3MgLwO39L2MyLM3aL3M4L2M9LM6L
  7M6O48LyOnL2M2L3M1kLML9MLM2L8M6LdM1cL2cM1cLML5MLM5LM14L9McL2MwL4M2L2ML3M1kLML2M3LML3M1mL8M2L5M45L
  3MLdML7M4LM6LM3L2M5iL1tMejL4BwO5TfOC2jO1cT1gM16OcTkO1oL3sOST82O1xLqOLlyOL9fO74LmoO51L7O3L4M6L7O
  3jLM2oLwMedO3LpO9L4M2LO6L4O2L4O2gL4M3LO2iLO5gL1cO5hsL1sOh3kL1sO8tL3O2nL4MOaM3OtL2M28L2MeLzO2tLO
  3dLM3LM4LMpL2ML4O4M8L8T1gLcO1wLaMiLiMdLM12L8MpLbM1aL3M1cLM2L4M2L2M13LM1vL6M2L2M2LbM3LM8LM1bLM1fLM
  L3M2L2M5L2MLM16L2M8LbM2xL2eO11LM2LM4L3Mfn2L44MhAgtO11M1aOb1A75LO1qL25O3L1sO19L3nM2oLMvE3aLaMw0L
  7zRO69RfM14R8M4lR6M26R7OcgR10AcMqNvR5MO6pRwN17R2MlReA16O6M1cRmAbMvAiR4M3eRLM1iLfMbLkOaLM2L2MaL3M
  1dL4M2L2M7LeM1cL3M10L5ML9M1pLMcL2M1gL9MaL4M2LM2nL3M2LML2M6LM2L1rM2nLM3LdMgL2M1lL2M3LM11LqM1nL7McL
  MLMLMeLvM1kL8M2L3MLMnLM2cL6MLM4L2ML2M6mL6M4L2ML2MrL10M1fL8M2LML2MvLwO17LMLM2L6MLM2tL3M2L4ML9M73L
  9ML2M74L2MLM4LM40L8M4LMwL6M2L2M14L6M2L4M8L9ML6M2L3M1aLdML2M5iLML3MLM5lLeM2cLnML7ML2ML23M1dLlML9M
  1sL3M2LMLM9nL2MbL2M1gL8M2LMLMnL2eM11L8O4TuO401LM6LpM8u6LcM3L3M1xcL5M1nL7Mt4LM1rL4M27LOLcMf59L2M
  31dLlcO28MevL3MhL8M2L7MuL4M1nL2hO3M3fO1sL2oO1b4L1jM4L1eM8LMeLMmLv9M74L74M1cL7MafLiM18L4MfLcxTsL4M
  72L2M6rLM2LM7L2M5L9M76L5sR2aMyR7MmeRhrAgwOtL3O1pL1lO3eL2owO"

def ofKind : Char → Direction
  | 'L' => leftToRight
  | 'R' => rightToLeft
  | 'A' => arabicLetter
  | 'N' => arabicNumber
  | 'E' => europeanNumber
  | 'S' => numberSign
  | 'C' => numberSeparator
  | 'T' => numberTerminator
  | 'O' => neutral
  | 'B' => boundary
  | 'M' => mark
  | _ => other

def table : Text.RunTable Direction := .ofPacked (fun e => (e.number 0, ofKind e.kind)) runs

def ofChar (c : Char) : Direction := table.getD c.toNat leftToRight

/-- Text that is not written from left to right. -/
def isReversed (d : Direction) : Bool := d ∈ [rightToLeft, arabicLetter, arabicNumber]

def isCommon (d : Direction) : Bool :=
  d ∈ [europeanNumber, numberSign, numberSeparator, numberTerminator, neutral, boundary, mark]

/-- A label in a domain with text from right to left: its first character fixes its direction, and
what stands behind the first, apart from marks at the end, keeps to it. -/
def isReadable : List Direction → Bool
  | [] => true
  | first :: rest =>
    let body := (rest.reverse.dropWhile (· == mark)).reverse
    if first = leftToRight then
      body.all (fun d => d == leftToRight || d.isCommon) &&
        body.getLast?.all (· ∈ [leftToRight, europeanNumber])
    else if first = rightToLeft ∨ first = arabicLetter then
      body.all (fun d => d.isReversed || d.isCommon) &&
        body.getLast?.all (fun d => d.isReversed || d == europeanNumber) &&
        !(body.contains europeanNumber && body.contains arabicNumber)
    else false

end Direction

/-- Whether a character is not written from left to right. -/
def isReversed (c : Char) : Bool := 0x590 ≤ c.toNat && (Direction.ofChar c).isReversed

/-- A domain with text from right to left has readable labels only. -/
def isReadable (labels : List (List Char)) : Bool :=
  !labels.any (·.any isReversed) ||
    labels.all fun l => Direction.isReadable (l.map Direction.ofChar)

end Devnet.Url.Domain
