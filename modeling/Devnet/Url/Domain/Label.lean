import Devnet.Url.Domain.Composition
import Devnet.Url.Domain.Joiner
import Devnet.Url.Domain.Mapping
import Devnet.Url.Punycode

namespace Devnet.Url.Domain

/-- Runs of `M` for marks, of `N` for all else. -/
def markRuns : String :=
  "lcN35M7mN8M7aN19MNMN2MN2MN9M1sNbM1cNlMgNM2tN8MN6M2N2MN4MzNMuNtM2hNbM1mN9M9NMoN4MN9MN3MN7M15N5M1lN
  9M16N1mM1iN3MNiMNfM2N2MtN4M1jNMNgM9N9M2N4MoN7M1jNwMkN2M3NMbN4M1jNMNiMiN4MkNbM1jNMNxM3N4MsNM1nNiM
  7NfMqN5M1jNMNqMaN4MrN3M1kNMNuM6N4MdNhM1jN2MNgM9NMaN4MrN4M1xNsMcN2M1pNM2NbM8N8M2qNM2N9MbN8M20N2MrN
  MNMNM4N2M1dNkMN2M5N1dM8NM2sNkMnN4M4N3MN3M2N7M3N4MdNcMNMaN4MjjN3MqaNdMjN3MtNeMiNeM1iNuM9N3M4lN2MyN
  M3aNwM5zN7M1jN17M1cN2dM1bNhM12N9McN3MuNdM1kNmM14NnM45N3MNlM4NM6NM2N3M5iN1tMjzN1gM2crN4M3wNM2oNwM
  feN6M2xN4Mn9uN4MNaMwN2M28N2M7kNM3NM4NMnN5M4N4M28N2M1eNqMiNiMdNM12N8MpNoMxN4M1bNeM10NM1vNnM3NM8N4M
  17N3M1eNMN3M2N2M5N2MNM15N5M5NcM6aN8MN4Mfn2N44MhaN11MqgN3nM2oNM45NaM1a9NfM14N8M4lN6MftNcM1lN5M8tN
  2M25N6M1yNbM1dN4M3eN3M1hNfM15NM2N2MaN4M19NbM7NeM1cN3M10NfMfN2M18NMcN3M1cNeM8N4MN2M2kNcM6NM2N1rM
  2nNhMgN5M1iN2MNiM7N6M5NuM1kNpMNMeNvM1hNiMnNM29NkM6jNiMrN10M1cNhM2yNdM2tNjM70NfM6tNfMNMN2M3xNgM3N
  sMNaM14N7MN4M8N9MNbM1aNgM5iN2oM33NhM2aN32M1dNlMN9M1mNeM9nN4M9N2MNM1cNfMnN2eM428NM6NpM8u6NiM1xcN5M
  1nN7Mt4NMN1uM29NeMf57N2M3mpN28MetN5M3NmM2N7MuN4M44N3M1izN1jM4N1eM8NMeNMmNv9M74N74M1cN7MafNiM18N4M
  e4N4M72N2M6rNM2NM7N2M5N9McyN2aMyN7M"

def markTable : Text.RunTable Bool := .ofClass 'M' markRuns

/-- Whether a character of a domain is a mark on the one before it. -/
def isMark (c : Char) : Bool := 0x300 ≤ c.toNat && markTable.getD c.toNat false

/-- The printable ASCII characters that no domain may hold. -/
def forbidden : List Char :=
  [' ', '#', '%', '/', ':', '<', '>', '?', '@', '[', '\\', ']', '^', '|']

/-- Neither a control nor forbidden. -/
def isAllowed (c : Char) : Bool :=
  !(c.toNat < 0x20 || c.toNat = 0x7F || forbidden.contains c)

def isAscii (cs : List Char) : Bool := cs.all (·.toNat < 0x80)

/-- What labels of other scripts start with in their ASCII form. -/
def asciiMark : List Char := ['x', 'n', '-', '-']

/-- The longest ASCII form that is read. -/
def asciiFormLimit : Nat := 2000

/-- The longest label that is written in ASCII form. -/
def labelLimit : Nat := 1000

/-- Whether characters are as they would be after replacing and composing. -/
def isSettled (cs : List Char) : Bool :=
  cs.all (fun c => mapChar c == some [c]) && composed cs == cs

/-- The characters that a label stands for. An ASCII form has digits behind its last hyphen and
stands for settled characters. -/
def readLabel? (cs : List Char) : Option (List Char) :=
  if asciiMark.isPrefixOf cs then
    let form := cs.drop asciiMark.length
    if form.getLast?.all (· == '-') || asciiFormLimit < form.length || !isAscii form then none
    else (Punycode.decode? form).filter isSettled
  else some cs

def isLabel (cs : List Char) : Bool :=
  cs.all isAllowed && !cs.head?.any isMark && joinersFit [] cs &&
    (isAscii cs || cs.length ≤ labelLimit)

def asciiForm (cs : List Char) : List Char :=
  if isAscii cs then cs else asciiMark ++ Punycode.encode cs

end Devnet.Url.Domain
