import Devnet.Url.Domain.Composition

namespace Devnet.Url.Domain

inductive Joining where
  | left
  | right
  | dual
  /-- Letters join across it. -/
  | transparent
  | none
  deriving DecidableEq

namespace Joining

/-- Runs, each with a letter for how its characters join. -/
def runs : String :=
  "lcN35T7mN8T7aN19TNTN2TN2TN9T1sNbT5NDN4RDRDR5D4RdDN7DR2DlTeN2DT3R5NfDiR12DR2D9RDRDR2D2RNR8TN6T2N2T
  N4T2RaN3D2NDgNRT3D5R4DR9DRDRDR2DRtTRbD3RfD2R4DRD2R3D2R6D12NbTpNxD9T9NToN4TN9TN3TN7TgNR5D2RDRaDRD
  3R5T2NDN4DNRDqR3ND2N5DR8D9TaD3RNR2D2R6DRfDN1lT1jNTNT4N8T4NT3NfT2N2TtNT1mNT4N6T6NTkN4ToN5T1lN2T3N
  rTkN2T3NTbN2T1lNT4N8T4N3TiN4TkN8T1mNT2NTN6T6NaTbN4TsNT1pNTcN3T1cNT3NT1jNTN3T5NiTaN4TrNT1mNT2NT6NT
  5N9TdN4TqN2T1lN2T4N5T7NTkN4TrNT20N5T3N6T2hNT2NbT8N8T2qNT2N9TbN8T20N2TrNTNTNT1jNeTN5TN2T5N1dT8NT
  2uN4TN6TN2T2N2TpN2T4N3TgN4TdNT2N2T6NTfNTjjN3TqaN3TtN2TuNeTiNeT1jN7T8NT2NbT9N3T13NDoN2oD5N2TyDT6D
  34N3T4N2T9NT6N7T5zN2T2N3T1kNTN9TNT2N8T6NdT1cN2cT1cNTN5TNT5NT14N9TcN2TwN4T2N2TN3T1kNTN2T3NTN3T1mN
  8T2N5T45N3TNdTN7T4NT6NT3N2T5iN1tTjzN1gT2crN4T3wNT2oNwTfeN4T2zN4Tn9uN4TNaTwN2T28N2T7kNT3NT4NTpN2T
  5N4TgN1eDL29NaTiNiTdNT12N8TpNbT1aN3T1cNT2N4T2N2T13NT1vN6T2N2T2NbT3NT8NT1bNT1fNTN3T2N2T5N2TNT16N2T
  8NbT6cNT2NT4N3Tfn2N44ThaN11TqgN3nT2oNT45NaT1a9NfT14N8T3kN5DRNRN2R2NL5R4DL5DR3DR2NR6T4DR40NDRD3R3D
  R2DRD2RD8RgN4R2D9dNLxDRDcT1lN5T8tN2TlNR2DNaD16N6T1cN3DRhDNbT3DRrN4D2RcD4T16NDN2D3RND2R2DR2DND2RD
  4NRDlLxNT1iNfT15NT2N2TaN3T1dN4T2N2T7NeT1cN3T10N5TN9T1pNTcN2T1gN9TaN4T2NT2nN3T2NTN2T6NT2N1rT2nNT3N
  dTgN2T1lN2T3NT11NqT1nN7TcNTNTNTeNvT1kN8T2N3TNTnNT2cN6TNT4N2TN2T6mN6T4N2TN2TrN10T1fN8T2NTN2T2yNTNT
  2N6TNT2tNTNT2N4TN9T73N9TN2T74N2TNT4NT40N8T4NTwNaT14N6T2N4T8N9TN6T2N3T1aNdTN2T5iNTN3TNT5lNeTNT2aN
  nTN7TN2TN23T1dNlTN9T1sN3T2NTNT9nN2TbN2T1gN8T2NTNTnN2eT428NT6NpT8u6NcT3N3T1xcN5T1nN7Tt4NT1rN4T29N
  cTf59N2T3mpN28TevN3ThN8T2N7TuN4T44N3T1izN1jT4N1eT8NTeNTmNv9T74N74T1cN7TafNiT18N4Te4N4T72N2T6rNT2N
  T7N2T5N9TcyN2aTyDcT"

def ofKind : Char → Joining
  | 'L' => left
  | 'R' => right
  | 'D' => dual
  | 'T' => transparent
  | _ => none

def table : Text.RunTable Joining := .ofPacked (fun e => (e.number 0, ofKind e.kind)) runs

def ofChar (c : Char) : Joining := table.getD c.toNat none

end Joining

/-- Whether the next letter joins in one of the ways. -/
def joinsNext (ways : List Joining) (cs : List Char) : Bool :=
  (cs.find? fun c => Joining.ofChar c != .transparent).any fun c => Joining.ofChar c ∈ ways

def nonJoiner : Char := '\u200C'

def joiner : Char := '\u200D'

/-- Both joiners fit behind a mark that joins consonants; the one that parts letters also fits
between letters that would join. The characters before stand in reverse. -/
def joinerFits (before : List Char) (c : Char) (cs : List Char) : Bool :=
  match before with
  | [] => false
  | p :: _ =>
    markClass p == viramaClass ||
      (c == nonJoiner && joinsNext [.left, .dual] before && joinsNext [.right, .dual] cs)

/-- Whether all joiners fit where they stand. -/
def joinersFit : (before : List Char) → List Char → Bool
  | _, [] => true
  | before, c :: cs =>
    (!(c == joiner || c == nonJoiner) || joinerFits before c cs) && joinersFit (c :: before) cs

end Devnet.Url.Domain
