import Devnet.Text.RunTable

namespace Devnet.Text

/-- Runs of `A` for letters and numbers, of `N` for all else. -/
def alphanumericRuns : String :=
  "1cNaA7NqA6NqA1bNA7N2ANA3N2AN3ANnANvANcqA4NcAeN5A7NANA2eNAtNiAN2A2N4ANA6NAN3ANANkAN2bAN3vA8N4mAN
  12A2NA6N15A13NeANAN2AN2ANA8NrA4N4AtNbA5N1kANhA4N2uAN8A4N8A4NgA2NAgN1cAdN2tAeN17A9N2A4NA5NoA2NjAjN
  pA7NbA5NoAN7A7NA8N16AaNcA3N7A6N24ANgAN3A4NfA2NaANjAN8A2N2A2NmAN7ANA3N4A3N8A2N2A2N2ANA8NA4N2AN5A2N
  cA2N6A2NA4N3AN6A4N2A2NmAN7AN2AN2AN2A4N5A4N2A2N2A4NA7N4ANA7NgAbN3AN9AN3ANmAN7AN2AN5A3N9AN3AN2A3NA
  fN4A2NaA9N4A4N3AN8A2N2A2NmAN7AN2AN5A3N8A2N2A2N2A9N2A4N2AN5A2NaAN7AaN2AN6A3N3AN4A3N2ANAN2A3N2A3N3A
  3NcA4N5A3N3AN3A3NA6NAeNdAdNdAN3ANnANgA3N8AN3AN3A8N2AN3AN2A2N4A2NaA8N7AN4AN8AN3ANnANaAN5A3N8AN3AN
  3A8N2A5N3AN4A2NaAN3AcNdAN3AN15A2N8AN3AN3ANA5NgA2NjAN6AN3ANiA3NoAN9ANA2N7A8N6ANAN8A6NaA2N2AdN1mA5N
  7A6NA2NaA13N2ANAN5ANoANANjAN3A2N5ANA6NA2NaA2N4AwNAvNkAcN8AN10A4NjA4NgAN10A1vN1jANA2NfA6N26A2N12AN
  A5NA2N17AN99AN4A2N7ANAN4A2N15AN4A2NxAN4A2N7ANAN4A2NfAN1lAN4A2N1vAeNkA3NgAgN2eA2N6A3Nh8A2NhANqA5N
  23A3NbA7NkAbNlAcNkAcNdAN3AN2AcN1gA2NjAeNA4NA3NaA6NaAmNaA6N2hA7N17A5N1yAaNvANcA4N9AdN14A2N5AbN18A
  4NqA6NbA11NsA4N1rA2NkAbNaA6NaAdNAnN2AbN3A1dN1gANfAN8A3NaA12N16A2N1mANbAeN1jA9NaA3N1dA2NbA5N17A2N
  3A15N4AN6AN2A3NA5N5cAjNyAbN7qA2N6A2N12A2N6A2N8ANANANANvA2N1hAN7ANA3N3AN7A3N4A2N6A4NdA5N3AN7A37N2A
  2N6A5NbA6NdA2tNA4NA2NaANA3N5A6NANANAN4ANbA2N4A5N5A4NAN1mAk6N1oAqN22AhiNuAvgN6dA6N4A3N2A9NA2N12ANA
  5NA2N1kA7NAgNnA9N7AN7AN7AN7AN7AN7AN7AN7ANwA1bNAd1N3ApN9A7N5A2N5A4N2eA6N3AN2iAN4A5N17AN2mA3N4AaNwA
  1cNgAwNaAuN8ANfAwNaA13NfA8wN534A1sNh3hA1vN1aA2N7hA3NsAkN1bA5N8A3N35A13N9A2N2vA2N2aAkNlANxA8N6AaN
  1gAcN1wANAaNaAoN6A3NAN1aA5NzAdNtA3N1fANcAfNbA6NvAN1jA9NeA2NaA6NnA3N1xANANAoN3A2NgA2N4AbN6A2N6A2N
  6A9N7AN7AN17ANeA6N3fA5NaA6N8mcAcNnA4N1dA6isNa6A2N2yA12N7AcN5A5NcANdAN5ANAN2AN2AN30AxNa3AiN1sA2N
  1iA14NcA38N5AN3rAjNaA7NqA6NqAbN2hA3N6A2N6A2N6A2N3AzNcANqANjAN2ANfA2NeAyN3fAcN19AcN1lAhN2A6sNtA3N
  1dAgNrA4N10A9NuA5N17A5NuA2N10A4N8AN5A16N4eA2NaA6N10A4N10A4N14A8N1gAcNbANfAN7AN2ANbANfAN7AN2A3N1gA
  cN8nA9NmAaN8AoN6AN16AN9A1xN6A2NAN18AN2A3NA2NnA2NvA2N12A8N9A1cNjAN2A5NxA4NqA6NqA12N1kA4NkA2N1eAN2A
  5N8AN3ANtAaN9AnNvANwAwN8ANsA6N5AgN1iAaNmA2NrA5NqAnN7A28N21A1jN1fAdN1fA7N1aA8NaA6N12A3NA5NnA62NvAN
  16AN2A3N2AgN6A1eN3A3N14A8NmAbN4ArNiA1aNsAkNnA9N1yAcNuAN5AaN1lA9NAdNpA7NaA6N1fA3NaA4N4A8NzA3NA9N
  1sAN4A9NdANA4NkAbNiANyA2NA6N4A1qN7ANAN4ANfANaA7N1lA7NaA6N4AN8A2N2A2NmAN7AN2AN5A3N8A2N2A2N2A3NA6NA
  5N7AsNaANA2NAN12ANaANA2NAN4AN2A3NANA18N1uAN3AN4A5NaA5N3AuN1uA2N2ANA8NaA4mN1iA2N7ApN6AyN1rANA3NAbN
  aA12N1iA2NA7NaA6NkAsNrA2NeA5NcA4N7A55N1lA2vN2bAcN8A2NA2N8AN2ANuAN2A2N2A2N4AdNaA1yN8A2N1aA2N6ANAN
  2ArN1fA2NaAhN20A5NAiN21A2vN8A2gNxAfNaA6N9AN19AN7ANAfNtA5NuA2NmANeA21N7AN2AN18A3NAN2AN3ANA2N2A8NaA
  6N6AN2AN11AN2AN4ANA7NaA6N18A4NaA6uNnA9NhAN15A3N3AfNaA2eNAfNlA17NpmA2uN33AhN5gA218N2pAfNtsAhN6ApN
  32zA5Ng7A5a1N1bANaA1c6NftA7NvANaA6N27ANaA6NuAiN1cAgN4AcNaAN7ANlA5NjAc0N19A3NaA5iN2fA9NpA2NpA18N
  23A4N1lA7NhA1sN2ANAcN7A9N5p2A15NwA2pN37A6ppN4AN7AN2AN83AfNAtN3A2NAeN4A8Nb0A1s4N2zA5NdA3N9A7NaA4NA
  381NaA152NkAcNkA30NpA3rN2dAN1zAN2A2NA2N2A2N4ANcANAN7AN1tAN4A2N8AN7ANsAN4AN5ANA3N7AN9gA2NpANpANvAN
  pANvANpANvANpANvANpAN8A2N1eA1dsNvA6N6A5xN7ANhA2N7AN2AN5A5N1qAxNA34N19AaN7A2NaA4NA8xNuAiN18A4NaA
  d2NsA4NaA5yNuA2NbA5hNvANmA8N2A68N7AN4AN2ANfAN5hA2N9A1cN1wA3NA3NA4NaAlzN1nAN3AN4A24N19ANfA5eN4ANrA
  N2ANA2NANaAN4ANANA6NA4NANANAN3AN2ANA2NANANANANAN2ANA2N4AN7AN4AN4ANANaANhA5N3AN5ANhAg4NdAzNqA6NqA
  6NqA21yNaAsmNwyoAwN3dqA2N4geA2N5rlAfNhaA1wiNf2A15uN3t7A5N6juA"

def alphanumericTable : RunTable Bool := .ofClass 'A' alphanumericRuns

def isAlphanumeric (c : Char) : Bool :=
  if c.toNat < 0x80 then c.isAlphanum else alphanumericTable.getD c.toNat false

end Devnet.Text
