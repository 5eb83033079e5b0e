import Devnet.Account.Keyring
import Devnet.Transfer

namespace Devnet.Rlp

/-- The bytes of a number without leading zeros, none for zero. -/
def minimalBytes (n : Nat) : List UInt8 :=
  if h : n = 0 then []
  else
    have : n / 256 < n := Nat.div_lt_self (Nat.pos_of_ne_zero h) (by decide)
    minimalBytes (n / 256) ++ [UInt8.ofNat n]
termination_by n

/-- A length, marked from `base` on; a long one is written with its own length in front. -/
def header (base length : Nat) : List UInt8 :=
  if length < 56 then [UInt8.ofNat (base + length)]
  else
    let bytes := minimalBytes length
    UInt8.ofNat (base + 55 + bytes.length) :: bytes

def encodeBytes (bs : List UInt8) : List UInt8 :=
  match bs with
  | [b] => if b < 0x80 then [b] else header 0x80 1 ++ [b]
  | bs => header 0x80 bs.length ++ bs

def encodeList (strings : List (List UInt8)) : List UInt8 :=
  let body := strings.flatMap encodeBytes
  header 0xC0 body.length ++ body

end Devnet.Rlp

namespace Devnet.Rpc

structure FilledTransfer where
  intent : TransferIntent
  nonce : Word256
  gasPrice : Word256
  gas : Word256

namespace FilledTransfer

/-- The fields up to the data, which is empty. -/
def fields (t : FilledTransfer) : List (List UInt8) :=
  [Rlp.minimalBytes t.nonce.toNat, Rlp.minimalBytes t.gasPrice.toNat,
    Rlp.minimalBytes t.gas.toNat, t.intent.target.bytes, Rlp.minimalBytes t.intent.value.toNat, []]

/-- What is hashed for a signature binds the chain. -/
def unsignedBytes (t : FilledTransfer) (chainId : UInt64) : List UInt8 :=
  Rlp.encodeList (t.fields ++ [Rlp.minimalBytes chainId.toNat, [], []])

/-- The mark of a signature: the parity of its point and twice the chain id. -/
def mark (odd : Bool) (chainId : UInt64) : UInt64 := (if odd then 1 else 0) + 35 + chainId * 2

def signedBytes (t : FilledTransfer) (chainId : UInt64) (s : Curve.Signature) : List UInt8 :=
  Rlp.encodeList (t.fields ++ [Rlp.minimalBytes (mark s.odd chainId).toNat,
    Rlp.minimalBytes s.r, Rlp.minimalBytes s.s])

def sign? (t : FilledTransfer) (chainId : UInt64) (key : PrivateKey) : Option (List UInt8) :=
  let digest := Curve.ofBigEndian (Hash.Keccak.hash (t.unsignedBytes chainId))
  (Curve.sign? key.secret digest).map (t.signedBytes chainId)

end FilledTransfer

end Devnet.Rpc
