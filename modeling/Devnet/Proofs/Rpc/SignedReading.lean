import Devnet.Proofs.Rpc.RlpReading
import Devnet.Rpc.SignedTransfer
import Mathlib.Tactic.Ring

namespace Devnet

namespace Curve

theorem foldl_bigEndian (n : Nat) (bs : List UInt8) :
    bs.foldl (fun v b => 256 * v + b.toNat) n = n * 256 ^ bs.length + ofBigEndian bs := by
  induction bs generalizing n with
  | nil => simp [ofBigEndian]
  | cons b bs ih =>
    rw [ofBigEndian, List.foldl_cons, List.foldl_cons, ih, ih, List.length_cons, Nat.pow_succ]
    ring

theorem bigEndian_succ (width v : Nat) :
    bigEndian (width + 1) v = UInt8.ofNat (v >>> (8 * width)) :: bigEndian width v := by
  simp [bigEndian, List.range_succ]

theorem length_bigEndian (width v : Nat) : (bigEndian width v).length = width := by
  simp [bigEndian]

/-- A number is read from as many of its bytes as there are. -/
theorem ofBigEndian_bigEndian (width v : Nat) :
    ofBigEndian (bigEndian width v) = v % 256 ^ width := by
  induction width with
  | zero => simp [bigEndian, ofBigEndian, Nat.mod_one]
  | succ width ih =>
    have hshift : v >>> (8 * width) = v / 256 ^ width := by
      rw [Nat.shiftRight_eq_div_pow, Nat.pow_mul]
    have hsplit : v % (256 ^ width * 256) =
        v % 256 ^ width + 256 ^ width * (v / 256 ^ width % 256) := Nat.mod_mul
    rw [bigEndian_succ, ofBigEndian, List.foldl_cons, foldl_bigEndian, ih, length_bigEndian,
      UInt8.toNat_ofNat', hshift, Nat.pow_succ 256, hsplit]
    ring

/-- Both parts of a signature fit 32 bytes. -/
theorem lt_of_signWith {secret digest k : Nat} {sig : Signature}
    (h : signWith? secret digest k = some sig) : sig.r < 256 ^ 32 ∧ sig.s < 256 ^ 32 := by
  have hn : n < 256 ^ 32 := by decide
  have hpos : 0 < n := by decide
  have hr : (publicPoint k).1 % n < n := Nat.mod_lt _ hpos
  unfold signWith? at h
  dsimp only at h
  split at h
  · cases h
  · split at h
    · obtain rfl := Option.some.inj h
      exact ⟨hr.trans hn, Nat.lt_of_le_of_lt (Nat.sub_le _ _) hn⟩
    · obtain rfl := Option.some.inj h
      exact ⟨hr.trans hn, (Nat.mod_lt _ hpos).trans hn⟩

/-- No one-time number is found for a signature, or it makes one of the parts zero. -/
def Unsignable (secret digest : Nat) : Prop :=
  ∀ k, (Stream.start (bigEndian 32 secret ++ bigEndian 32 (digest % n))).draw? tries = some k →
    (publicPoint k).1 % n = 0 ∨
      inverse n k * ((digest % n + (publicPoint k).1 % n * secret) % n) % n = 0

theorem unsignable_of_sign {secret digest : Nat} (h : sign? secret digest = none) :
    Unsignable secret digest := by
  intro k hk
  have hsign : signWith? secret (digest % n) k = none := Option.bind_eq_none_iff.mp h k hk
  by_contra hparts
  unfold signWith? at hsign
  dsimp only at hsign
  rw [if_neg hparts] at hsign
  split at hsign <;> cases hsign

theorem lt_of_sign {secret digest : Nat} {sig : Signature} (h : sign? secret digest = some sig) :
    sig.r < 256 ^ 32 ∧ sig.s < 256 ^ 32 := by
  obtain ⟨k, -, hsig⟩ := Option.bind_eq_some_iff.mp h
  exact lt_of_signWith hsig

end Curve

theorem Address.ofBytes_bytes (a : Address) : ofBytes a.bytes = a := by
  have hbytes : a.bytes.foldl (fun n b => 256 * n + b.toNat) 0 = a.bits.toNat :=
    (Curve.ofBigEndian_bigEndian 20 a.bits.toNat).trans (Nat.mod_eq_of_lt a.bits.isLt)
  rw [ofBytes, hbytes, BitVec.ofNat_toNat, BitVec.setWidth_eq]

namespace Rpc

/-- A transaction of the kind without a type, as its nine items tell it. -/
structure LegacyTransaction where
  nonce : Nat
  gasPrice : Nat
  gas : Nat
  target : Address
  value : Nat
  data : List UInt8
  v : Nat
  r : Nat
  s : Nat

namespace LegacyTransaction

def address? (bs : List UInt8) : Option Address :=
  if bs.length = 20 then some (.ofBytes bs) else none

def ofItem? : Rlp.Item → Option LegacyTransaction
  | .list [.bytes nonce, .bytes gasPrice, .bytes gas, .bytes target, .bytes value, .bytes data,
      .bytes v, .bytes r, .bytes s] => do
    return ⟨← Rlp.number? nonce, ← Rlp.number? gasPrice, ← Rlp.number? gas, ← address? target,
      ← Rlp.number? value, data, ← Rlp.number? v, ← Rlp.number? r, ← Rlp.number? s⟩
  | _ => none

/-- Reads the bytes of one transaction to an account and nothing else. -/
def decode? (bs : List UInt8) : Option LegacyTransaction := Rlp.decode? bs >>= ofItem?

theorem address_bytes (a : Address) : address? a.bytes = some a := by
  have hlength : a.bytes.length = 20 := Curve.length_bigEndian 20 a.bits.toNat
  rw [address?, if_pos hlength, a.ofBytes_bytes]

end LegacyTransaction

namespace FilledTransfer

/-- The mark of a chain whose id leaves room for it. -/
theorem toNat_mark (odd : Bool) {chainId : UInt64} (h : chainId.toNat < 2 ^ 63 - 18) :
    (mark odd chainId).toNat = 35 + odd.toNat + 2 * chainId.toNat := by
  have htwice : (chainId * 2).toNat = 2 * chainId.toNat := by
    rw [UInt64.toNat_mul]
    change chainId.toNat * 2 % 2 ^ 64 = _
    omega
  cases odd with
  | false =>
    change (0 + 35 + chainId * 2).toNat = 35 + 0 + 2 * chainId.toNat
    rw [UInt64.toNat_add, htwice]
    change (35 + 2 * chainId.toNat) % 2 ^ 64 = _
    omega
  | true =>
    change (1 + 35 + chainId * 2).toNat = 35 + 1 + 2 * chainId.toNat
    rw [UInt64.toNat_add, htwice]
    change (36 + 2 * chainId.toNat) % 2 ^ 64 = _
    omega

theorem decode_signedBytes (t : FilledTransfer) (chainId : UInt64) {sig : Curve.Signature}
    (hr : sig.r < 256 ^ 32) (hs : sig.s < 256 ^ 32) :
    LegacyTransaction.decode? (t.signedBytes chainId sig) =
      some ⟨t.nonce.toNat, t.gasPrice.toNat, t.gas.toNat, t.intent.target, t.intent.value.toNat, [],
        (mark sig.odd chainId).toNat, sig.r, sig.s⟩ := by
  have hnumber {n : Nat} (h : n < 256 ^ 32) : (Rlp.minimalBytes n).length < 56 :=
    Nat.lt_of_le_of_lt (Rlp.length_minimalBytes_le h) (by decide)
  have hpow : 2 ^ 256 = 256 ^ 32 := by decide
  have hword (n : Word256) : (Rlp.minimalBytes n.toNat).length < 56 :=
    hnumber (hpow ▸ n.isLt)
  have hmark : (Rlp.minimalBytes (mark sig.odd chainId).toNat).length < 56 :=
    hnumber ((mark sig.odd chainId).toNat_lt.trans (by decide))
  have htarget : t.intent.target.bytes.length < 56 := by
    rw [show t.intent.target.bytes.length = 20 from
      Curve.length_bigEndian 20 t.intent.target.bits.toNat]
    decide
  have hdecode := @Rlp.decode_encodeList_of_short (t.fields ++
    [Rlp.minimalBytes (mark sig.odd chainId).toNat, Rlp.minimalBytes sig.r,
      Rlp.minimalBytes sig.s]) (by simp [fields, hword, hmark, hnumber hr, hnumber hs, htarget])
    (by simp [fields])
  rw [LegacyTransaction.decode?, signedBytes, hdecode]
  simp [fields, LegacyTransaction.ofItem?, Rlp.number_minimalBytes,
    LegacyTransaction.address_bytes]

/-- The number that is signed for a transfer on a chain. -/
def digest (t : FilledTransfer) (chainId : UInt64) : Nat :=
  Curve.ofBigEndian (Hash.Keccak.hash (t.unsignedBytes chainId))

theorem unsignable_of_sign {t : FilledTransfer} {chainId : UInt64} {key : PrivateKey}
    (h : t.sign? chainId key = none) : Curve.Unsignable key.secret (t.digest chainId) :=
  Curve.unsignable_of_sign (Option.map_eq_none_iff.mp h)

/-- What is signed is the transfer, with a mark that tells the chain if there is room for it. -/
theorem decode_signed (t : FilledTransfer) {chainId : UInt64} {key : PrivateKey}
    {bytes : List UInt8} (h : t.sign? chainId key = some bytes) :
    ∃ v r s, LegacyTransaction.decode? bytes =
        some ⟨t.nonce.toNat, t.gasPrice.toNat, t.gas.toNat, t.intent.target, t.intent.value.toNat,
          [], v, r, s⟩ ∧
      (chainId.toNat < 2 ^ 63 - 18 → v = 35 + 2 * chainId.toNat ∨ v = 36 + 2 * chainId.toNat) := by
  obtain ⟨sig, hsig, rfl⟩ := Option.map_eq_some_iff.mp h
  obtain ⟨hr, hs⟩ := Curve.lt_of_sign hsig
  refine ⟨_, _, _, t.decode_signedBytes chainId hr hs, fun hchain => ?_⟩
  rw [toNat_mark sig.odd hchain]
  cases sig.odd with
  | false => exact .inl rfl
  | true => exact .inr rfl

end FilledTransfer

end Rpc

end Devnet
