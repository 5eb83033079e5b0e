import Devnet.Config.Target
import Devnet.Proofs.Rpc.QuantityReading
import Mathlib.Data.List.Induction

namespace Devnet

namespace Text

theorem hexValue_toLower (c : Char) : hexValue? c.toLower = hexValue? c := by
  by_cases hc : c.toNat < 128
  · apply forall_ascii (P := fun c => hexValue? c.toLower = hexValue? c) _ hc
    decide
  · have hupper : ¬ (c.val ≥ 'A'.val ∧ c.val ≤ 'Z'.val) := by
      rintro ⟨-, hle⟩
      have hz : c.toNat ≤ 'Z'.toNat := hle
      exact hc (Nat.lt_of_le_of_lt hz (by decide))
    have hsame : c.toLower = c := dif_neg hupper
    rw [hsame]

/-- In lower case a digit is the one that is written for its value. -/
theorem toLower_of_hexValue {c : Char} {d : Nat} (h : hexValue? c = some d) :
    d < 16 ∧ c.toLower = Nat.digitChar d := by
  apply forall_digit (P := fun c d => d < 16 ∧ c.toLower = Nat.digitChar d) _ h
  decide

/-- A digit is neither white space nor a filler. -/
theorem solid_of_hexValue {c : Char} {d : Nat} (h : hexValue? c = some d) :
    isBlank c = false ∧ Address.isFiller c = false := by
  apply forall_digit (P := fun c _ => isBlank c = false ∧ Address.isFiller c = false) _ h
  decide

theorem mapM_hexValue_toLower (cs : List Char) :
    (cs.map Char.toLower).mapM hexValue? = cs.mapM hexValue? := by
  rw [List.mapM_map]
  congr 1
  funext c
  exact hexValue_toLower c

theorem SpellsHex.map_toLower {cs : List Char} {ds : List Nat} (h : SpellsHex cs ds) :
    (∀ d ∈ ds, d < 16) ∧ cs.map Char.toLower = ds.map Nat.digitChar := by
  induction cs generalizing ds with
  | nil =>
    cases h
    exact ⟨by simp, rfl⟩
  | cons c cs ih =>
    obtain ⟨d, ds, hc, hcs, rfl⟩ := h.cons
    obtain ⟨hd, hlower⟩ := toLower_of_hexValue hc
    obtain ⟨hds, hrest⟩ := ih hcs
    refine ⟨List.forall_mem_cons.mpr ⟨hd, hds⟩, ?_⟩
    rw [List.map_cons, List.map_cons, hlower, hrest]

/-- Digits are written for the number that they are read as, and it has no more of them. -/
theorem hexFixed_ofHexDigits {ds : List Nat} (h : ∀ d ∈ ds, d < 16) :
    hexFixed ds.length (ofHexDigits ds) = ds.map Nat.digitChar ∧
      ofHexDigits ds < 16 ^ ds.length := by
  induction ds using List.reverseRecOn with
  | nil => exact ⟨rfl, by decide⟩
  | append_singleton ds d ih =>
    obtain ⟨hds, hd⟩ := List.forall_mem_append.mp h
    obtain ⟨hwritten, hlt⟩ := ih hds
    have hdigit : d < 16 := hd d (List.mem_singleton.mpr rfl)
    have hvalue := ofHexDigits_append_singleton ds d
    have hhigh : (16 * ofHexDigits ds + d) / 16 = ofHexDigits ds := by omega
    have hlow : (16 * ofHexDigits ds + d) % 16 = d := by omega
    constructor
    · rw [List.length_append, List.length_singleton, hexFixed, hvalue, hhigh, hlow, hwritten,
        List.map_append]
      rfl
    · rw [List.length_append, List.length_singleton, hvalue, Nat.pow_succ]
      omega

theorem SpellsHex.solid {cs : List Char} {ds : List Nat} (h : SpellsHex cs ds) :
    ∀ c ∈ cs, isBlank c = false ∧ Address.isFiller c = false := by
  induction cs generalizing ds with
  | nil => simp
  | cons c cs ih =>
    obtain ⟨d, ds, hc, hcs, rfl⟩ := h.cons
    exact List.forall_mem_cons.mpr ⟨solid_of_hexValue hc, ih hcs⟩

private theorem toLower_digitChar_fin :
    ∀ d : Fin 16, (Nat.digitChar d.val).toLower = Nat.digitChar d.val ∧
      (Nat.digitChar d.val).toUpper.toLower = Nat.digitChar d.val := by
  decide

/-- The written digits are in lower case, also after a capital was made of one. -/
theorem toLower_of_mem_hexFixed {w n : Nat} :
    ∀ c ∈ hexFixed w n, c.toLower = c ∧ c.toUpper.toLower = c := by
  induction w generalizing n with
  | zero => simp [hexFixed]
  | succ w ih =>
    rw [hexFixed]
    refine List.forall_mem_append.mpr ⟨ih, fun c hc => ?_⟩
    rw [List.mem_singleton.mp hc]
    exact toLower_digitChar_fin ⟨n % 16, Nat.mod_lt n (by decide)⟩

end Text

namespace Address

open Text (OptionalMark SpellsHex)

/-- The digits of the address, each letter in either case. -/
def Cased (a : Address) (cs : List Char) : Prop := cs.map Char.toLower = a.digits

instance (a : Address) (cs : List Char) : Decidable (a.Cased cs) :=
  inferInstanceAs (Decidable (_ = _))

/-- A text of the address: within the white space around it an optional mark and the digits in
either case, with nothing between and behind them but fillers. -/
inductive SpelledBy (a : Address) : List Char → Prop where
  | spelled {lead mark body trail : List Char} (lead_blank : ∀ c ∈ lead, Text.isBlank c = true)
      (trail_blank : ∀ c ∈ trail, Text.isBlank c = true)
      (head : ∀ c ∈ (mark ++ body).head?, Text.isBlank c = false)
      (last : ∀ c ∈ (mark ++ body).getLast?, Text.isBlank c = false)
      (mark_optional : OptionalMark mark) (digits : a.Cased (body.filter (!isFiller ·))) :
      SpelledBy a (lead ++ (mark ++ body) ++ trail)

/-- In either case, the digits of an address are the forty whose number it is. -/
theorem cased_iff {a : Address} {cs : List Char} :
    a.Cased cs ↔ ∃ ds, SpellsHex cs ds ∧ ds.length = 40 ∧
      a = ⟨BitVec.ofNat 160 (Text.ofHexDigits ds)⟩ := by
  constructor
  · -- the case of a digit does not change its value, so the written digits can be read instead
    intro h
    obtain ⟨ds, hds, hvalue⟩ := Text.hexValue_hexFixed 40 a.bits.toNat
    have hbound : a.bits.toNat < Nat.pow 16 40 := a.bits.isLt
    have hspells : SpellsHex cs ds := by
      rw [SpellsHex, ← Text.mapM_hexValue_toLower, h]
      exact hds
    have hlength : cs.length = 40 := by
      rw [← List.length_map (f := Char.toLower), h]
      exact Text.hexFixed_length 40 _
    refine ⟨ds, hspells, hspells.length_eq.trans hlength, ?_⟩
    rw [hvalue, Nat.mod_eq_of_lt hbound, BitVec.ofNat_toNat]
    rfl
  · rintro ⟨ds, hspells, hlength, rfl⟩
    obtain ⟨hsmall, hlower⟩ := hspells.map_toLower
    obtain ⟨hwritten, hlt⟩ := Text.hexFixed_ofHexDigits hsmall
    rw [hlength] at hwritten hlt
    have hvalue : (BitVec.ofNat 160 (Text.ofHexDigits ds)).toNat = Text.ofHexDigits ds :=
      Nat.mod_eq_of_lt hlt
    rw [Cased, hlower, digits, hvalue, hwritten]

theorem ofChars_eq_some_iff {cs : List Char} {a : Address} :
    ofChars? cs = some a ↔ a.Cased ((dropMark cs).filter (!isFiller ·)) := by
  rw [cased_iff, ofChars?]
  unfold SpellsHex
  cases ((dropMark cs).filter (!isFiller ·)).mapM Text.hexValue? with
  | none => simp
  | some ds => simp [eq_comm]

theorem dropMark_split (cs : List Char) : ∃ mark, OptionalMark mark ∧ cs = mark ++ dropMark cs := by
  unfold dropMark
  split
  · exact ⟨['0', 'x'], .inr rfl, rfl⟩
  · exact ⟨[], .inl rfl, rfl⟩

/-- Nothing that begins with a mark is digits and fillers only. -/
theorem dropMark_of_cased {a : Address} {cs : List Char} (h : a.Cased (cs.filter (!isFiller ·))) :
    dropMark cs = cs := by
  unfold dropMark
  split
  · obtain ⟨ds, hspells, -⟩ := cased_iff.mp h
    obtain ⟨_, _, -, htail, -⟩ := hspells.cons
    obtain ⟨_, _, hx, -⟩ := htail.cons
    cases hx
  · rfl

theorem dropMark_append {a : Address} {mark body : List Char} (hmark : OptionalMark mark)
    (h : a.Cased (body.filter (!isFiller ·))) : dropMark (mark ++ body) = body := by
  obtain rfl | rfl := hmark
  · exact dropMark_of_cased h
  · rfl

theorem parse?_eq_some_iff {raw : String} {a : Address} :
    parse? raw = some a ↔ a.SpelledBy raw.toList := by
  rw [parse?, ofChars_eq_some_iff]
  constructor
  · intro h
    obtain ⟨lead, trail, hraw, hlead, htrail, hhead, hlast⟩ := Text.trim_split raw.toList
    obtain ⟨mark, hmark, hcore⟩ := dropMark_split (Text.trim raw.toList)
    rw [hcore] at hraw hhead hlast
    rw [hraw]
    exact .spelled hlead htrail hhead hlast hmark h
  · intro h
    generalize raw.toList = cs at h
    cases h with
    | spelled hlead htrail hhead hlast hmark hdigits =>
      rw [Text.trim_surrounded hlead htrail hhead hlast, dropMark_append hmark hdigits]
      exact hdigits

theorem parse_eq_ok_iff {raw : String} {a : Address} :
    parse raw = .ok a ↔ a.SpelledBy raw.toList := by
  rw [← parse?_eq_some_iff, parse]
  cases parse? raw <;> simp

/-- What spells no address is refused as it was given. -/
theorem parse_eq_error_iff {raw : String} {e : CheckError} :
    parse raw = .error e ↔ e = .invalidAddress raw ∧ ∀ a : Address, ¬ a.SpelledBy raw.toList := by
  simp only [← parse?_eq_some_iff, parse]
  cases parse? raw <;> simp [eq_comm]

/-- The digits alone, with white space around them and a mark or without. -/
theorem Cased.spelledBy {a : Address} {lead mark cs trail : List Char} (h : a.Cased cs)
    (hmark : OptionalMark mark) (hlead : ∀ c ∈ lead, Text.isBlank c = true)
    (htrail : ∀ c ∈ trail, Text.isBlank c = true) :
    a.SpelledBy (lead ++ (mark ++ cs) ++ trail) := by
  obtain ⟨ds, hspells, -⟩ := cased_iff.mp h
  have hsolid : ∀ c ∈ mark ++ cs, Text.isBlank c = false := by
    refine List.forall_mem_append.mpr ⟨?_, fun c hc => (hspells.solid c hc).1⟩
    obtain rfl | rfl := hmark
    · exact fun c hc => absurd hc List.not_mem_nil
    · simp only [List.forall_mem_cons]
      exact ⟨by decide, by decide, fun c hc => absurd hc List.not_mem_nil⟩
  have hfilter : cs.filter (!isFiller ·) = cs := by
    rw [List.filter_eq_self]
    intro c hc
    rw [(hspells.solid c hc).2]
    rfl
  have hdigits : a.Cased (cs.filter (!isFiller ·)) := by rwa [hfilter]
  exact .spelled hlead htrail (fun c hc => hsolid c (List.mem_of_mem_head? hc))
    (fun c hc => hsolid c (List.mem_of_mem_getLast? hc)) hmark hdigits

theorem cased_digits (a : Address) : a.Cased a.digits := by
  rw [Cased]
  conv_rhs => rw [← List.map_id a.digits]
  exact List.map_congr_left fun c hc => (Text.toLower_of_mem_hexFixed c hc).1

theorem length_hash (message : List UInt8) : (Hash.Keccak.hash message).length = 32 := by
  have hlane (v : UInt64) : (Hash.Keccak.littleEndianBytes v).length = 8 := by
    rw [Hash.Keccak.littleEndianBytes, List.length_map, List.length_range]
  simp only [Hash.Keccak.hash, List.length_flatMap, hlane]
  decide

theorem length_halves (bs : List UInt8) : (halves bs).length = 2 * bs.length := by
  induction bs with
  | nil => rfl
  | cons b bs ih =>
    rw [halves, List.flatMap_cons, List.length_append, ← halves, ih, List.length_cons]
    simp only [List.length_cons, List.length_nil]
    omega

/-- Whatever letters become capitals, in lower case the digits are the same. -/
theorem map_toLower_zipWith {cs : List Char} {hs : List Nat} (h : cs.length ≤ hs.length)
    (hcs : ∀ c ∈ cs, c.toLower = c ∧ c.toUpper.toLower = c) :
    (List.zipWith (fun c h => if 8 ≤ h then c.toUpper else c) cs hs).map Char.toLower = cs := by
  induction cs generalizing hs with
  | nil => rfl
  | cons c cs ih =>
    cases hs with
    | nil => simp at h
    | cons n hs =>
      obtain ⟨⟨hlower, hupper⟩, hrest⟩ := List.forall_mem_cons.mp hcs
      have hc : (if 8 ≤ n then c.toUpper else c).toLower = c := by
        split
        · exact hupper
        · exact hlower
      rw [List.zipWith_cons_cons, List.map_cons, hc, ih (Nat.le_of_succ_le_succ h) hrest]

theorem cased_checksumDigits (a : Address) : a.Cased a.checksumDigits := by
  have hdigits : a.digits.length = 40 := Text.hexFixed_length 40 _
  refine map_toLower_zipWith ?_ Text.toLower_of_mem_hexFixed
  rw [hdigits, length_halves, length_hash]
  decide

end Address

/-- An account is shown with its role and the digits of its address, some of them capitals. -/
theorem Account.text_eq (account : Account) :
    account.text =
      account.role.name ++ " (0x" ++ String.ofList account.address.checksumDigits ++ ")" := by
  apply String.toList_inj.mp
  simp [Account.text, Address.checksumText, toString]

namespace Fixture

theorem parse_eq_ok_iff {whale user : String} {f : Fixture} :
    parse whale user = .ok f ↔
      f.whale.SpelledBy whale.toList ∧ f.user.SpelledBy user.toList := by
  rw [← Address.parse_eq_ok_iff, ← Address.parse_eq_ok_iff, parse, bind_eq_ok_iff]
  constructor
  · rintro ⟨w, hw, h⟩
    obtain ⟨u, hu, h⟩ := bind_eq_ok_iff.mp h
    cases h
    exact ⟨hw, hu⟩
  · rintro ⟨hw, hu⟩
    exact ⟨f.whale, hw, bind_eq_ok_iff.mpr ⟨f.user, hu, rfl⟩⟩

/-- The whale's text is complained about, and the user's only if the whale's is an address. -/
theorem parse_eq_error_iff {whale user : String} {e : CheckError} :
    parse whale user = .error e ↔
      (e = .invalidAddress whale ∧ ∀ a : Address, ¬ a.SpelledBy whale.toList) ∨
      (∃ a : Address, a.SpelledBy whale.toList) ∧ e = .invalidAddress user ∧
        ∀ a : Address, ¬ a.SpelledBy user.toList := by
  rw [← Address.parse_eq_error_iff, ← Address.parse_eq_error_iff]
  simp only [← Address.parse_eq_ok_iff, parse]
  cases Address.parse whale with
  | error d => simp [bind, Except.bind]
  | ok w => cases Address.parse user <;> simp [bind, Except.bind, pure, Except.pure]

end Fixture

/-- For every address the digits in any case are read back, with or without a mark and with any
white space around them, and the digits of the shown text are among these; what is read as an
address spells it, and what spells none is refused as it was given, the whale's text before the
user's. -/
theorem Address.parse_spellings :
    (∀ (a : Address) (lead mark cs trail : List Char), a.Cased cs → Text.OptionalMark mark →
      (∀ c ∈ lead, Text.isBlank c = true) → (∀ c ∈ trail, Text.isBlank c = true) →
      parse (String.ofList (lead ++ (mark ++ cs) ++ trail)) = .ok a) ∧
    (∀ a : Address, a.Cased a.digits ∧ a.Cased a.checksumDigits) ∧
    (∀ account : Account, account.text =
      account.role.name ++ " (0x" ++ String.ofList account.address.checksumDigits ++ ")") ∧
    (∀ (raw : String) (a : Address), parse raw = .ok a ↔ a.SpelledBy raw.toList) ∧
    (∀ (raw : String) (e : CheckError), parse raw = .error e ↔
      e = .invalidAddress raw ∧ ∀ a : Address, ¬ a.SpelledBy raw.toList) ∧
    (∀ (whale user : String) (f : Fixture), Fixture.parse whale user = .ok f ↔
      f.whale.SpelledBy whale.toList ∧ f.user.SpelledBy user.toList) ∧
    ∀ (whale user : String) (e : CheckError), Fixture.parse whale user = .error e ↔
      (e = .invalidAddress whale ∧ ∀ a : Address, ¬ a.SpelledBy whale.toList) ∨
      (∃ a : Address, a.SpelledBy whale.toList) ∧ e = .invalidAddress user ∧
        ∀ a : Address, ¬ a.SpelledBy user.toList := by
  refine ⟨fun a lead mark cs trail hcased hmark hlead htrail => ?_, fun a => ?_, Account.text_eq,
    fun _ _ => parse_eq_ok_iff, fun _ _ => parse_eq_error_iff,
    fun _ _ _ => Fixture.parse_eq_ok_iff, fun _ _ _ => Fixture.parse_eq_error_iff⟩
  · rw [parse_eq_ok_iff, String.toList_ofList]
    exact hcased.spelledBy hmark hlead htrail
  · exact ⟨a.cased_digits, a.cased_checksumDigits⟩

/-- The digits of the whale's address in capitals, with a mark and white space that is no filler. -/
theorem Address.parse_capitals :
    (⟨0x03db6b11f47d074a532b9eb8a98ab7ada5845087⟩ : Address).Cased
      "03DB6B11F47D074A532B9EB8A98AB7ADA5845087".toList ∧
    Text.OptionalMark ['0', 'x'] ∧ Text.isBlank '\u3000' = true ∧ Text.isBlank '\u0085' = true ∧
    parse (String.ofList (['\u3000'] ++
        (['0', 'x'] ++ "03DB6B11F47D074A532B9EB8A98AB7ADA5845087".toList) ++ ['\u0085'])) =
      .ok ⟨0x03db6b11f47d074a532b9eb8a98ab7ada5845087⟩ := by
  have hcased : (⟨0x03db6b11f47d074a532b9eb8a98ab7ada5845087⟩ : Address).Cased
      "03DB6B11F47D074A532B9EB8A98AB7ADA5845087".toList := by
    decide +kernel
  have hmark : Text.OptionalMark ['0', 'x'] := .inr rfl
  have hlead : Text.isBlank '\u3000' = true := by decide
  have htrail : Text.isBlank '\u0085' = true := by decide
  refine ⟨hcased, hmark, hlead, htrail, ?_⟩
  exact Address.parse_spellings.1 _ ['\u3000'] ['0', 'x'] _ ['\u0085'] hcased hmark
    (by simpa using hlead) (by simpa using htrail)

end Devnet
