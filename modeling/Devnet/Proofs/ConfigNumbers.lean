import Devnet.Proofs.ConfigOrder
import Devnet.Proofs.ConfigResolution
import Devnet.Proofs.Json.Placed
import Devnet.Proofs.Json.PlainNumber
import Devnet.Proofs.Json.Reading

namespace Devnet

open Json (Complaint Continues Doc FieldReader Items Members ReadsAt RowSame SeesValue Spells
  Written)

namespace AccountSource

theorem readMembers_same {depth : Nat} {members members' : Members}
    {rows others : List (String × Doc)} (lists : members.Lists rows)
    (lists' : members'.Lists others) (same : List.Forall₂ RowSame rows others)
    (tag : Option Kind) :
    (readMembers depth tag members).toOption = (readMembers depth tag members').toOption := by
  induction same generalizing members members' tag with
  | nil =>
    cases lists
    cases lists'
    cases tag <;> rfl
  | cons hrow _ ih =>
    obtain ⟨hname, hdoc⟩ := hrow
    cases lists with
    | @member key name _ _ lead after d named lists =>
      cases lists' with
      | member lead' after' e named' lists' =>
        obtain rfl := hname
        rw [readMembers, readMembers, named, named']
        change (if name = tagName then _ else _ : Except Complaint _).toOption =
          (if name = tagName then _ else _ : Except Complaint _).toOption
        by_cases htag : name = tagName
        · rw [if_pos htag, if_pos htag]
          cases tag with
          | some kind => rfl
          | none =>
            simp only [Option.isSome_none, Bool.false_eq_true, if_false, toOption_bind,
              Doc.readVariant_seesValue _ _ _ hdoc, ih lists lists']
        · rw [if_neg htag, if_neg htag]
          simp only [toOption_bind, Doc.read_seesValue depth _ _ hdoc, ih lists lists']

theorem readItems_same {depth : Nat} {items items' : Items} {ds es : List Doc}
    (lists : items.Lists ds) (lists' : items'.Lists es) (same : List.Forall₂ Doc.Same ds es) :
    (readItems depth items).toOption = (readItems depth items').toOption := by
  cases same with
  | nil =>
    cases lists
    cases lists'
    rfl
  | cons hde rest =>
    cases lists with
    | item lead d lists =>
      cases lists' with
      | item lead' e lists' =>
        simp only [readItems, toOption_bind, Doc.readVariant_seesValue _ _ _ hde,
          Items.read_same (Doc.read_seesValue depth) lists lists' rest]

theorem read_seesValue (depth : Nat) : SeesValue (AccountSource.read depth) := by
  intro d e h
  cases h.top with
  | array lists lists' same =>
    refine Doc.enter_ignores fun k => ?_
    simp only [toOption_bind, readItems_same lists lists' same]
  | object lists lists' same =>
    refine Doc.enter_ignores fun k => ?_
    simp only [toOption_bind, readMembers_same lists lists' same]
  | _ => rfl

end AccountSource

namespace NetworkEntry

theorem fields_seeValue : ∀ f ∈ shape.fields, ∀ depth s, SeesValue fun d => f.read depth d s := by
  intro f hf depth s
  simp only [shape, List.mem_cons, List.not_mem_nil, or_false] at hf
  rcases hf with rfl | rfl | rfl
  · exact Doc.readNatural_seesValue.map _
  · exact (Doc.readString_seesValue _).map _
  · exact (AccountSource.read_seesValue depth).map _

theorem read_seesValue (depth : Nat) : SeesValue (NetworkEntry.read depth) :=
  Json.RecordShape.read_seesValue fields_seeValue depth

theorem stores_chainId :
    shape.Stores chainIdField (fun _ d => d.readNatural) (fun n e => { e with chainId := some n })
      fun e n => e.chainId = n where
  sees := fields_seeValue
  names := by decide
  known := rfl
  read _ _ _ := rfl
  isSet _ _ := rfl
  again _ _ _ := rfl
  others g hg hne := by
    simp only [shape, List.mem_cons, List.not_mem_nil, or_false] at hg
    rcases hg with rfl | rfl | rfl <;>
      first
      | exact absurd rfl hne
      | exact FieldReader.keeps_of_set (fun _ _ _ => rfl) (fun _ _ _ => rfl) (fun _ _ => rfl)
  finish _ _ _ := rfl
  has b s a h := by
    cases h
    rfl

end NetworkEntry

theorem FixtureTexts.read_seesValue (depth : Nat) : SeesValue (FixtureTexts.read depth) := by
  refine Json.RecordShape.read_seesValue (fun f hf depth s => ?_) depth
  simp only [shape, List.mem_cons, List.not_mem_nil, or_false] at hf
  rcases hf with rfl | rfl <;> exact (Doc.readString_seesValue _).map _

namespace Config

theorem readNetworks_seesValue (depth : Nat) : SeesValue (readNetworks depth) := by
  intro d e h
  cases h.top with
  | object lists lists' same =>
    refine Doc.enter_ignores fun k => ?_
    rw [lists.readTable, lists'.readTable,
      Json.foldl_enterRow_same (NetworkEntry.read_seesValue k) same]
  | _ => rfl

theorem mem_fields_iff {f : FieldReader PartialConfig} :
    f ∈ shape.fields ↔
      f = networksField ∨ f = fixtureField ∨ f = receiptTimeoutField ∨ f = pollIntervalField := by
  simp [shape]

theorem fields_seeValue : ∀ f ∈ shape.fields, ∀ depth s, SeesValue fun d => f.read depth d s := by
  intro f hf depth s
  rcases mem_fields_iff.mp hf with rfl | rfl | rfl | rfl
  · exact (readNetworks_seesValue depth).map _
  · exact (FixtureTexts.read_seesValue depth).map _
  · exact Doc.readNatural_seesValue.map _
  · exact Doc.readNatural_seesValue.map _

/-- Nothing but the networks is missed. -/
theorem finish_isSome (c : PartialConfig) :
    (shape.finish c).toOption.isSome = c.networks.isSome := by
  obtain ⟨networks, fixture, receiptTimeoutSecs, pollIntervalMs⟩ := c
  cases networks <;> rfl

theorem finish_eq_ok {p : PartialConfig} {c : Config} (h : shape.finish p = .ok c) :
    p.networks = some c.networks ∧
      c.receiptTimeoutSecs = p.receiptTimeoutSecs.getD Defaults.receiptTimeoutSeconds ∧
      c.pollIntervalMs = p.pollIntervalMs.getD Defaults.pollIntervalMilliseconds := by
  obtain ⟨networks, fixture, receiptTimeoutSecs, pollIntervalMs⟩ := p
  cases networks with
  | none => cases h
  | some t =>
    cases h
    exact ⟨rfl, rfl, rfl⟩

theorem stores_networks :
    shape.Stores networksField readNetworks (fun t c => { c with networks := some t })
      fun c t => c.networks = t where
  sees := fields_seeValue
  names := by decide
  known := rfl
  read _ _ _ := rfl
  isSet _ _ := rfl
  again _ _ _ := rfl
  others g hg hne := by
    rcases mem_fields_iff.mp hg with rfl | rfl | rfl | rfl <;>
      first
      | exact absurd rfl hne
      | exact FieldReader.keeps_of_set (fun _ _ _ => rfl) (fun _ _ _ => rfl) (fun _ _ => rfl)
  finish _ _ _ := rfl
  has _ _ _ h := (Option.some.inj (finish_eq_ok h).1).symm

theorem stores_receiptTimeout :
    shape.Stores receiptTimeoutField (fun _ d => d.readNatural)
      (fun n c => { c with receiptTimeoutSecs := some n }) fun c n => c.receiptTimeoutSecs = n where
  sees := fields_seeValue
  names := by decide
  known := rfl
  read _ _ _ := rfl
  isSet _ _ := rfl
  again _ _ _ := rfl
  others g hg hne := by
    rcases mem_fields_iff.mp hg with rfl | rfl | rfl | rfl <;>
      first
      | exact absurd rfl hne
      | exact FieldReader.keeps_of_set (fun _ _ _ => rfl) (fun _ _ _ => rfl) (fun _ _ => rfl)
  finish _ _ _ := by rw [finish_isSome, finish_isSome]
  has _ _ _ h := (finish_eq_ok h).2.1

theorem stores_pollInterval :
    shape.Stores pollIntervalField (fun _ d => d.readNatural)
      (fun n c => { c with pollIntervalMs := some n }) fun c n => c.pollIntervalMs = n where
  sees := fields_seeValue
  names := by decide
  known := rfl
  read _ _ _ := rfl
  isSet _ _ := rfl
  again _ _ _ := rfl
  others g hg hne := by
    rcases mem_fields_iff.mp hg with rfl | rfl | rfl | rfl <;>
      first
      | exact absurd rfl hne
      | exact FieldReader.keeps_of_set (fun _ _ _ => rfl) (fun _ _ _ => rfl) (fun _ _ => rfl)
  finish _ _ _ := by rw [finish_isSome, finish_isSome]
  has _ _ _ h := (finish_eq_ok h).2.2

theorem toOption_readNetworks (depth start : Nat) (members : Members) :
    (readNetworks (depth + 1) (.object members start)).toOption =
      (members.readTable NetworkEntry.read NameTable.insert depth NameTable.empty).toOption :=
  rfl

/-- Rows of other names leave an entry alone. -/
theorem get_of_foldl_enterRow {reader : (depth : Nat) → Doc → Except Complaint NetworkEntry}
    {depth : Nat} {rows : List (String × Doc)} {network : String}
    (habsent : network ∉ rows.map (·.1)) {t u : NameTable NetworkEntry}
    (h : rows.foldl (Json.enterRow reader NameTable.insert depth) (some t) = some u) :
    u.get? network = t.get? network := by
  induction rows generalizing t with
  | nil =>
    cases h
    rfl
  | cons r rows ih =>
    rw [List.map_cons, List.mem_cons, not_or] at habsent
    rw [Json.foldl_enterRow_cons] at h
    obtain ⟨e, -, hrest⟩ := Option.bind_eq_some_iff.mp h
    rw [ih habsent.2 hrest, NameTable.get_insert, if_neg habsent.1]

/-- An entry among the networks: a later one of the same name takes its place. -/
theorem readsAt_network (before : List (String × Written)) (network : String)
    (after : List (String × Written)) (depth : Nat) :
    ReadsAt (readNetworks (depth + 1)) (fun v => .object (before ++ (network, v) :: after))
      (NetworkEntry.read depth)
      fun t e => network ∉ after.map (·.1) → t.get? network = some e := by
  intro v w d e hd he
  obtain ⟨members, start, front, x, back, rfl, hlists, hfront, hx, hback⟩ := Json.holds_member hd
  obtain ⟨members', start', front', y, back', rfl, hlists', hfront', hy, hback'⟩ :=
    Json.holds_member he
  have hsees := NetworkEntry.read_seesValue depth
  let enter := Json.enterRow NetworkEntry.read (@NameTable.insert NetworkEntry) depth
  let next (t : NameTable NetworkEntry) (e : NetworkEntry) : Option (NameTable NetworkEntry) :=
    back.foldl enter (some (t.insert network e))
  refine ⟨x, y, fun e => (front.foldl enter (some NameTable.empty)).bind fun t => next t e, hx, hy,
    Json.continues_bind (fun t => ⟨fun e e' => ?_, fun e u hu habsent => ?_⟩) _, ?_, ?_⟩
  · exact Json.foldl_enterRow_isSome back _ _
  · rw [← names_of_forall₂ (fun _ _ h => h.1) hback] at habsent
    rw [get_of_foldl_enterRow habsent hu, NameTable.get_insert, if_pos rfl]
  · rw [toOption_readNetworks, hlists.readTable, List.foldl_append, Json.foldl_enterRow_cons]
  · rw [toOption_readNetworks, hlists'.readTable, List.foldl_append, Json.foldl_enterRow_cons,
      ← Json.foldl_enterRow_same hsees (Json.forall₂_rowSame hfront hfront')]
    simp only [← Json.foldl_enterRow_same hsees (Json.forall₂_rowSame hback hback')]
    rfl

/-- A place of a number in a configuration, and what a configuration has there. -/
inductive NumberPlace : (Written → Written) → (Config → UInt64 → Prop) → Prop where
  | receiptTimeout {fill : Written → Written} (place : shape.Places receiptTimeoutField fill) :
      NumberPlace fill fun c n => c.receiptTimeoutSecs = n
  | pollInterval {fill : Written → Written} (place : shape.Places pollIntervalField fill) :
      NumberPlace fill fun c n => c.pollIntervalMs = n
  /-- Of two entries of one name the last counts. -/
  | chainId {fill fill' : Written → Written} (networks : shape.Places networksField fill)
      (before : List (String × Written)) (network : String) (after : List (String × Written))
      (place : NetworkEntry.shape.Places NetworkEntry.chainIdField fill') :
      NumberPlace (fun v => fill (.object (before ++ (network, fill' v) :: after)))
        fun c n => network ∉ after.map (·.1) →
          ∃ e, c.networks.get? network = some e ∧ e.chainId = n

theorem NumberPlace.readsAt {fill : Written → Written} {has : Config → UInt64 → Prop}
    (h : NumberPlace fill has) :
    ReadsAt (shape.read Json.depthLimit) fill Doc.readNatural has := by
  cases h with
  | receiptTimeout place => exact stores_receiptTimeout.readsAt place 126
  | pollInterval place => exact stores_pollInterval.readsAt place 126
  | chainId networks before network after place =>
    have hnetworks := stores_networks.readsAt networks 126
    have hnetwork := readsAt_network before network after 125
    have hchainId := NetworkEntry.stores_chainId.readsAt place 124
    refine ((hnetworks.comp hnetwork).comp hchainId).mono fun c n hhas habsent => ?_
    obtain ⟨e, ⟨t, rfl, hentry⟩, hn⟩ := hhas
    exact ⟨e, hentry habsent, hn⟩

/-- Whatever number is spelled between the two texts, the whole is a text with this number at the
place. -/
def Encloses (front back : String) (fill : Written → Written) : Prop :=
  ∀ cs n, Spells cs (.value (.number n)) →
    Json.IsText (front ++ String.ofList cs ++ back) (fill (.number n))

theorem readNatural_of_holds {d : Doc} {n : Option Number} (h : d.Holds (.number n))
    (k : UInt64) : d.readNatural.toOption = some k ↔ n = some (.natural k) := by
  match d, h with
  | .number l start stop, h =>
    have hvalue : l.value.toOption = n := h
    rw [Doc.toOption_readNatural, hvalue]
    rcases n with _ | m
    · simp
    · cases m <;> simp

/-- Two texts with numbers at the same place are decoded in the same way: the numbers must be
natural, and the rest goes on alike. -/
theorem NumberPlace.decode_iff {fill : Written → Written} {has : Config → UInt64 → Prop}
    (place : NumberPlace fill has) {raw other : String} {n m : Option Number}
    (hraw : Json.IsText raw (fill (.number n))) (hother : Json.IsText other (fill (.number m))) :
    ∃ next, Continues has next ∧
      (∀ c, decode raw = .ok c ↔ ∃ k, n = some (.natural k) ∧ next k = some c) ∧
      ∀ c, decode other = .ok c ↔ ∃ k, m = some (.natural k) ∧ next k = some c := by
  obtain ⟨d, hsource, hd⟩ := hraw.source
  obtain ⟨e, hsource', he⟩ := hother.source
  obtain ⟨x, y, next, hx, hy, hnext, hreadx, hready⟩ := place.readsAt _ _ d e hd he
  refine ⟨next, hnext, fun c => ?_, fun c => ?_⟩
  · rw [← toOption_eq_some_iff, decode, Json.toOption_readText hsource, hreadx,
      Option.bind_eq_some_iff]
    simp only [readNatural_of_holds hx]
  · rw [← toOption_eq_some_iff, decode, Json.toOption_readText hsource', hready,
      Option.bind_eq_some_iff]
    simp only [readNatural_of_holds hy]

/-- A number literal in a text that is fine with some number in its place: the text is decoded if
and only if the literal is plain digits whose value fits 64 bits, and then the configuration has
exactly this value, and is left to be validated. -/
theorem decode_number {fill : Written → Written} {has : Config → UInt64 → Prop}
    (place : NumberPlace fill has) {front back : String} (encloses : Encloses front back fill)
    (fine : ∃ ds m c, Spells ds (.value (.number m)) ∧
      decode (front ++ String.ofList ds ++ back) = .ok c)
    {cs : List Char} {n : Option Number} (literal : Spells cs (.value (.number n))) :
    ((∃ c, decode (front ++ String.ofList cs ++ back) = .ok c) ↔
      Json.PlainDigits cs ∧ Nat.ofDigitChars 10 cs 0 ≤ 2 ^ 64 - 1) ∧
    (∀ c, decode (front ++ String.ofList cs ++ back) = .ok c →
      (∃ k : UInt64, k.toNat = Nat.ofDigitChars 10 cs 0 ∧ has c k) ∧
      parse (front ++ String.ofList cs ++ back) = c.validate) ∧
    ∀ detail, decode (front ++ String.ofList cs ++ back) = .error detail →
      parse (front ++ String.ofList cs ++ back) = .error (.configMalformed detail) := by
  obtain ⟨ds, m, c₀, hds, hc₀⟩ := fine
  obtain ⟨next, hnext, hdecode, hdecode₀⟩ :=
    place.decode_iff (encloses cs n literal) (encloses ds m hds)
  refine ⟨⟨?_, ?_⟩, ?_, fun detail => parse_of_decode_error⟩
  · rintro ⟨c, hc⟩
    obtain ⟨k, hk, -⟩ := (hdecode c).mp hc
    obtain ⟨hplain, hvalue⟩ := (literal.natural_iff k).mp hk
    exact ⟨hplain, hvalue ▸ Nat.le_pred_of_lt k.toNat_lt⟩
  · rintro ⟨hplain, hfits⟩
    have hlt : Nat.ofDigitChars 10 cs 0 < UInt64.size := Nat.lt_of_le_pred (by decide) hfits
    obtain ⟨k₀, -, hk₀⟩ := (hdecode₀ c₀).mp hc₀
    have hk := (literal.natural_iff (UInt64.ofNat (Nat.ofDigitChars 10 cs 0))).mpr
      ⟨hplain, (UInt64.toNat_ofNat_of_lt' hlt).symm⟩
    -- one number is read to the end of the text, so every number is
    have hsome := hnext.alike (UInt64.ofNat (Nat.ofDigitChars 10 cs 0)) k₀
    rw [hk₀] at hsome
    obtain ⟨c, hc⟩ := Option.isSome_iff_exists.mp hsome
    exact ⟨c, (hdecode c).mpr ⟨_, hk, hc⟩⟩
  · intro c hc
    obtain ⟨k, hk, hread⟩ := (hdecode c).mp hc
    have hvalue := ((literal.natural_iff k).mp hk).2
    exact ⟨⟨k, hvalue.symm, hnext.has k c hread⟩, parse_of_decode_ok hc⟩

/-- Up to the number in a configuration that has nothing else. -/
def numberFront : String := "\x7b\"networks\":\x7b\"hardhat\":\x7b\"chain_id\":"

def numberBack : String := "\x7d\x7d\x7d"

def chainIdAlone (v : Written) : Written :=
  .object [("networks", .object [("hardhat", .object [("chain_id", v)])])]

theorem spells_single {cs : List Char} {v : Written} (h : Spells cs (.value v)) (name : String) :
    Spells ('\x7b' :: (Json.stringChars name ++ ':' :: (cs ++ ['\x7d'])))
      (.value (.object [(name, v)])) :=
  .object (.member (.first Json.blank_nil) (Json.spellsString_stringChars name) Json.blank_nil
    Json.blank_nil h (.noMembers Json.blank_nil))

theorem encloses_chainIdAlone : Encloses numberFront numberBack chainIdAlone := by
  intro cs n h
  refine ⟨[], _, [], ?_, Json.blank_nil,
    spells_single (spells_single (spells_single h "chain_id") "hardhat") "networks", Json.blank_nil⟩
  have hfront : numberFront.toList = '\x7b' :: (Json.stringChars "networks" ++ ':' :: '\x7b' ::
      (Json.stringChars "hardhat" ++ ':' :: '\x7b' :: (Json.stringChars "chain_id" ++ [':']))) := by
    decide
  have hback : numberBack.toList = ['\x7d', '\x7d', '\x7d'] := by decide
  simp [hfront, hback]

theorem read_lone_chainId {n : UInt64} (depth : Nat) {d : Doc}
    (h : d.Shows (.object [("chain_id", .natural n)])) :
    NetworkEntry.read (depth + 1) d = .ok ⟨n, Defaults.rpcUrl, .node⟩ := by
  have hcollects : Json.Collects NetworkEntry.shape.fields depth NetworkEntry.shape.empty
      [("chain_id", .natural n)] ⟨some n, none, none⟩ :=
    .field (f := NetworkEntry.chainIdField) rfl rfl
      (fun d hd => congrArg (Except.map _) (Doc.readNatural_of_shows hd)) (.done _)
  exact hcollects.readRecord rfl h

theorem readNetworks_lone {n : UInt64} (depth : Nat) {d : Doc}
    (h : d.Shows (.object [("hardhat", .object [("chain_id", .natural n)])])) :
    readNetworks (depth + 2) d =
      .ok (NameTable.empty.insert "hardhat" ⟨n, Defaults.rpcUrl, .node⟩) := by
  obtain ⟨members, start, rfl, hmembers⟩ := Doc.shows_object_iff.mp h
  let row : String × NetworkEntry := ("hardhat", ⟨n, Defaults.rpcUrl, .node⟩)
  let toJson (e : NetworkEntry) : Json := .object [("chain_id", .natural e.chainId)]
  have hrow : ∀ r ∈ [row], ∀ d : Doc, d.Shows (toJson r.2) →
      NetworkEntry.read (depth + 1) d = .ok r.2 := by
    intro r hr d hd
    rw [List.mem_singleton.mp hr] at hd ⊢
    exact read_lone_chainId depth hd
  exact Json.Members.readTable_of_shows _ NameTable.insert _ hrow hmembers NameTable.empty

/-- With a natural number such a text is decoded; everything else is as assumed. -/
theorem decode_chainIdAlone {raw : String} {n : UInt64}
    (h : Json.IsText raw (chainIdAlone (.number (some (.natural n))))) :
    decode raw = .ok ⟨NameTable.empty.insert "hardhat" ⟨n, Defaults.rpcUrl, .node⟩, .builtIn,
      Defaults.receiptTimeoutSeconds, Defaults.pollIntervalMilliseconds⟩ := by
  obtain ⟨d, hsource, hd⟩ := h.source
  have hcollects : Json.Collects shape.fields 126 shape.empty
      [("networks", .object [("hardhat", .object [("chain_id", .natural n)])])]
      ⟨some (NameTable.empty.insert "hardhat" ⟨n, Defaults.rpcUrl, .node⟩), none, none, none⟩ :=
    .field (f := networksField) rfl rfl
      (fun d hd => congrArg (Except.map _) (readNetworks_lone 124 hd)) (.done _)
  have hread : shape.read Json.depthLimit d = .ok _ := hcollects.readRecord rfl hd
  rw [← toOption_eq_some_iff, decode, Json.toOption_readText hsource, hread]
  rfl

/-- The highest number of 64 bits is read exactly, and the next one is refused. -/
theorem decode_widest_number :
    (∃ c, decode (numberFront ++ String.ofList (Nat.toDigits 10 18446744073709551615) ++
        numberBack) = .ok c ∧
      ∃ e, c.networks.get? "hardhat" = some e ∧ e.chainId = 18446744073709551615) ∧
    ∀ c, decode (numberFront ++ String.ofList (Nat.toDigits 10 18446744073709551616) ++
      numberBack) ≠ .ok c := by
  have hplace : NumberPlace chainIdAlone fun c n =>
      "hardhat" ∉ ([] : List (String × Written)).map (·.1) →
        ∃ e, c.networks.get? "hardhat" = some e ∧ e.chainId = n :=
    .chainId (.member [] []) [] "hardhat" [] (.member [] [])
  have hfine : ∃ ds m c, Spells ds (.value (.number m)) ∧
      decode (numberFront ++ String.ofList ds ++ numberBack) = .ok c := by
    obtain ⟨m, hzero, hplain⟩ := Json.spells_toDigits 0
    obtain rfl : m = some (.natural 0) :=
      (hzero.natural_iff 0).mpr ⟨hplain, Nat.ofDigitChars_ten_toDigits⟩
    exact ⟨_, _, _, hzero, decode_chainIdAlone (encloses_chainIdAlone _ _ hzero)⟩
  obtain ⟨m, hwidest, hplain⟩ := Json.spells_toDigits 18446744073709551615
  obtain ⟨m', hbeyond, -⟩ := Json.spells_toDigits 18446744073709551616
  have hread := decode_number hplace encloses_chainIdAlone hfine hwidest
  have hrefused := decode_number hplace encloses_chainIdAlone hfine hbeyond
  refine ⟨?_, fun c hc => ?_⟩
  · have hfits : 18446744073709551615 ≤ 2 ^ 64 - 1 := by decide
    rw [← @Nat.ofDigitChars_ten_toDigits 18446744073709551615] at hfits
    obtain ⟨c, hc⟩ := hread.1.mpr ⟨hplain, hfits⟩
    obtain ⟨⟨k, hk, hentry⟩, -⟩ := hread.2.1 c hc
    obtain ⟨e, he, hchainId⟩ := hentry List.not_mem_nil
    rw [Nat.ofDigitChars_ten_toDigits] at hk
    exact ⟨c, hc, e, he, hchainId.trans (UInt64.toNat_inj.mp hk)⟩
  · have hfits := (hrefused.1.mp ⟨c, hc⟩).2
    rw [Nat.ofDigitChars_ten_toDigits] at hfits
    exact absurd hfits (by decide)

end Config

end Devnet
