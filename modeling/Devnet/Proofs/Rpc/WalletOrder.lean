import Devnet.Proofs.Rpc.ConnectOrder

namespace Devnet

namespace Keyring

/-- A key with no white space around it and no mark in front. -/
structure Bare (key : List Char) : Prop where
  head : ∀ c ∈ key.head?, Text.isBlank c = false
  last : ∀ c ∈ key.getLast?, Text.isBlank c = false
  unmarked : ¬ ['0', 'x'] <+: key

/-- The same text, or a bare key with a mark in front and white space around it. -/
inductive Respelled : String → String → Prop where
  | same (text : String) : Respelled text text
  | marked {lead key trail : List Char} (bare : Bare key)
      (lead_blank : ∀ c ∈ lead, Text.isBlank c = true)
      (trail_blank : ∀ c ∈ trail, Text.isBlank c = true) :
      Respelled (String.ofList key) (String.ofList (lead ++ '0' :: 'x' :: key ++ trail))

theorem Bare.normalizeChars_eq {key : List Char} (h : Bare key) :
    PrivateKey.normalizeChars key = key := by
  have htrim : Text.trim key = key := by
    simpa using Text.trim_surrounded (List.forall_mem_nil _) (List.forall_mem_nil _) h.head h.last
  rw [PrivateKey.normalizeChars, htrim]
  unfold Address.dropMark
  split
  · exact absurd (List.prefix_append ['0', 'x'] _) h.unmarked
  · rfl

theorem Bare.normalizeChars_marked {lead key trail : List Char} (h : Bare key)
    (hlead : ∀ c ∈ lead, Text.isBlank c = true) (htrail : ∀ c ∈ trail, Text.isBlank c = true) :
    PrivateKey.normalizeChars (lead ++ '0' :: 'x' :: key ++ trail) = key := by
  have hhead : ∀ c ∈ ('0' :: 'x' :: key).head?, Text.isBlank c = false := by
    intro c hc
    cases hc
    rfl
  have hlast : ∀ c ∈ ('0' :: 'x' :: key).getLast?, Text.isBlank c = false := by
    cases key with
    | nil =>
      intro c hc
      cases hc
      rfl
    | cons d key => simpa using h.last
  rw [PrivateKey.normalizeChars, Text.trim_surrounded hlead htrail hhead hlast]
  rfl

theorem Respelled.readKey_eq {text raw : String} (h : Respelled text raw) :
    readKey raw = readKey text := by
  cases h with
  | same => rfl
  | @marked lead key trail bare hlead htrail =>
    have hnormal : PrivateKey.normalizeChars
          (String.ofList (lead ++ '0' :: 'x' :: key ++ trail)).toList =
        PrivateKey.normalizeChars (String.ofList key).toList := by
      rw [String.toList_ofList, String.toList_ofList, bare.normalizeChars_marked hlead htrail,
        bare.normalizeChars_eq]
    rw [readKey, readKey, PrivateKey.parse_congr hnormal]

theorem ofTexts_respelled {texts raws : List String} (h : List.Forall₂ Respelled texts raws) :
    ofTexts raws = ofTexts texts := by
  induction h with
  | nil => rfl
  | cons first _ ih =>
    unfold ofTexts at ih ⊢
    rw [List.mapM_cons, List.mapM_cons, first.readKey_eq, ih]

theorem ofTexts_single (text : String) : ofTexts [text] = (readKey text).map fun key => [key] := by
  rw [ofTexts, List.mapM_cons, List.mapM_nil]
  cases readKey text <;> rfl

theorem ofTexts_single_eq_ok {text : String} {key : PrivateKey} :
    ofTexts [text] = .ok [key] ↔ readKey text = .ok key := by
  rw [ofTexts_single]
  cases readKey text <;> simp [Except.map]

theorem ofTexts_single_eq_error {text : String} {e : CheckError} :
    ofTexts [text] = .error e ↔ readKey text = .error e := by
  rw [ofTexts_single]
  cases readKey text <;> simp [Except.map]

theorem ofTexts_eq_ok_iff {texts : List String} {ring : Keyring} :
    ofTexts texts = .ok ring ↔
      List.Forall₂ (fun text key => ofTexts [text] = .ok [key]) texts ring := by
  constructor
  · intro h
    exact (mapM_eq_ok_iff.mp h).imp fun _ _ hkey => ofTexts_single_eq_ok.mpr hkey
  · intro h
    exact mapM_eq_ok_iff.mpr (h.imp fun _ _ hkey => ofTexts_single_eq_ok.mp hkey)

theorem ofTexts_single_succeeds_iff {text : String} :
    (∃ ring, ofTexts [text] = .ok ring) ↔ ∃ key, readKey text = .ok key := by
  rw [ofTexts_single]
  cases readKey text <;> simp [Except.map]

/-- The error is that of the first text which is no key by itself. -/
theorem ofTexts_eq_error_iff {texts : List String} {e : CheckError} :
    ofTexts texts = .error e ↔ ∃ before text after, texts = before ++ text :: after ∧
      (∀ t ∈ before, ∃ ring, ofTexts [t] = .ok ring) ∧ ofTexts [text] = .error e := by
  constructor
  · intro h
    obtain ⟨before, text, after, hsplit, hbefore, htext⟩ := mapM_eq_error_iff.mp h
    exact ⟨before, text, after, hsplit,
      fun t ht => ofTexts_single_succeeds_iff.mpr (hbefore t ht),
      ofTexts_single_eq_error.mpr htext⟩
  · rintro ⟨before, text, after, rfl, hbefore, htext⟩
    exact mapM_of_first (fun t ht => ofTexts_single_succeeds_iff.mp (hbefore t ht))
      (ofTexts_single_eq_error.mp htext)

theorem ofTexts_succeeds_iff {texts : List String} :
    (∃ ring, ofTexts texts = .ok ring) ↔ ∀ t ∈ texts, ∃ ring, ofTexts [t] = .ok ring := by
  constructor
  · rintro ⟨ring, h⟩ t ht
    obtain ⟨key, -, hkey⟩ := exists_of_mem_forall₂ (ofTexts_eq_ok_iff.mp h) ht
    exact ⟨[key], hkey⟩
  · intro h
    cases hring : ofTexts texts with
    | ok ring => exact ⟨ring, rfl⟩
    | error e =>
      obtain ⟨before, text, after, rfl, -, htext⟩ := ofTexts_eq_error_iff.mp hring
      obtain ⟨ring, hok⟩ := h text (List.mem_append_right _ List.mem_cons_self)
      rw [htext] at hok
      cases hok

end Keyring

namespace Rpc

/-- The wallets of the network are those of the keys in their order, and no node is asked for
them. -/
structure Network.HoldsKeys (net : Network) (ring : Keyring) : Prop where
  listed : ∀ {μ : Type} (node : Node μ) (link : Link μ),
    (net.walletAccounts node).run link = (.ok ring.addresses, link)
  held : ∀ {μ : Type} (node : Node μ) (link : Link μ), ∀ account ∈ ring.addresses,
    ∃ w, (net.wallet node account).run link = (.ok w, link) ∧ w.address = account
  absent : ∀ {μ : Type} (node : Node μ) (link : Link μ), ∀ account ∉ ring.addresses,
    (net.wallet node account).run link = (.error (.noWallet account), link)

theorem Network.holdsKeys {net : Network} {signers : List Signer}
    (h : net.signers = .keys signers) : net.HoldsKeys (signers.map (·.key)) where
  listed node link := by
    unfold walletAccounts
    rw [h, Keyring.addresses, List.map_map]
    rfl
  held node link account haccount := by
    unfold wallet
    rw [h]
    dsimp only
    cases hfound : signers.find? fun s => s.address = account with
    | none =>
      obtain ⟨key, hkey, hown⟩ := List.mem_map.mp haccount
      obtain ⟨s, hs, rfl⟩ := List.mem_map.mp hkey
      exact absurd (decide_eq_true hown) (List.find?_eq_none.mp hfound s hs)
    | some s =>
      have howner : s.address = account := by simpa using List.find?_some hfound
      exact ⟨.signer s, rfl, howner⟩
  absent node link account haccount := by
    have hnone : signers.find? (fun s => s.address = account) = none := by
      refine List.find?_eq_none.mpr fun s hs hown => haccount ?_
      have hmem := List.mem_map_of_mem (f := (·.address)) (List.mem_map_of_mem (f := (·.key)) hs)
      exact (of_decide_eq_true hown) ▸ hmem
    unfold wallet
    rw [h]
    dsimp only
    rw [hnone]
    rfl

variable {ν : Type}

theorem holdsKeys_of_connect {node : Node ν} {target : Target} {env : Environment}
    {texts : List String} (htexts : target.accounts.privateKeys env = .ok (some texts))
    {net : Network} {a b : Link ν} (h : (connect node target env).run a = (.ok net, b)) :
    ∃ ring, Keyring.ofTexts texts = .ok ring ∧ net.HoldsKeys ring := by
  obtain ⟨sent, -, hconnected⟩ := connect_connected node target env a
  rw [h] at hconnected
  obtain ⟨-, ring, hring, hsigners⟩ := hconnected net rfl
  have hread : configuredKeys target env = (Keyring.ofTexts texts).map some := by
    unfold configuredKeys
    rw [htexts]
    change (Keyring.ofTexts texts >>= fun ring => pure (some ring)) = _
    cases Keyring.ofTexts texts <;> rfl
  rw [hread] at hring
  cases hkeys : Keyring.ofTexts texts with
  | error e =>
    rw [hkeys] at hring
    cases hring
  | ok keys =>
    rw [hkeys] at hring
    cases hring
    generalize hnet : net.signers = signers at hsigners
    cases hsigners with
    | keys setUp =>
      have hholds := Network.holdsKeys hnet
      rw [setUp.keys_eq] at hholds
      exact ⟨keys, rfl, hholds⟩

/-- Keys are read one by one and in their order, up to the first that is none; how they are spelled
does not matter; and whoever connects with them has their wallets in this order and no others. -/
theorem wallets_of_keys (texts : List String) :
    (∀ ring, Keyring.ofTexts texts = .ok ring ↔
      List.Forall₂ (fun text key => Keyring.ofTexts [text] = .ok [key]) texts ring) ∧
    ((∃ ring, Keyring.ofTexts texts = .ok ring) ↔
      ∀ text ∈ texts, ∃ ring, Keyring.ofTexts [text] = .ok ring) ∧
    (∀ e, Keyring.ofTexts texts = .error e ↔
      ∃ before text after, texts = before ++ text :: after ∧
        (∀ t ∈ before, ∃ ring, Keyring.ofTexts [t] = .ok ring) ∧
        Keyring.ofTexts [text] = .error e) ∧
    (∀ raws, List.Forall₂ Keyring.Respelled texts raws →
      Keyring.ofTexts raws = Keyring.ofTexts texts) ∧
    ∀ {ν : Type} (node : Node ν) (target : Target) (env : Environment) (net : Network)
      (a b : Link ν), target.accounts.privateKeys env = .ok (some texts) →
      (connect node target env).run a = (.ok net, b) →
      ∃ ring, Keyring.ofTexts texts = .ok ring ∧ net.HoldsKeys ring :=
  ⟨fun _ => Keyring.ofTexts_eq_ok_iff, Keyring.ofTexts_succeeds_iff,
    fun _ => Keyring.ofTexts_eq_error_iff, fun _ => Keyring.ofTexts_respelled,
    fun _ _ _ _ _ _ htexts h => holdsKeys_of_connect htexts h⟩

/-- A text of 64 digits that are all zero but the last. -/
def lowDigits (last : Char) : List Char := List.replicate 63 '0' ++ [last]

def secondKey : PrivateKey := ⟨2, by decide, by decide⟩

/-- Two keys, of which one is there twice. -/
def repeatedTexts : List String :=
  [String.ofList (lowDigits '2'), String.ofList (lowDigits '1'), String.ofList (lowDigits '2')]

/-- The same keys, some of them with white space and a mark. -/
def spelledTexts : List String :=
  [String.ofList ('\u00a0' :: '0' :: 'x' :: lowDigits '2' ++ ['\n']),
    String.ofList (lowDigits '1'), String.ofList ('0' :: 'x' :: lowDigits '2')]

def repeatedTarget : Target :=
  { Target.ofNetwork .hardhat with accounts := .keys spelledTexts }

theorem respelled_repeatedTexts : List.Forall₂ Keyring.Respelled repeatedTexts spelledTexts := by
  have hbare : Keyring.Bare (lowDigits '2') := by
    refine ⟨?_, ?_, by decide⟩
    all_goals
      intro c hc
      cases hc
      rfl
  have hspaced : Keyring.Respelled (String.ofList (lowDigits '2'))
      (String.ofList (['\u00a0'] ++ '0' :: 'x' :: lowDigits '2' ++ ['\n'])) :=
    .marked hbare (by simp [Text.isBlank, Text.blankRanges])
      (by simp [Text.isBlank, Text.blankRanges])
  have hmarked : Keyring.Respelled (String.ofList (lowDigits '2'))
      (String.ofList ([] ++ '0' :: 'x' :: lowDigits '2' ++ [])) :=
    .marked hbare (List.forall_mem_nil _) (List.forall_mem_nil _)
  rw [List.append_nil, List.nil_append] at hmarked
  exact .cons hspaced (.cons (.same _) (.cons hmarked .nil))

/-- The wallets keep the order of the keys, and a key that is there twice has two of them. -/
theorem wallets_of_repeatedKey :
    Keyring.ofTexts spelledTexts = Keyring.ofTexts repeatedTexts ∧
    Keyring.ofTexts spelledTexts = .ok [secondKey, leastKey, secondKey] ∧
    repeatedTarget.accounts.privateKeys ⟨[]⟩ = .ok (some spelledTexts) ∧
    (connect (Node.constant chainBody) repeatedTarget ⟨[]⟩).run (⟨(), #[]⟩ : Link Unit) =
      (.ok ⟨localUrl, .keys [⟨secondKey, 31337⟩, ⟨leastKey, 31337⟩, ⟨secondKey, 31337⟩]⟩,
        ⟨(), #[.chainId, .chainId, .chainId]⟩) ∧
    (⟨localUrl, .keys [⟨secondKey, 31337⟩, ⟨leastKey, 31337⟩, ⟨secondKey, 31337⟩]⟩ :
      Network).HoldsKeys [secondKey, leastKey, secondKey] := by
  have hring : Keyring.ofTexts spelledTexts = .ok [secondKey, leastKey, secondKey] := rfl
  have hkeys : configuredKeys repeatedTarget ⟨[]⟩ =
      .ok (some [secondKey, leastKey, secondKey]) := rfl
  have htexts : repeatedTarget.accounts.privateKeys ⟨[]⟩ = .ok (some spelledTexts) := rfl
  have hdeliver (m : Unit) : (Node.constant chainBody).deliver .chainId m =
      (.answered chainBody, m) := rfl
  have hconnect := connect_keys hdeliver rfl hkeys ⟨(), #[]⟩
  obtain ⟨ring, hread, hholds⟩ := (wallets_of_keys spelledTexts).2.2.2.2 (Node.constant chainBody)
    repeatedTarget ⟨[]⟩ _ (⟨(), #[]⟩ : Link Unit) _ htexts hconnect
  rw [hring] at hread
  obtain rfl := Except.ok.inj hread
  exact ⟨(wallets_of_keys repeatedTexts).2.2.2.1 _ respelled_repeatedTexts, hring, htexts,
    hconnect, hholds⟩

end Rpc

end Devnet
