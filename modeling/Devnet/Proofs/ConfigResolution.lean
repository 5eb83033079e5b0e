import Devnet.Config.Target
import Devnet.Proofs.ByteOrder
import Devnet.Proofs.ConfigRoundTrip

namespace Devnet

/-- The name, letter for letter, of a known network. -/
def KnownNetwork.IsName (name : String) : Prop := ∃ k : KnownNetwork, k.name = name

theorem KnownNetwork.ofName_eq_none_iff {name : String} :
    ofName? name = none ↔ ¬ IsName name := by
  rw [Option.eq_none_iff_forall_ne_some]
  exact ⟨fun h ⟨k, hk⟩ => h k (ofName_eq_some_iff.mpr hk), fun h k hk =>
    h ⟨k, ofName_eq_some_iff.mp hk⟩⟩

namespace NameTable

variable {α : Type}

theorem names_sorted (t : NameTable α) : t.names.Pairwise (· < ·) :=
  List.pairwise_map.mpr t.sorted

theorem get_eq_some_iff {t : NameTable α} {name : String} {v : α} :
    t.get? name = some v ↔ (name, v) ∈ t.rows := by
  constructor
  · intro h
    obtain ⟨before, after, hrows, -⟩ := List.lookup_eq_some_iff.mp h
    rw [hrows]
    exact List.mem_append_right before List.mem_cons_self
  · intro h
    obtain ⟨before, after, hrows⟩ := List.append_of_mem h
    refine List.lookup_eq_some_iff.mpr ⟨before, after, hrows, fun r hr => ?_⟩
    have hlt : r.1 < name :=
      (List.pairwise_append.mp (hrows ▸ t.sorted)).2.2 r hr (name, v) List.mem_cons_self
    simpa using hlt.ne'

theorem mem_names_iff {t : NameTable α} {name : String} :
    name ∈ t.names ↔ ∃ v, (name, v) ∈ t.rows := by
  simp [names]

theorem get_eq_none_iff {t : NameTable α} {name : String} :
    t.get? name = none ↔ name ∉ t.names := by
  rw [Option.eq_none_iff_forall_ne_some, mem_names_iff, not_exists]
  simp only [Ne, get_eq_some_iff]

end NameTable

open KnownNetwork (IsName)

namespace Config

/-- The least of the listed names that are no known network's, in the order of their bytes. -/
structure LeastUnknown (c : Config) (name : String) : Prop where
  listed : name ∈ c.networks.names
  unknown : ¬ IsName name
  least : ∀ other ∈ c.networks.names, ¬ IsName other → other ≠ name →
    Text.encodeUtf8 name < Text.encodeUtf8 other

/-- What the check of a decoded configuration comes to: names come before the interval. -/
inductive Validates (c : Config) : Except CheckError Config → Prop where
  | unknown (name : String) (h : c.LeastUnknown name) : Validates c (.error (.unknownNetwork name))
  | unpaced (hnames : ∀ name ∈ c.networks.names, IsName name) (h : c.pollIntervalMs = 0) :
    Validates c (.error (.configMalformed "poll_interval_ms must be non-zero"))
  | valid (hnames : ∀ name ∈ c.networks.names, IsName name) (h : c.pollIntervalMs ≠ 0) :
    Validates c (.ok c)

theorem leastUnknown_of_unknownName {c : Config} {name : String}
    (h : c.unknownName? = some name) : c.LeastUnknown name := by
  obtain ⟨hnone, before, after, hnames, hbefore⟩ := List.find?_eq_some_iff_append.mp h
  have hunknown : ¬ IsName name :=
    KnownNetwork.ofName_eq_none_iff.mp (Option.isNone_iff_eq_none.mp hnone)
  refine ⟨hnames ▸ List.mem_append_right before List.mem_cons_self, hunknown, ?_⟩
  intro other hother hnot hne
  rw [hnames, List.mem_append, List.mem_cons] at hother
  rcases hother with hother | hother | hother
  · have hknown := hbefore other hother
    rw [KnownNetwork.ofName_eq_none_iff.mpr hnot] at hknown
    contradiction
  · contradiction
  · have hsorted := (List.pairwise_append.mp (hnames ▸ c.networks.names_sorted)).2.1
    exact Text.encodeUtf8_lt_iff.mpr ((List.pairwise_cons.mp hsorted).1 other hother)

theorem isName_of_unknownName {c : Config} (h : c.unknownName? = none) :
    ∀ name ∈ c.networks.names, IsName name := by
  intro name hname
  by_contra hnot
  have hsome := List.find?_eq_none.mp h name hname
  rw [KnownNetwork.ofName_eq_none_iff.mpr hnot] at hsome
  exact hsome rfl

theorem validate_validates (c : Config) : c.Validates c.validate := by
  rw [validate]
  cases hunknown : c.unknownName? with
  | some name => exact .unknown name (leastUnknown_of_unknownName hunknown)
  | none =>
    have hnames := isName_of_unknownName hunknown
    by_cases hpace : c.pollIntervalMs = 0
    · simp only [if_pos hpace]
      exact .unpaced hnames hpace
    · simp only [if_neg hpace]
      exact .valid hnames hpace

/-- Only a configuration without a fault passes the check, and it passes unchanged. -/
theorem Validates.of_ok {c d : Config} (h : c.Validates (.ok d)) :
    d = c ∧ (∀ name ∈ c.networks.names, IsName name) ∧ c.pollIntervalMs ≠ 0 := by
  cases h with
  | valid hnames hpace => exact ⟨rfl, hnames, hpace⟩

/-- What a name comes to in a configuration. -/
structure Resolves (c : Config) (name : String) (r : Except CheckError Target) : Prop where
  unknown : r = .error (.unknownNetwork name) ↔ ¬ IsName name
  unlisted : r = .error (.networkNotConfigured name) ↔ IsName name ∧ name ∉ c.networks.names
  listed : ∀ (k : KnownNetwork) (e : NetworkEntry), k.name = name → (name, e) ∈ c.networks.rows →
    r = .ok ⟨k, e.chainId, e.rpcUrl, e.accounts, .ofMilliseconds c.pollIntervalMs.toNat⟩

theorem target_of_unknown {c : Config} {name : String} (h : ¬ IsName name) :
    c.target name = .error (.unknownNetwork name) := by
  rw [target, KnownNetwork.parse, KnownNetwork.ofName_eq_none_iff.mpr h]
  rfl

theorem target_of_known (c : Config) (k : KnownNetwork) :
    c.target k.name =
      match c.networks.get? k.name with
      | none => .error (.networkNotConfigured k.name)
      | some e =>
        .ok ⟨k, e.chainId, e.rpcUrl, e.accounts, .ofMilliseconds c.pollIntervalMs.toNat⟩ := by
  simp only [target, KnownNetwork.parse, KnownNetwork.ofName_eq_some_iff.mpr rfl]
  rfl

theorem target_of_unlisted {c : Config} {name : String} (hname : IsName name)
    (h : name ∉ c.networks.names) : c.target name = .error (.networkNotConfigured name) := by
  obtain ⟨k, rfl⟩ := hname
  rw [target_of_known, NameTable.get_eq_none_iff.mpr h]

theorem target_of_listed {c : Config} {k : KnownNetwork} {e : NetworkEntry}
    (h : (k.name, e) ∈ c.networks.rows) :
    c.target k.name =
      .ok ⟨k, e.chainId, e.rpcUrl, e.accounts, .ofMilliseconds c.pollIntervalMs.toNat⟩ := by
  rw [target_of_known, NameTable.get_eq_some_iff.mpr h]

/-- A known name that is listed stands in one row. -/
theorem exists_target_of_listed {c : Config} {name : String} (hname : IsName name)
    (h : name ∈ c.networks.names) : ∃ t, c.target name = .ok t := by
  obtain ⟨k, rfl⟩ := hname
  obtain ⟨e, he⟩ := NameTable.mem_names_iff.mp h
  exact ⟨_, target_of_listed he⟩

theorem target_resolves (c : Config) (name : String) : c.Resolves name (c.target name) where
  unknown := by
    refine ⟨fun h hname => ?_, target_of_unknown⟩
    by_cases hlisted : name ∈ c.networks.names
    · obtain ⟨t, ht⟩ := exists_target_of_listed hname hlisted
      rw [ht] at h
      contradiction
    · rw [target_of_unlisted hname hlisted] at h
      cases h
  unlisted := by
    refine ⟨fun h => ?_, fun h => target_of_unlisted h.1 h.2⟩
    by_cases hname : IsName name
    · refine ⟨hname, fun hlisted => ?_⟩
      obtain ⟨t, ht⟩ := exists_target_of_listed hname hlisted
      rw [ht] at h
      contradiction
    · rw [target_of_unknown hname] at h
      cases h
  listed k e hk he := by
    subst hk
    exact target_of_listed he

theorem pollInterval_of_target {c : Config} {name : String} {t : Target}
    (h : c.target name = .ok t) : t.pollInterval = .ofMilliseconds c.pollIntervalMs.toNat := by
  by_cases hname : IsName name
  · obtain ⟨k, rfl⟩ := hname
    rw [target_of_known] at h
    split at h
    · contradiction
    · injection h with h
      rw [← h]
  · rw [target_of_unknown hname] at h
    contradiction

theorem parse_of_decode_error {raw detail : String} (h : decode raw = .error detail) :
    parse raw = .error (.configMalformed detail) := by
  rw [parse, h]

theorem parse_of_decode_ok {raw : String} {c : Config} (h : decode raw = .ok c) :
    parse raw = c.validate := by
  rw [parse, h]

/-- What is parsed was decoded and has passed the check unchanged. -/
theorem decode_of_parse {raw : String} {c : Config} (h : parse raw = .ok c) :
    decode raw = .ok c ∧ c.validate = .ok c := by
  cases hdecode : decode raw with
  | error detail =>
    rw [parse_of_decode_error hdecode] at h
    contradiction
  | ok d =>
    rw [parse_of_decode_ok hdecode] at h
    obtain rfl := (h ▸ d.validate_validates).of_ok.1
    exact ⟨rfl, h⟩

/-- A text that is decoded is checked, and what the check lets through resolves every name; the
names that it lists come to a network whose poll interval is at least a millisecond. -/
theorem parse_checks_and_resolves (raw : String) :
    (∀ detail, decode raw = .error detail → parse raw = .error (.configMalformed detail)) ∧
    (∀ c, decode raw = .ok c → c.Validates (parse raw)) ∧
    ∀ c, parse raw = .ok c → ∀ name,
      c.Resolves name (c.target name) ∧
      (∀ t, c.target name = .ok t → 1000000 ≤ t.pollInterval.nanoseconds) ∧
      (name ∈ c.networks.names → ∃ t, c.target name = .ok t) := by
  refine ⟨fun _ => parse_of_decode_error, fun c h => parse_of_decode_ok h ▸ c.validate_validates,
    fun c h name => ?_⟩
  obtain ⟨-, hnames, hpace⟩ := ((decode_of_parse h).2 ▸ c.validate_validates).of_ok
  refine ⟨c.target_resolves name, fun t ht => ?_,
    fun hlisted => exists_target_of_listed (hnames name hlisted) hlisted⟩
  have hpositive : c.pollIntervalMs.toNat ≠ 0 := fun hzero => hpace (UInt64.toNat_inj.mp hzero)
  rw [pollInterval_of_target ht, Duration.ofMilliseconds]
  show 1000000 ≤ c.pollIntervalMs.toNat * 1000000
  omega

/-- One network is listed; the other known one is not, and a name with a capital is not known. -/
theorem parse_lone_kvtool :
    let c : Config := ⟨NameTable.empty.insert "kvtool" ⟨2, Defaults.rpcUrl, .node⟩, .builtIn,
      Defaults.receiptTimeoutSeconds, Defaults.pollIntervalMilliseconds⟩
    parse c.toJson.text = .ok c ∧
      c.target "kvtool" = .ok ⟨.kvtool, 2, Defaults.rpcUrl, .node, .ofMilliseconds 500⟩ ∧
      c.target "hardhat" = .error (.networkNotConfigured "hardhat") ∧
      c.target "Kvtool" = .error (.unknownNetwork "Kvtool") := by
  intro c
  have hparse : parse c.toJson.text = .ok c := by
    rw [parse_of_decode_ok c.decode_text]
    rfl
  obtain ⟨-, -, hresolves⟩ := parse_checks_and_resolves c.toJson.text
  refine ⟨hparse, ?_, ?_, ?_⟩
  · exact (hresolves c hparse "kvtool").1.listed .kvtool _ rfl (List.mem_singleton_self _)
  · have hlisted : "hardhat" ∉ c.networks.names := by
      show "hardhat" ∉ ["kvtool"]
      simp
    exact (hresolves c hparse "hardhat").1.unlisted.mpr ⟨⟨.hardhat, rfl⟩, hlisted⟩
  · have hname : ¬ IsName "Kvtool" := by
      rintro ⟨k, hk⟩
      cases k <;> simp [KnownNetwork.name] at hk
    exact (hresolves c hparse "Kvtool").1.unknown.mpr hname

end Config

end Devnet
