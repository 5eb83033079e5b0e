import Devnet.Proofs.Rpc.ConnectOrder

namespace Devnet.Rpc

variable {ν : Type}

/-- Asked for the chain id, the node always answers with this number. -/
def Node.Reports (node : Node ν) (n : Word256) : Prop :=
  ∀ m, ∃ body after, node.deliver .chainId m = (.answered body, after) ∧
    decodeBody readWord256 body = .ok n

/-- What connecting with keys comes to where the node reports `n`. -/
inductive ConnectsReported (target : Target) (ring : Keyring) (n : Word256) :
    Except ConnectFault Network → Prop where
  | malformed {f : Url.Fault} (malformed : Url.parse target.rpcUrl = .error f) :
      ConnectsReported target ring n (.error (.check (.clientSetup f.message)))
  /-- The first key cannot ask over such a URL. -/
  | barred {url : Url} (parsed : Url.parse target.rpcUrl = .ok url) (keyed : ring ≠ [])
      (barred : ¬ url.CarriesRequests) :
      ConnectsReported target ring n (.error (.check (.clientSetup (barredFault url).message)))
  | unasked {url : Url} (parsed : Url.parse target.rpcUrl = .ok url) (unkeyed : ring = []) :
      ConnectsReported target ring n (.ok ⟨url, .keys []⟩)
  | connected {url : Url} {chainId : UInt64} (parsed : Url.parse target.rpcUrl = .ok url)
      (keyed : ring ≠ []) (carried : url.CarriesRequests) (fits : chainId.toNat = n.toNat) :
      ConnectsReported target ring n (.ok ⟨url, .keys (ring.map fun key => ⟨key, chainId⟩)⟩)
  | stopped {url : Url} (parsed : Url.parse target.rpcUrl = .ok url) (keyed : ring ≠ [])
      (carried : url.CarriesRequests) (beyond : 2 ^ 64 ≤ n.toNat) :
      ConnectsReported target ring n (.error .oversizedChainId)

section

variable {target : Target} {ring : Keyring} {n : Word256} {r : Except ConnectFault Network}

theorem ConnectsReported.stops_iff (h : ConnectsReported target ring n r) :
    r = .error .oversizedChainId ↔
      ring ≠ [] ∧ 2 ^ 64 ≤ n.toNat ∧
        ∃ url, Url.parse target.rpcUrl = .ok url ∧ url.CarriesRequests := by
  constructor
  · rintro rfl
    cases h with
    | stopped parsed keyed carried beyond => exact ⟨keyed, beyond, _, parsed, carried⟩
  · rintro ⟨hkeyed, hbeyond, url, hparsed, hcarried⟩
    cases h with
    | stopped => rfl
    | malformed malformed =>
      rw [malformed] at hparsed
      cases hparsed
    | barred parsed keyed barred =>
      rw [parsed] at hparsed
      cases hparsed
      exact absurd hcarried barred
    | unasked parsed unkeyed => exact absurd unkeyed hkeyed
    | @connected _ chainId parsed keyed carried fits =>
      have hlt := chainId.toNat_lt
      omega

theorem ConnectsReported.succeeds_iff (h : ConnectsReported target ring n r) :
    (∃ net, r = .ok net) ↔
      ∃ url, Url.parse target.rpcUrl = .ok url ∧
        (ring ≠ [] → url.CarriesRequests ∧ n.toNat < 2 ^ 64) := by
  constructor
  · rintro ⟨net, rfl⟩
    cases h with
    | unasked parsed unkeyed => exact ⟨_, parsed, fun hkeyed => absurd unkeyed hkeyed⟩
    | @connected _ chainId parsed keyed carried fits =>
      refine ⟨_, parsed, fun _ => ⟨carried, ?_⟩⟩
      rw [← fits]
      exact chainId.toNat_lt
  · rintro ⟨url, hparsed, hasks⟩
    cases h with
    | unasked | connected => exact ⟨_, rfl⟩
    | malformed malformed =>
      rw [malformed] at hparsed
      cases hparsed
    | barred parsed keyed barred =>
      rw [parsed] at hparsed
      cases hparsed
      exact absurd (hasks keyed).1 barred
    | stopped parsed keyed carried beyond =>
      exact absurd (hasks keyed).2 (Nat.not_lt.mpr beyond)

end

/-- What becomes of an answer to the question for the chain id: it is given if it fits. -/
theorem Network.chainId_of_ask {node : Node ν} {net : Network} {n : Word256} {a b : Link ν}
    (hask : (net.ask node .chainId readWord256).run a = (.ok n, b)) :
    (∃ c, ((net.chainId node).run a).1 = .ok c ∧ c.toNat = n.toNat) ∨
      2 ^ 64 ≤ n.toNat ∧ ∃ words, ((net.chainId node).run a).1 = .error (.rpcCall words) := by
  unfold Network.chainId
  rw [run_bind_of_ok hask]
  cases hnarrow : narrow? n with
  | some c => exact .inl ⟨c, rfl, toNat_of_narrow hnarrow⟩
  | none => exact .inr ⟨size_le_of_narrow hnarrow, _, rfl⟩

section Reported

variable {node : Node ν} {url : Url} {n : Word256}

theorem ask_reported {δ : Type} (hurl : url.CarriesRequests) (h : node.Reports n)
    (wrap : Fault → δ) (a : Link ν) :
    ∃ b, ((call node url .chainId readWord256).orElse wrap).run a = (.ok n, b) := by
  obtain ⟨body, m, hdeliver, hbody⟩ := h a.memory
  exact ⟨_, ask_answered hurl hdeliver hbody wrap⟩

theorem setUpSigner_fits (hurl : url.CarriesRequests) (h : node.Reports n) {c : UInt64}
    (hnarrow : narrow? n = some c) (key : PrivateKey) (a : Link ν) :
    ∃ b, (setUpSigner node url key).run a = (.ok ⟨key, c⟩, b) := by
  obtain ⟨b, hask⟩ := ask_reported hurl h (fun f => ConnectFault.check (.clientSetup f.message)) a
  refine ⟨b, ?_⟩
  rw [setUpSigner, run_bind_of_ok hask, hnarrow]
  rfl

theorem setUpSigner_beyond (hurl : url.CarriesRequests) (h : node.Reports n)
    (hnarrow : narrow? n = none) (key : PrivateKey) (a : Link ν) :
    ∃ b, (setUpSigner node url key).run a = (.error .oversizedChainId, b) := by
  obtain ⟨b, hask⟩ := ask_reported hurl h (fun f => ConnectFault.check (.clientSetup f.message)) a
  refine ⟨b, ?_⟩
  rw [setUpSigner, run_bind_of_ok hask, hnarrow]
  rfl

theorem setUpSigners_fit (hurl : url.CarriesRequests) (h : node.Reports n) {c : UInt64}
    (hnarrow : narrow? n = some c) (ring : Keyring) (a : Link ν) :
    ∃ b, (ring.mapM (setUpSigner node url)).run a = (.ok (ring.map fun key => ⟨key, c⟩), b) := by
  induction ring generalizing a with
  | nil => exact ⟨a, rfl⟩
  | cons key ring ih =>
    obtain ⟨b, hkey⟩ := setUpSigner_fits hurl h hnarrow key a
    obtain ⟨d, hring⟩ := ih b
    refine ⟨d, ?_⟩
    rw [List.mapM_cons, run_bind_of_ok hkey, run_bind_of_ok hring]
    rfl

/-- Already the first key stops the program. -/
theorem setUpSigners_beyond (hurl : url.CarriesRequests) (h : node.Reports n)
    (hnarrow : narrow? n = none) {ring : Keyring} (hring : ring ≠ []) (a : Link ν) :
    ∃ b, (ring.mapM (setUpSigner node url)).run a = (.error .oversizedChainId, b) := by
  cases ring with
  | nil => exact absurd rfl hring
  | cons key ring =>
    obtain ⟨b, hkey⟩ := setUpSigner_beyond hurl h hnarrow key a
    refine ⟨b, ?_⟩
    rw [List.mapM_cons, run_bind_of_error hkey]

theorem connect_connectsReported (h : node.Reports n) {target : Target} {env : Environment}
    {ring : Keyring} (hkeys : configuredKeys target env = .ok (some ring)) (a : Link ν) :
    ConnectsReported target ring n ((connect node target env).run a).1 := by
  unfold connect configuredUrl
  cases hparse : Url.parse target.rpcUrl with
  | error f => exact .malformed hparse
  | ok url =>
    rw [hkeys]
    dsimp only [Except.mapError]
    by_cases hring : ring = []
    · subst hring
      exact .unasked hparse rfl
    · by_cases hurl : url.CarriesRequests
      · cases hnarrow : narrow? n with
        | some c =>
          obtain ⟨b, hsigners⟩ := setUpSigners_fit hurl h hnarrow ring a
          rw [run_bind_of_ok hsigners]
          exact .connected hparse hring hurl (toNat_of_narrow hnarrow)
        | none =>
          obtain ⟨b, hsigners⟩ := setUpSigners_beyond hurl h hnarrow hring a
          rw [run_bind_of_error hsigners]
          exact .stopped hparse hring hurl (size_le_of_narrow hnarrow)
      · rw [run_bind_of_error (setUpSigners_barred hurl node hring a)]
        exact .barred hparse hring hurl

theorem Network.chainId_fits {net : Network} (hurl : net.url.CarriesRequests) (h : node.Reports n)
    (hlt : n.toNat < 2 ^ 64) (a : Link ν) :
    ∃ c, ((net.chainId node).run a).1 = .ok c ∧ c.toNat = n.toNat := by
  obtain ⟨b, hask⟩ := ask_reported hurl h (fun f => CheckError.rpcCall f.message) a
  rcases Network.chainId_of_ask hask with hfits | ⟨hle, -⟩
  · exact hfits
  · exact absurd hlt (Nat.not_lt.mpr hle)

theorem Network.chainId_beyond {net : Network} (hurl : net.url.CarriesRequests)
    (h : node.Reports n) (hle : 2 ^ 64 ≤ n.toNat) (a : Link ν) :
    ∃ words, ((net.chainId node).run a).1 = .error (.rpcCall words) := by
  obtain ⟨b, hask⟩ := ask_reported hurl h (fun f => CheckError.rpcCall f.message) a
  rcases Network.chainId_of_ask hask with ⟨c, -, hc⟩ | ⟨-, hfails⟩
  · have hlt := c.toNat_lt
    omega
  · exact hfails

/-- With keys that can all be read and a node that reports `n`: connecting stops the program just
if there is a key to ask with and `n` is beyond 64 bits, and succeeds just if `n` fits or no key
asks; asked by a check, the same answer is the chain id or a failed call. -/
theorem connect_reported (h : node.Reports n) {target : Target} {env : Environment}
    {ring : Keyring} (hkeys : configuredKeys target env = .ok (some ring)) (a : Link ν) :
    (((connect node target env).run a).1 = .error .oversizedChainId ↔
      ring ≠ [] ∧ 2 ^ 64 ≤ n.toNat ∧
        ∃ url, Url.parse target.rpcUrl = .ok url ∧ url.CarriesRequests) ∧
    ((∃ net, ((connect node target env).run a).1 = .ok net) ↔
      ∃ url, Url.parse target.rpcUrl = .ok url ∧
        (ring ≠ [] → url.CarriesRequests ∧ n.toNat < 2 ^ 64)) ∧
    ∀ net : Network, net.url.CarriesRequests →
      (n.toNat < 2 ^ 64 → ∃ c, ((net.chainId node).run a).1 = .ok c ∧ c.toNat = n.toNat) ∧
      (2 ^ 64 ≤ n.toNat → ∃ words, ((net.chainId node).run a).1 = .error (.rpcCall words)) := by
  have hconnects := connect_connectsReported h hkeys a
  exact ⟨hconnects.stops_iff, hconnects.succeeds_iff, fun net hurl =>
    ⟨fun hlt => Network.chainId_fits hurl h hlt a, fun hle => Network.chainId_beyond hurl h hle a⟩⟩

end Reported

/-- The highest number of 64 bits, as the answer to every question. -/
def widestBody : String := "\x7b\"jsonrpc\":\"2.0\",\"id\":1,\"result\":\"0xffffffffffffffff\"\x7d"

/-- The lowest number beyond 64 bits. -/
def tooWideBody : String :=
  "\x7b\"jsonrpc\":\"2.0\",\"id\":1,\"result\":\"0x10000000000000000\"\x7d"

theorem reports_of_constant {body : String} {n : Word256}
    (h : decodeBody readWord256 body = .ok n) : (Node.constant body : Node ν).Reports n :=
  fun m => ⟨body, m, rfl, h⟩

theorem parse_keyTarget : Url.parse keyTarget.rpcUrl = .ok localUrl := by decide +kernel

/-- The highest chain id that fits is signed for. -/
theorem connect_widest :
    (Node.constant widestBody : Node Unit).Reports 18446744073709551615 ∧
    configuredKeys keyTarget ⟨[]⟩ = .ok (some [leastKey]) ∧
    ∃ net, ((connect (Node.constant widestBody) keyTarget ⟨[]⟩).run (⟨(), #[]⟩ : Link Unit)).1 =
      .ok net := by
  have hbody : decodeBody readWord256 widestBody = .ok 18446744073709551615 := by cbv
  have hkeys := configuredKeys_keyTarget
  have hreports : (Node.constant widestBody : Node Unit).Reports 18446744073709551615 :=
    reports_of_constant hbody
  refine ⟨hreports, hkeys, (connect_reported hreports hkeys ⟨(), #[]⟩).2.1.mpr ?_⟩
  exact ⟨localUrl, parse_keyTarget, fun _ => ⟨localUrl_carriesRequests, by decide⟩⟩

/-- With the next number connecting stops the program, where a check reports a failed call. -/
theorem connect_tooWide :
    decodeBody readWord256 tooWideBody = .ok 18446744073709551616 ∧
    configuredKeys keyTarget ⟨[]⟩ = .ok (some [leastKey]) ∧
    ((connect (Node.constant tooWideBody) keyTarget ⟨[]⟩).run (⟨(), #[]⟩ : Link Unit)).1 =
      .error .oversizedChainId ∧
    ∃ words, (((⟨localUrl, .node⟩ : Network).chainId (Node.constant tooWideBody)).run
      (⟨(), #[]⟩ : Link Unit)).1 = .error (.rpcCall words) := by
  have hbody : decodeBody readWord256 tooWideBody = .ok 18446744073709551616 := by cbv
  have hkeys := configuredKeys_keyTarget
  have hreports : (Node.constant tooWideBody : Node Unit).Reports 18446744073709551616 :=
    reports_of_constant hbody
  have hconnects := connect_connectsReported hreports hkeys ⟨(), #[]⟩
  have hurl : (⟨localUrl, .node⟩ : Network).url.CarriesRequests := localUrl_carriesRequests
  refine ⟨hbody, hkeys, hconnects.stops_iff.mpr ?_, ?_⟩
  · exact ⟨List.cons_ne_nil leastKey [], by decide, localUrl, parse_keyTarget,
      localUrl_carriesRequests⟩
  · exact Network.chainId_beyond hurl hreports (by decide) ⟨(), #[]⟩

end Devnet.Rpc
