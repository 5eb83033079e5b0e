import Devnet.Proofs.Rpc.Exchange
import Mathlib

namespace Devnet.Rpc

variable {ν : Type}

/-- Each key has asked for the chain id, and signs for the one that was answered. -/
inductive SetUp : Keyring → List Sent → List Signer → Prop where
  | done : SetUp [] [] []
  | key {key : PrivateKey} {ring : Keyring} {s : Signer} {signers : List Signer} {body : String}
      {n : Word256} {sent : List Sent} (reported : decodeBody readWord256 body = .ok n)
      (owner : s.key = key) (chain : s.chainId.toNat = n.toNat) (rest : SetUp ring sent signers) :
      SetUp (key :: ring) (⟨.chainId, .answered body⟩ :: sent) (s :: signers)

/-- What connecting has sent for the configured keys, and the signers that it has set up. -/
inductive Connected : Option Keyring → List Sent → Signers → Prop where
  | node : Connected none [] .node
  | keys {ring : Keyring} {sent : List Sent} {signers : List Signer}
      (setUp : SetUp ring sent signers) : Connected (some ring) sent (.keys signers)

theorem SetUp.keys_eq {ring : Keyring} {sent : List Sent} {signers : List Signer}
    (h : SetUp ring sent signers) : signers.map (·.key) = ring := by
  induction h with
  | done => rfl
  | key _ owner _ _ ih => rw [List.map_cons, owner, ih]

theorem toNat_of_narrow {n : Word256} {c : UInt64} (h : narrow? n = some c) :
    c.toNat = n.toNat := by
  unfold narrow? at h
  split at h
  · rename_i hlt
    cases h
    exact UInt64.toNat_ofNat_of_lt' hlt
  · cases h

theorem setUpSigner_asked (node : Node ν) (url : Url) (key : PrivateKey) :
    (setUpSigner node url key).Satisfies node fun sent r => ∀ s, r = .ok s →
      ∃ body n, sent = [⟨.chainId, .answered body⟩] ∧ decodeBody readWord256 body = .ok n ∧
        s.key = key ∧ s.chainId.toNat = n.toNat := by
  refine (asked_of_call node url .chainId readWord256
      fun words => ConnectFault.check (.clientSetup words)).bind
    (R := fun n sent (r : Except ConnectFault Signer) => sent = [] ∧
      ∀ s, r = .ok s → s.key = key ∧ s.chainId.toNat = n.toNat)
    (fun n => ?_) (fun sent e asked s hs => by cases hs) fun before n after r asked hR => ?_
  · cases hnarrow : narrow? n with
    | none => exact Exchange.satisfies_throw ⟨rfl, fun s hs => by cases hs⟩
    | some chainId =>
      refine Exchange.satisfies_pure ⟨rfl, fun s hs => ?_⟩
      cases hs
      exact ⟨rfl, toNat_of_narrow hnarrow⟩
  · obtain ⟨rfl, hsigner⟩ := hR
    obtain ⟨body, rfl, reported⟩ := asked.of_ok
    exact fun s hs => ⟨body, n, rfl, reported, hsigner s hs⟩

theorem setUpSigners_setUp (node : Node ν) (url : Url) (ring : Keyring) :
    (ring.mapM (setUpSigner node url)).Satisfies node fun sent r => ∀ signers, r = .ok signers →
      SetUp ring sent signers := by
  induction ring with
  | nil =>
    refine Exchange.satisfies_pure fun signers hsigners => ?_
    cases hsigners
    exact .done
  | cons key ring ih =>
    rw [List.mapM_cons]
    refine (setUpSigner_asked node url key).bind
      (R := fun s sent r => ∀ signers, r = .ok signers →
        ∃ rest, signers = s :: rest ∧ SetUp ring sent rest)
      (fun s => ?_) (fun sent e _ signers hsigners => by cases hsigners)
      fun before s after r hs hrest signers hsigners => ?_
    · refine ih.bind (R := fun rest sent r => sent = [] ∧ r = .ok (s :: rest))
        (fun rest => Exchange.satisfies_pure ⟨rfl, rfl⟩)
        (fun sent e _ signers hsigners => by cases hsigners)
        fun before rest after r hset hpure signers hsigners => ?_
      obtain ⟨rfl, rfl⟩ := hpure
      cases hsigners
      rw [List.append_nil]
      exact ⟨rest, rfl, hset rest rfl⟩
    · obtain ⟨body, n, rfl, reported, owner, chain⟩ := hs s rfl
      obtain ⟨rest, rfl, hset⟩ := hrest signers hsigners
      exact .key reported owner chain hset

theorem connect_connected (node : Node ν) (target : Target) (env : Environment) :
    (connect node target env).Satisfies node fun sent r => ∀ net, r = .ok net →
      configuredUrl target = .ok net.url ∧
        ∃ ring, configuredKeys target env = .ok ring ∧ Connected ring sent net.signers := by
  unfold connect
  cases configuredUrl target with
  | error e => exact Exchange.satisfies_throw fun net hnet => by cases hnet
  | ok url =>
    dsimp only
    cases configuredKeys target env with
    | error e => exact Exchange.satisfies_throw fun net hnet => by cases hnet
    | ok ring =>
      cases ring with
      | none =>
        refine Exchange.satisfies_pure fun net hnet => ?_
        cases hnet
        exact ⟨rfl, none, rfl, .node⟩
      | some ring =>
        refine (setUpSigners_setUp node url ring).bind
          (R := fun signers sent r => sent = [] ∧ r = .ok ⟨url, .keys signers⟩)
          (fun signers => Exchange.satisfies_pure ⟨rfl, rfl⟩)
          (fun sent e _ net hnet => by cases hnet)
          fun before signers after r hset hpure net hnet => ?_
        obtain ⟨rfl, rfl⟩ := hpure
        cases hnet
        rw [List.append_nil]
        exact ⟨rfl, some ring, rfl, .keys (hset signers rfl)⟩

/-- A question for the chain id, and no other request. -/
def AsksChainId (sent : List Sent) : Prop := AllRequests (· = .chainId) sent

theorem setUpSigner_asksChainId (node : Node ν) (url : Url) (key : PrivateKey) :
    (setUpSigner node url key).Satisfies node fun sent _ => AsksChainId sent := by
  refine Exchange.allRequests_bind ((asked_of_call node url .chainId readWord256
    fun words => ConnectFault.check (.clientSetup words)).mono fun _ _ asked =>
      asked.allRequests rfl) fun n => ?_
  cases narrow? n with
  | none => exact Exchange.satisfies_throw allRequests_nil
  | some chainId => exact Exchange.satisfies_pure allRequests_nil

theorem setUpSigners_asksChainId (node : Node ν) (url : Url) (ring : Keyring) :
    (ring.mapM (setUpSigner node url)).Satisfies node fun sent _ => AsksChainId sent := by
  induction ring with
  | nil => exact Exchange.satisfies_pure allRequests_nil
  | cons key ring ih =>
    rw [List.mapM_cons]
    exact Exchange.allRequests_bind (setUpSigner_asksChainId node url key) fun _ =>
      Exchange.allRequests_bind ih fun _ => Exchange.satisfies_pure allRequests_nil

/-- Connecting asks for nothing but chain ids, whether it succeeds or not. -/
theorem connect_asksChainId (node : Node ν) (target : Target) (env : Environment) :
    (connect node target env).Satisfies node fun sent _ => AsksChainId sent := by
  unfold connect
  cases configuredUrl target with
  | error e => exact Exchange.satisfies_throw allRequests_nil
  | ok url =>
    dsimp only
    cases configuredKeys target env with
    | error e => exact Exchange.satisfies_throw allRequests_nil
    | ok ring =>
      cases ring with
      | none => exact Exchange.satisfies_pure allRequests_nil
      | some ring =>
        exact Exchange.allRequests_bind (setUpSigners_asksChainId node url ring) fun _ =>
          Exchange.satisfies_pure allRequests_nil

/-- Keys that are all told the same chain id, by a node that its questions leave as it is. -/
theorem setUpSigners_answered {node : Node ν} {url : Url} (hurl : url.CarriesRequests)
    {body : String} (hdeliver : ∀ m, node.deliver .chainId m = (.answered body, m)) {n : Word256}
    (hbody : decodeBody readWord256 body = .ok n) {c : UInt64} (hnarrow : narrow? n = some c)
    (ring : Keyring) (a : Link ν) :
    (ring.mapM (setUpSigner node url)).run a =
      (.ok (ring.map fun key => ⟨key, c⟩),
        ⟨a.memory, a.requests ++ (ring.map fun _ => Request.chainId).toArray⟩) := by
  induction ring generalizing a with
  | nil =>
    rw [List.map_nil, List.map_nil, Array.append_empty]
    rfl
  | cons key ring ih =>
    have hsigner : (setUpSigner node url key).run a =
        (.ok ⟨key, c⟩, ⟨a.memory, a.requests.push .chainId⟩) := by
      rw [setUpSigner, run_bind_of_ok (ask_answered hurl (hdeliver a.memory) hbody _), hnarrow]
      rfl
    rw [List.mapM_cons, run_bind_of_ok hsigner, run_bind_of_ok (ih _),
      List.map_cons, List.map_cons, ← List.push_append_toArray]
    rfl

/-- A node that answers everything with one body. -/
def Node.constant (body : String) : Node ν where
  deliver _ m := (.answered body, m)

def localUrl : Url :=
  ⟨"http".toList, .none, some "127.0.0.1".toList, some 8545, "/".toList, none, none⟩

theorem localUrl_carriesRequests : localUrl.CarriesRequests := by
  constructor <;> decide +kernel

theorem configuredUrl_of_default {target : Target} (h : target.rpcUrl = Defaults.rpcUrl) :
    configuredUrl target = .ok localUrl := by
  have hparse : Url.parse Defaults.rpcUrl = .ok localUrl := by decide +kernel
  rw [configuredUrl, h, hparse]
  rfl

theorem connect_ofNetwork (node : Node ν) (k : KnownNetwork) (env : Environment) (a : Link ν) :
    (connect node (.ofNetwork k) env).run a = (.ok ⟨localUrl, .node⟩, a) := by
  have hurl : configuredUrl (.ofNetwork k) = .ok localUrl := configuredUrl_of_default rfl
  have hkeys : configuredKeys (.ofNetwork k) env = .ok none := rfl
  unfold connect
  rw [hurl, hkeys]
  rfl

/-- A body that answers every question for a number with the chain id of the first network. -/
def chainBody : String := "\x7b\"jsonrpc\":\"2.0\",\"id\":1,\"result\":\"0x7a69\"\x7d"

theorem decodeBody_chainBody : decodeBody readWord256 chainBody = .ok 31337 := by cbv

theorem connect_keys {node : Node ν} (hdeliver : ∀ m, node.deliver .chainId m =
      (.answered chainBody, m)) {target : Target} (hdefault : target.rpcUrl = Defaults.rpcUrl)
    {env : Environment} {ring : Keyring} (hkeys : configuredKeys target env = .ok (some ring))
    (a : Link ν) :
    (connect node target env).run a =
      (.ok ⟨localUrl, .keys (ring.map fun key => ⟨key, 31337⟩)⟩,
        ⟨a.memory, a.requests ++ (ring.map fun _ => Request.chainId).toArray⟩) := by
  have hnarrow : narrow? 31337 = some 31337 := rfl
  unfold connect
  rw [configuredUrl_of_default hdefault, hkeys]
  exact run_bind_of_ok (setUpSigners_answered localUrl_carriesRequests hdeliver
    decodeBody_chainBody hnarrow ring a)

def leastKey : PrivateKey := ⟨1, by decide, by decide⟩

/-- The first network, with one key to sign with. -/
def keyTarget : Target :=
  { Target.ofNetwork .hardhat with
    accounts := .keys ["0x0000000000000000000000000000000000000000000000000000000000000001"] }

theorem configuredKeys_keyTarget : configuredKeys keyTarget ⟨[]⟩ = .ok (some [leastKey]) := rfl

/-- The key, set up for the chain of the network. -/
def leastSigner : Signer := ⟨leastKey, 31337⟩

theorem connect_keyTarget {node : Node ν}
    (hdeliver : ∀ m, node.deliver .chainId m = (.answered chainBody, m)) (a : Link ν) :
    (connect node keyTarget ⟨[]⟩).run a =
      (.ok ⟨localUrl, .keys [leastSigner]⟩, ⟨a.memory, a.requests.push .chainId⟩) :=
  connect_keys hdeliver rfl configuredKeys_keyTarget a

end Devnet.Rpc
