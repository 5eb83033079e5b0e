import Devnet.Proofs.Results
import Devnet.Proofs.Rpc.SubmittedTransfer

namespace Devnet

namespace Rpc

/-- The texts of the keys in a source, or the first of its variables that does not hold text. -/
inductive TextsRead (env : Environment) :
    AccountSource → Except CheckError (Option (List String)) → Prop where
  | node : TextsRead env .node (.ok none)
  | listed (texts : List String) : TextsRead env (.keys texts) (.ok (some texts))
  | held {names texts : List String}
      (held : List.Forall₂ (fun name text => env.text? name = some text) names texts) :
      TextsRead env (.env names) (.ok (some texts))
  | unset {before after : List String} {name : String}
      (held : ∀ n ∈ before, ∃ text, env.text? n = some text) (unset : env.text? name = none) :
      TextsRead env (.env (before ++ name :: after)) (.error (.missingPrivateKey name))

/-- The keys of a source, which are read when all their texts are there, or the fault of the first
text that is no key. -/
inductive KeysRead (env : Environment) (source : AccountSource) :
    Except CheckError (Option Keyring) → Prop where
  | noTexts {e : CheckError} (read : TextsRead env source (.error e)) :
      KeysRead env source (.error e)
  | node (read : TextsRead env source (.ok none)) : KeysRead env source (.ok none)
  | invalid {before after : List String} {text : String} {fault : KeyFault}
      (read : TextsRead env source (.ok (some (before ++ text :: after))))
      (valid : ∀ t ∈ before, ∃ key, PrivateKey.parse t = .ok key)
      (invalid : PrivateKey.parse text = .error fault) :
      KeysRead env source (.error (.invalidPrivateKey fault.message))
  | keys {texts : List String} {ring : Keyring}
      (read : TextsRead env source (.ok (some texts)))
      (valid : List.Forall₂ (fun text key => PrivateKey.parse text = .ok key) texts ring) :
      KeysRead env source (.ok (some ring))

/-- A question for the chain id that sets no signer up. -/
inductive ChainRefused (url : Url) : Sent → ConnectFault → Prop where
  | lost (reason : String) :
      ChainRefused url ⟨.chainId, .lost reason⟩
        (.check (.clientSetup (Fault.unreachable url.requested.text reason).message))
  | undecodable {body : String} {f : Fault} (undecodable : decodeBody readWord256 body = .error f) :
      ChainRefused url ⟨.chainId, .answered body⟩ (.check (.clientSetup f.message))
  | oversized {body : String} {n : Word256} (reported : decodeBody readWord256 body = .ok n)
      (beyond : UInt64.size ≤ n.toNat) :
      ChainRefused url ⟨.chainId, .answered body⟩ .oversizedChainId

/-- The keys ask for the chain id in their order, up to the first that is refused. -/
inductive RingAsked (url : Url) :
    Keyring → List Sent → Except ConnectFault (List Signer) → Prop where
  | answered {ring : Keyring} {sent : List Sent} {signers : List Signer}
      (setUp : SetUp ring sent signers) : RingAsked url ring sent (.ok signers)
  | refused {earlier later : Keyring} {key : PrivateKey} {sent : List Sent}
      {signers : List Signer} {last : Sent} {e : ConnectFault}
      (setUp : SetUp earlier sent signers) (refused : ChainRefused url last e) :
      RingAsked url (earlier ++ key :: later) (sent ++ [last]) (.error e)

/-- What connecting sends, and what comes of it. -/
inductive Connects (target : Target) (env : Environment) :
    List Sent → Except ConnectFault Network → Prop where
  | malformed {f : Url.Fault} (malformed : Url.parse target.rpcUrl = .error f) :
      Connects target env [] (.error (.check (.clientSetup f.message)))
  | noKeys {url : Url} {e : CheckError} (parsed : Url.parse target.rpcUrl = .ok url)
      (read : KeysRead env target.accounts (.error e)) :
      Connects target env [] (.error (.check e))
  | node {url : Url} (parsed : Url.parse target.rpcUrl = .ok url)
      (read : KeysRead env target.accounts (.ok none)) : Connects target env [] (.ok ⟨url, .node⟩)
  /-- The first key cannot ask over such a URL. -/
  | barred {url : Url} {ring : Keyring} (parsed : Url.parse target.rpcUrl = .ok url)
      (read : KeysRead env target.accounts (.ok (some ring))) (keyed : ring ≠ [])
      (barred : ¬ url.CarriesRequests) :
      Connects target env [] (.error (.check (.clientSetup (barredFault url).message)))
  | asked {url : Url} {ring : Keyring} {sent : List Sent} {r : Except ConnectFault (List Signer)}
      (parsed : Url.parse target.rpcUrl = .ok url)
      (read : KeysRead env target.accounts (.ok (some ring)))
      (carried : ring ≠ [] → url.CarriesRequests) (asked : RingAsked url ring sent r) :
      Connects target env sent (r.map fun signers => ⟨url, .keys signers⟩)

/-- The text that a variable holds, as it is read for a key. -/
def heldText (env : Environment) (name : String) : Except CheckError String :=
  match env.text? name with
  | some text => .ok text
  | none => .error (.missingPrivateKey name)

theorem heldText_eq_ok {env : Environment} {name text : String}
    (h : heldText env name = .ok text) : env.text? name = some text := by
  unfold heldText at h
  cases hname : env.text? name with
  | none =>
    rw [hname] at h
    cases h
  | some held =>
    rw [hname] at h
    cases h
    rfl

theorem heldText_eq_error {env : Environment} {name : String} {e : CheckError}
    (h : heldText env name = .error e) : env.text? name = none ∧ e = .missingPrivateKey name := by
  unfold heldText at h
  cases hname : env.text? name with
  | none =>
    rw [hname] at h
    cases h
    exact ⟨rfl, rfl⟩
  | some held =>
    rw [hname] at h
    cases h

theorem privateKeys_env (env : Environment) (names : List String) :
    AccountSource.privateKeys env (.env names) = (names.mapM (heldText env)).map some := by
  unfold AccountSource.privateKeys
  change (names.mapM (heldText env) >>= fun texts => pure (some texts)) = _
  cases names.mapM (heldText env) <;> rfl

theorem privateKeys_read (env : Environment) (source : AccountSource) :
    TextsRead env source (source.privateKeys env) := by
  cases source with
  | node => exact .node
  | keys texts => exact .listed texts
  | env names =>
    rw [privateKeys_env]
    cases hnames : names.mapM (heldText env) with
    | ok texts =>
      have hheld := (mapM_eq_ok_iff.mp hnames).imp fun _ _ h => heldText_eq_ok h
      exact .held hheld
    | error e =>
      obtain ⟨before, name, after, rfl, hbefore, hname⟩ := mapM_eq_error_iff.mp hnames
      obtain ⟨hunset, rfl⟩ := heldText_eq_error hname
      refine .unset (fun n hn => ?_) hunset
      obtain ⟨text, htext⟩ := hbefore n hn
      exact ⟨text, heldText_eq_ok htext⟩

theorem readKey_eq_ok {text : String} {key : PrivateKey} (h : Keyring.readKey text = .ok key) :
    PrivateKey.parse text = .ok key := by
  unfold Keyring.readKey at h
  cases hkey : PrivateKey.parse text with
  | error fault =>
    rw [hkey] at h
    cases h
  | ok k =>
    rw [hkey] at h
    cases h
    rfl

theorem readKey_eq_error {text : String} {e : CheckError} (h : Keyring.readKey text = .error e) :
    ∃ fault, PrivateKey.parse text = .error fault ∧ e = .invalidPrivateKey fault.message := by
  unfold Keyring.readKey at h
  cases hkey : PrivateKey.parse text with
  | error fault =>
    rw [hkey] at h
    cases h
    exact ⟨fault, rfl, rfl⟩
  | ok k =>
    rw [hkey] at h
    cases h

theorem configuredKeys_read (target : Target) (env : Environment) :
    KeysRead env target.accounts (configuredKeys target env) := by
  have hread := privateKeys_read env target.accounts
  unfold configuredKeys
  cases htexts : target.accounts.privateKeys env with
  | error e =>
    rw [htexts] at hread
    exact .noTexts hread
  | ok held =>
    rw [htexts] at hread
    cases held with
    | none => exact .node hread
    | some texts =>
      change KeysRead env target.accounts (Keyring.ofTexts texts >>= fun ring => pure (some ring))
      cases hring : Keyring.ofTexts texts with
      | ok ring =>
        have hvalid := (mapM_eq_ok_iff.mp hring).imp fun _ _ h => readKey_eq_ok h
        exact .keys hread hvalid
      | error e =>
        obtain ⟨before, text, after, rfl, hbefore, htext⟩ := mapM_eq_error_iff.mp hring
        obtain ⟨fault, hinvalid, rfl⟩ := readKey_eq_error htext
        refine .invalid hread (fun t ht => ?_) hinvalid
        obtain ⟨key, hkey⟩ := hbefore t ht
        exact ⟨key, readKey_eq_ok hkey⟩

variable {ν : Type}

/-- The question for the chain id, with the answer or the fault that it comes to. -/
inductive ChainAsked (url : Url) : List Sent → Except ConnectFault Word256 → Prop where
  | reported {body : String} {n : Word256} (reported : decodeBody readWord256 body = .ok n) :
      ChainAsked url [⟨.chainId, .answered body⟩] (.ok n)
  | refused {last : Sent} {e : ConnectFault} (refused : ChainRefused url last e) :
      ChainAsked url [last] (.error e)

theorem call_chainAsked {url : Url} (h : url.CarriesRequests) (node : Node ν) :
    ((call node url .chainId readWord256).orElse
      fun f => ConnectFault.check (.clientSetup f.message)).Satisfies node (ChainAsked url) := by
  intro a
  unfold Exchange.orElse
  rw [ExceptT.run_mk, call_carried h]
  rcases hdeliver : node.deliver .chainId a.memory with ⟨body | reason, m⟩
  · refine ⟨_, .answered hdeliver, ?_⟩
    dsimp only
    cases hbody : decodeBody readWord256 body with
    | error f => exact .refused (.undecodable hbody)
    | ok n => exact .reported hbody
  · exact ⟨_, .lost hdeliver, .refused (.lost reason)⟩

theorem size_le_of_narrow {n : Word256} (h : narrow? n = none) : UInt64.size ≤ n.toNat := by
  unfold narrow? at h
  split at h
  · cases h
  · exact Nat.not_lt.mp ‹_›

/-- A key asks once for the chain id, and is set up or refused. -/
inductive KeyAsked (url : Url) (key : PrivateKey) :
    List Sent → Except ConnectFault Signer → Prop where
  | answered {last : Sent} {s : Signer} (setUp : SetUp [key] [last] [s]) :
      KeyAsked url key [last] (.ok s)
  | refused {last : Sent} {e : ConnectFault} (refused : ChainRefused url last e) :
      KeyAsked url key [last] (.error e)

theorem setUpSigner_keyAsked {url : Url} (h : url.CarriesRequests) (node : Node ν)
    (key : PrivateKey) : (setUpSigner node url key).Satisfies node (KeyAsked url key) := by
  refine (call_chainAsked h node).bind
    (R := fun n sent r => sent = [] ∧
      (r = .error .oversizedChainId ∧ UInt64.size ≤ n.toNat ∨
        ∃ chainId, r = .ok ⟨key, chainId⟩ ∧ chainId.toNat = n.toNat))
    (fun n => ?_) (fun sent e asked => ?_) fun before n after r asked hR => ?_
  · cases hnarrow : narrow? n with
    | none =>
      have hbeyond := size_le_of_narrow hnarrow
      exact Exchange.satisfies_throw ⟨rfl, .inl ⟨rfl, hbeyond⟩⟩
    | some chainId =>
      have hchain := toNat_of_narrow hnarrow
      exact Exchange.satisfies_pure ⟨rfl, .inr ⟨chainId, rfl, hchain⟩⟩
  · cases asked with
    | refused refused => exact .refused refused
  · obtain ⟨rfl, ⟨rfl, beyond⟩ | ⟨chainId, rfl, chain⟩⟩ := hR
    · cases asked with
      | reported reported => exact .refused (.oversized reported beyond)
    · cases asked with
      | reported reported => exact .answered (.key reported rfl chain .done)

theorem SetUp.cons {key : PrivateKey} {first : Sent} {s : Signer} {ring : Keyring}
    {sent : List Sent} {signers : List Signer} (h : SetUp [key] [first] [s])
    (rest : SetUp ring sent signers) : SetUp (key :: ring) (first :: sent) (s :: signers) := by
  cases h with
  | key reported owner chain _ => exact .key reported owner chain rest

theorem RingAsked.cons {url : Url} {key : PrivateKey} {first : Sent} {s : Signer}
    {ring : Keyring} {sent : List Sent} {r : Except ConnectFault (List Signer)}
    (h : SetUp [key] [first] [s]) (rest : RingAsked url ring sent r) :
    RingAsked url (key :: ring) (first :: sent) (r.map (s :: ·)) := by
  cases rest with
  | answered setUp => exact .answered (h.cons setUp)
  | refused setUp refused => exact .refused (h.cons setUp) refused

theorem setUpSigners_ringAsked {url : Url} (node : Node ν) (ring : Keyring)
    (h : ring ≠ [] → url.CarriesRequests) :
    (ring.mapM (setUpSigner node url)).Satisfies node (RingAsked url ring) := by
  induction ring with
  | nil => exact Exchange.satisfies_pure (.answered .done)
  | cons key ring ih =>
    have hcarried := h (List.cons_ne_nil key ring)
    have hrest := ih fun _ => hcarried
    rw [List.mapM_cons]
    refine (setUpSigner_keyAsked hcarried node key).bind
      (R := fun s sent r => ∃ rest, r = rest.map (s :: ·) ∧ RingAsked url ring sent rest)
      (fun s => ?_) (fun sent e asked => ?_) fun before s after r asked hR => ?_
    · apply hrest.map
      intro sent r asked
      exact ⟨r, rfl, asked⟩
    · cases asked with
      | @refused last e refused =>
        have hfirst : RingAsked url ([] ++ key :: ring) ([] ++ [last]) (.error e) :=
          .refused .done refused
        exact hfirst
    · cases asked with
      | answered setUp =>
        obtain ⟨rest, rfl, hrest⟩ := hR
        exact .cons setUp hrest

/-- Over a URL that cannot carry requests not even the first key asks. -/
theorem setUpSigners_barred {url : Url} (h : ¬ url.CarriesRequests) (node : Node ν)
    {ring : Keyring} (hring : ring ≠ []) (a : Link ν) :
    (ring.mapM (setUpSigner node url)).run a =
      (.error (.check (.clientSetup (barredFault url).message)), a) := by
  cases ring with
  | nil => exact absurd rfl hring
  | cons key ring =>
    have hask : ((call node url .chainId readWord256).orElse
        fun f => ConnectFault.check (.clientSetup f.message)).run a =
          (.error (.check (.clientSetup (barredFault url).message)), a) := by
      unfold Exchange.orElse
      rw [ExceptT.run_mk, call_barred h]
      rfl
    have hsigner : (setUpSigner node url key).run a =
        (.error (.check (.clientSetup (barredFault url).message)), a) := by
      rw [setUpSigner, run_bind_of_error hask]
    rw [List.mapM_cons, run_bind_of_error hsigner]

/-- For every target, environment and node: connecting reads the URL, then the texts of the keys,
then the keys, and only then asks for the chain id on behalf of one key after the other, up to the
first that is refused. -/
theorem connect_connects (node : Node ν) (target : Target) (env : Environment) :
    (connect node target env).Satisfies node (Connects target env) := by
  have hread := configuredKeys_read target env
  unfold connect configuredUrl
  cases hurl : Url.parse target.rpcUrl with
  | error f => exact Exchange.satisfies_throw (.malformed hurl)
  | ok url =>
    cases hkeys : configuredKeys target env with
    | error e =>
      rw [hkeys] at hread
      exact Exchange.satisfies_throw (.noKeys hurl hread)
    | ok ring =>
      rw [hkeys] at hread
      cases ring with
      | none => exact Exchange.satisfies_pure (.node hurl hread)
      | some ring =>
        by_cases hcarried : ring ≠ [] → url.CarriesRequests
        · apply (setUpSigners_ringAsked node ring hcarried).map
          intro sent r asked
          exact .asked hurl hread hcarried asked
        · obtain ⟨hring, hbarred⟩ := Classical.not_imp.mp hcarried
          intro a
          refine ⟨[], ?_⟩
          dsimp only [Except.mapError]
          rw [run_bind_of_error (setUpSigners_barred hbarred node hring a)]
          exact ⟨.nothing a, .barred hurl hread hring hbarred⟩

def socketUrl : Url := ⟨"ws".toList, .none, some "127.0.0.1".toList, none, "/".toList, none, none⟩

/-- The first network with one key to sign with, behind a URL that is not for requests. -/
def socketTarget : Target := { keyTarget with rpcUrl := "ws://127.0.0.1/" }

/-- The URL and the key are read and the node would answer, yet connecting fails and asks for
nothing; where the node signs it does not fail. -/
theorem connect_socketTarget :
    Url.parse socketTarget.rpcUrl = .ok socketUrl ∧
    configuredKeys socketTarget ⟨[]⟩ = .ok (some [leastKey]) ∧
    decodeBody readWord256 chainBody = .ok 31337 ∧
    (connect (Node.constant chainBody) socketTarget ⟨[]⟩).run (⟨(), #[]⟩ : Link Unit) =
      (.error (.check (.clientSetup
        "builder error for url (ws://127.0.0.1/): URL scheme is not allowed")), ⟨(), #[]⟩) ∧
    (connect (Node.constant chainBody) { socketTarget with accounts := .node } ⟨[]⟩).run
      (⟨(), #[]⟩ : Link Unit) = (.ok ⟨socketUrl, .node⟩, ⟨(), #[]⟩) := by
  have hparse : Url.parse socketTarget.rpcUrl = .ok socketUrl := by decide +kernel
  have hkeys : configuredKeys socketTarget ⟨[]⟩ = .ok (some [leastKey]) := rfl
  have hscheme : socketUrl.requested.hasRequests = false := by decide +kernel
  have hbarred : ¬ socketUrl.CarriesRequests := by
    intro h
    have hrequests := h.1
    rw [hscheme] at hrequests
    cases hrequests
  have hwords : (barredFault socketUrl).message =
      "builder error for url (ws://127.0.0.1/): URL scheme is not allowed" := by decide +kernel
  have hsigners := setUpSigners_barred hbarred (Node.constant chainBody)
    (List.cons_ne_nil leastKey []) (⟨(), #[]⟩ : Link Unit)
  have hnode : configuredKeys { socketTarget with accounts := .node } ⟨[]⟩ = .ok none := rfl
  refine ⟨hparse, hkeys, decodeBody_chainBody, ?_, ?_⟩
  · rw [← hwords, connect, configuredUrl, hparse, hkeys]
    exact run_bind_of_error hsigners
  · rw [connect, configuredUrl, hparse, hnode]
    rfl

end Rpc

end Devnet
