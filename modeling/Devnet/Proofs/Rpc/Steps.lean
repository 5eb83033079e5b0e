import Devnet.Proofs.Conformance
import Devnet.Proofs.Rpc.Submission
import Devnet.Proofs.TransferProtocol

namespace Devnet.Rpc

variable {ν : Type} (node : Node ν) {net : Network}

namespace Network

theorem ask_quiet {α : Type} {request : Request} (h : request.submits = false)
    (reader : (depth : Nat) → Json.Doc → Except Json.Complaint α) :
    (net.ask node request reader).Satisfies node fun sent _ => Quiet sent :=
  (net.ask_asked node request reader).mono fun _ _ hasked => hasked.quiet h

theorem walletAccounts_quiet :
    (net.walletAccounts node).Satisfies node fun sent _ => Quiet sent := by
  unfold walletAccounts
  split
  · exact ask_quiet node rfl (readList readAddress)
  · exact Exchange.satisfies_pure quiet_nil

theorem chainId_quiet : (net.chainId node).Satisfies node fun sent _ => Quiet sent := by
  apply Exchange.quiet_bind (ask_quiet node rfl readWord256)
  intro n
  cases narrow? n with
  | some c => exact Exchange.satisfies_pure quiet_nil
  | none => exact Exchange.satisfies_throw quiet_nil

/-- Only a send submits anything. -/
theorem answer_quiet {q : Query} (h : q.submits = false) :
    (net.answer node q).Satisfies node fun sent _ => Quiet sent := by
  cases q with
  | chainId => exact chainId_quiet node
  | accounts => exact walletAccounts_quiet node
  | send intent => cases h
  | receipt hash => exact ask_quiet node rfl _
  | balance account => exact ask_quiet node rfl _
  | transaction hash => exact ask_quiet node rfl _

theorem hears_quiet {a b : Moment (Link ν)} {calls : List Call}
    (h : (net.client node).Hears a calls b) (hcalls : ∀ c ∈ calls, c.query.submits = false) :
    ∃ sent, a.memory.Sends node sent b.memory ∧ Quiet sent := by
  induction h with
  | nothing a => exact ⟨[], .nothing _, quiet_nil⟩
  | answered q _ _ ih | dropped q _ _ _ ih =>
    obtain ⟨before, hbefore, hquiet⟩ := answer_quiet node (hcalls _ List.mem_cons_self) _
    obtain ⟨after, hafter, hrest⟩ := ih fun c hc => hcalls c (List.mem_cons_of_mem _ hc)
    exact ⟨before ++ after, hbefore.append hafter, hquiet.append hrest⟩

theorem hears_send {ring : Option Keyring} (h : net.SignsWith ring) {a b : Moment (Link ν)}
    {start : Nat} {intent : TransferIntent} {r : Except CheckError TxHash} {rest : List Call}
    (hears : (net.client node).Hears a (⟨start, .send intent, some r⟩ :: rest) b) :
    ∃ sent c, a.memory.Sends node sent c.memory ∧ SendProtocol net.url intent ring sent r ∧
      (net.client node).Hears c rest b := by
  obtain ⟨sent, hsends, hprotocol⟩ := sendTransfer_protocol node h intent a.memory
  cases hears with
  | answered _ _ hrest => exact ⟨sent, _, hsends, hprotocol, hrest⟩

end Network

/-- What a transfer check requests over a URL, and what comes of it. -/
inductive CheckProtocol (url : Url) (intent : TransferIntent) (ring : Option Keyring) :
    List Sent → Except CheckError TransferOutcome → Prop where
  | notSent {sent : List Sent} {e : CheckError}
      (send : SendProtocol url intent ring sent (.error e)) :
      CheckProtocol url intent ring sent (.error e)
  | sent {before after : List Sent} {hash : TxHash} {r : Except CheckError TransferOutcome}
      (send : SendProtocol url intent ring before (.ok hash)) (quiet : Quiet after) :
      CheckProtocol url intent ring (before ++ after) r

/-- What a run requests over a URL, and what comes of its transfers: the whale's is first. -/
inductive SuiteProtocol (url : Url) (suite : Suite) (ring : Option Keyring) :
    List Sent → Report → Prop where
  | checks {before whale user : List Sent} {w u : Except CheckError TransferOutcome}
      {identity accounts : Outcome} {network : KnownNetwork} (quiet : Quiet before)
      (first : CheckProtocol url (suite.intent .whale) ring whale w)
      (second : CheckProtocol url (suite.intent .user) ring user u) :
      SuiteProtocol url suite ring (before ++ (whale ++ user))
        ⟨network, [identity, accounts, ⟨"whale transfer", w.map .transfer⟩,
          ⟨"user transfer", u.map .transfer⟩]⟩

section

variable {url : Url} {ring : Option Keyring} {sent : List Sent}

theorem CheckProtocol.length_submissions_le {intent : TransferIntent}
    {r : Except CheckError TransferOutcome} (h : CheckProtocol url intent ring sent r) :
    (submissions sent).length ≤ 1 := by
  cases h with
  | notSent send => exact send.length_submissions_le
  | sent send quiet =>
    rw [submissions_append, quiet.submissions_eq, List.append_nil]
    exact send.length_submissions_le

theorem SuiteProtocol.length_submissions_le {suite : Suite} {report : Report}
    (h : SuiteProtocol url suite ring sent report) : (submissions sent).length ≤ 2 := by
  cases h with
  | checks quiet first second =>
    rw [submissions_append, quiet.submissions_eq, submissions_append, List.nil_append,
      List.length_append]
    exact Nat.add_le_add first.length_submissions_le second.length_submissions_le

end

theorem checkTransfer_checkProtocol {ring : Option Keyring} (h : net.SignsWith ring)
    (intent : TransferIntent) (policy : WaitPolicy) (s : Session (Link ν)) :
    ∃ sent,
      s.memory.Sends node sent
        ((checkTransfer (net.client node) intent policy).run s).2.memory ∧
      CheckProtocol net.url intent ring sent
        ((checkTransfer (net.client node) intent policy).run s).1 := by
  obtain ⟨memory, now, made, hends, hstands⟩ := checkTransfer_ends (net.client node) intent policy s
  rw [hstands.memory]
  obtain ⟨start, result, rest, rfl, hquiet, herror⟩ := hends.protocol.submission
  obtain ⟨before, c, hsends, hsend, hrest⟩ := Network.hears_send node h hends.hears
  cases result with
  | error e =>
    obtain ⟨rfl, hresult⟩ := herror e rfl
    cases hrest
    rw [hresult]
    exact ⟨before, hsends, .notSent hsend⟩
  | ok hash =>
    obtain ⟨after, hafter, hquiet⟩ := Network.hears_quiet node hrest hquiet
    exact ⟨before ++ after, hsends.append hafter, .sent hsend hquiet⟩

theorem checkChainIdentity_asks {σ : Type} (client : Client σ) (target : Target) :
    Action.AsksOnly client (fun q => q.submits = false) (checkChainIdentity client target) := by
  have hask : Action.AsksOnly client (fun q => q.submits = false) (.ask client .chainId) :=
    Action.asksOnly_ask rfl
  exact (Action.asksOnly_lift _).bind fun _ => hask.bind fun _ =>
    (Action.asksOnly_lift _).bind fun _ => (Action.asksOnly_note _).bind fun _ =>
      Action.asksOnly_pure _

theorem checkWalletAccounts_asks {σ : Type} (client : Client σ) (fixture : Fixture) :
    Action.AsksOnly client (fun q => q.submits = false) (checkWalletAccounts client fixture) := by
  have hask : Action.AsksOnly client (fun q => q.submits = false) (.ask client .accounts) :=
    Action.asksOnly_ask rfl
  exact hask.bind fun _ => (Action.asksOnly_lift _).bind fun _ =>
    (Action.asksOnly_note _).bind fun _ => Action.asksOnly_pure _

theorem record_memory {σ α : Type} (name : String) (detail : α → Detail) (check : Action σ α)
    (s : Session σ) :
    ((Suite.record name detail check).run s).2.memory = (check.run s).2.memory :=
  congrArg Moment.memory (Suite.record_run_moment name detail check s)

theorem record_quiet {α : Type} (name : String) (detail : α → Detail)
    {check : Action (Link ν) α}
    (h : Action.AsksOnly (net.client node) (fun q => q.submits = false) check)
    (s : Session (Link ν)) :
    ∃ sent, s.memory.Sends node sent ((Suite.record name detail check).run s).2.memory ∧
      Quiet sent := by
  obtain ⟨calls, hears, hcalls⟩ := h s
  rw [record_memory]
  exact Network.hears_quiet node hears hcalls

theorem record_checkProtocol {ring : Option Keyring} (h : net.SignsWith ring) (name : String)
    (intent : TransferIntent) (policy : WaitPolicy) (s : Session (Link ν)) :
    ∃ sent r,
      s.memory.Sends node sent ((Suite.record name .transfer
        (checkTransfer (net.client node) intent policy)).run s).2.memory ∧
      CheckProtocol net.url intent ring sent r ∧
      ((Suite.record name .transfer
        (checkTransfer (net.client node) intent policy)).run s).1 = ⟨name, r.map .transfer⟩ := by
  obtain ⟨sent, hsends, hprotocol⟩ := checkTransfer_checkProtocol node h intent policy s
  rw [record_memory, Suite.record_run_fst]
  exact ⟨sent, _, hsends, hprotocol, rfl⟩

theorem suite_suiteProtocol {ring : Option Keyring} (h : net.SignsWith ring) (suite : Suite)
    (s : Session (Link ν)) :
    ∃ sent, s.memory.Sends node sent ((suite.run (net.client node)).run s).2.memory ∧
      SuiteProtocol net.url suite ring sent ((suite.run (net.client node)).run s).1 := by
  rw [Suite.run_eq]
  dsimp only
  obtain ⟨as, ha, hquiet⟩ := record_quiet node "chain identity" .chainId
    (checkChainIdentity_asks (net.client node) suite.target) (suite.begun s)
  generalize ((Suite.record "chain identity" .chainId
    (checkChainIdentity (net.client node) suite.target)).run (suite.begun s)) = identity at ha ⊢
  obtain ⟨bs, hb, hbquiet⟩ := record_quiet node "wallet accounts" .accounts
    (checkWalletAccounts_asks (net.client node) suite.fixture) identity.2
  generalize ((Suite.record "wallet accounts" .accounts
    (checkWalletAccounts (net.client node) suite.fixture)).run identity.2) = accounts at hb ⊢
  obtain ⟨cs, w, hc, hwhale, hw⟩ := record_checkProtocol node h "whale transfer"
    (suite.intent .whale) suite.wait accounts.2
  generalize ((Suite.record "whale transfer" .transfer
    (checkTransfer (net.client node) (suite.intent .whale) suite.wait)).run accounts.2) = whale
    at hc hw ⊢
  obtain ⟨ds, u, hd, huser, hu⟩ := record_checkProtocol node h "user transfer"
    (suite.intent .user) suite.wait whale.2
  rw [hw, hu]
  refine ⟨(as ++ bs) ++ (cs ++ ds), ?_, .checks (hquiet.append hbquiet) hwhale huser⟩
  exact (ha.append hb).append (hc.append hd)

/-- A step through a connection. -/
inductive Step where
  | send (intent : TransferIntent)
  /-- The wallet is looked up and sends. -/
  | walletSend (sender target : Address) (value : Word256)
  | check (intent : TransferIntent) (policy : WaitPolicy)
  | suite (all : Suite)

namespace Step

abbrev Result : Step → Type
  | send _ | walletSend _ _ _ => Except CheckError TxHash
  | check _ _ => Except CheckError TransferOutcome
  | suite _ => Report

def run (net : Network) : (step : Step) → StateM (Session (Link ν)) step.Result
  | send intent => (Action.ask (net.client node) (.send intent)).run
  | walletSend sender target value => fun s =>
    let sending : Exchange ν CheckError TxHash := do
      let w ← net.wallet node sender
      net.sendFrom node w target value
    let (r, memory) := sending.run s.memory
    (r, { s with memory, now := s.now + node.elapsed s.memory memory })
  | check intent policy => (checkTransfer (net.client node) intent policy).run
  | suite all => all.run (net.client node)

def limit : Step → Nat
  | send _ | walletSend _ _ _ | check _ _ => 1
  | suite _ => 2

/-- What a step requests over a URL, and what it gives, is what is laid down for it. -/
def KeepsProtocol (url : Url) (ring : Option Keyring) :
    (step : Step) → List Sent → step.Result → Prop
  | send intent => SendProtocol url intent ring
  | walletSend sender target value => SendProtocol url ⟨sender, target, value⟩ ring
  | check intent _ => CheckProtocol url intent ring
  | suite all => SuiteProtocol url all ring

theorem KeepsProtocol.length_submissions_le {url : Url} {ring : Option Keyring} {step : Step}
    {sent : List Sent} {r : step.Result} (h : step.KeepsProtocol url ring sent r) :
    (submissions sent).length ≤ step.limit := by
  cases step with
  | send | walletSend => exact SendProtocol.length_submissions_le h
  | check => exact CheckProtocol.length_submissions_le h
  | suite => exact SuiteProtocol.length_submissions_le h

/-- Every step keeps its protocol, in whatever state the node and the session are. -/
theorem run_keepsProtocol {ring : Option Keyring} (h : net.SignsWith ring) (step : Step)
    (s : Session (Link ν)) :
    ∃ sent, s.memory.Sends node sent (step.run node net s).2.memory ∧
      step.KeepsProtocol net.url ring sent (step.run node net s).1 := by
  cases step with
  | send intent => exact Network.sendTransfer_protocol node h intent s.memory
  | walletSend sender target value =>
    exact Network.sendTransfer_protocol node h ⟨sender, target, value⟩ s.memory
  | check intent policy => exact checkTransfer_checkProtocol node h intent policy s
  | suite all => exact suite_suiteProtocol node h all s

end Step

/-- A step that has been made, with what it requested and gave. -/
structure Made where
  step : Step
  sent : List Sent
  result : step.Result

/-- The step keeps its protocol and its limit. -/
structure Made.Safe (m : Made) (url : Url) (ring : Option Keyring) : Prop where
  protocol : m.step.KeepsProtocol url ring m.sent m.result
  limit : (submissions m.sent).length ≤ m.step.limit

/-- Steps one after the other, each with what it gives. -/
def runSteps (net : Network) :
    List Step → StateM (Session (Link ν)) (List (Σ step, Step.Result step))
  | [] => pure []
  | step :: rest => do
    let r ← step.run node net
    let results ← runSteps net rest
    return ⟨step, r⟩ :: results

theorem runSteps_safe {ring : Option Keyring} (h : net.SignsWith ring) (steps : List Step)
    (s : Session (Link ν)) :
    ∃ made : List Made,
      made.map (·.step) = steps ∧
      (runSteps node net steps s).1 = made.map (fun m => ⟨m.step, m.result⟩) ∧
      s.memory.Sends node (made.flatMap (·.sent)) (runSteps node net steps s).2.memory ∧
      ∀ m ∈ made, m.Safe net.url ring := by
  induction steps generalizing s with
  | nil => exact ⟨[], rfl, rfl, .nothing _, fun m hm => absurd hm List.not_mem_nil⟩
  | cons step rest ih =>
    obtain ⟨sent, hsends, hprotocol⟩ := step.run_keepsProtocol node h s
    obtain ⟨made, hsteps, hresults, hrest, hsafe⟩ := ih (step.run node net s).2
    refine ⟨⟨step, sent, (step.run node net s).1⟩ :: made, ?_, ?_, ?_, ?_⟩
    · rw [List.map_cons, hsteps]
    · exact congrArg (List.cons _) hresults
    · exact hsends.append hrest
    · exact List.forall_mem_cons.mpr ⟨⟨hprotocol, hprotocol.length_submissions_le⟩, hsafe⟩

/-- Steps through a connection, in any order and from any state: what is requested is what the
steps request one after the other, and each of them submits what it may, by the wallets that are
configured. -/
theorem connected_steps_safe {target : Target} {env : Environment} {a b : Link ν}
    (h : (connect node target env).run a = (.ok net, b)) :
    configuredUrl target = .ok net.url ∧ ∃ ring, configuredKeys target env = .ok ring ∧
      ∀ (steps : List Step) (s : Session (Link ν)), ∃ made : List Made,
        made.map (·.step) = steps ∧
        (runSteps node net steps s).1 = made.map (fun m => ⟨m.step, m.result⟩) ∧
        s.memory.Sends node (made.flatMap (·.sent)) (runSteps node net steps s).2.memory ∧
        ∀ m ∈ made, m.Safe net.url ring := by
  obtain ⟨hurl, ring, hring, hsigns⟩ := connect_signsWith h
  exact ⟨hurl, ring, hring, runSteps_safe node hsigns⟩

def accountsBody : String :=
  "\x7b\"jsonrpc\":\"2.0\",\"id\":1,\"result\":[\"0x0000000000000000000000000000000000000001\"]\x7d"

def hashBody : String :=
  "\x7b\"jsonrpc\":\"2.0\",\"id\":1,\"result\":\"0x" ++
    "0000000000000000000000000000000000000000000000000000000000000007\"\x7d"

theorem decodeBody_accountsBody : decodeBody (readList readAddress) accountsBody = .ok [⟨1⟩] := by
  cbv

theorem decodeBody_hashBody : decodeBody readHash hashBody = .ok ⟨7⟩ := by cbv

/-- A node with one account, which takes every transfer. -/
def Node.obliging : Node ν where
  deliver r m := (.answered (match r with
    | .accounts => accountsBody
    | .sendTransaction _ | .sendRawTransaction _ => hashBody
    | _ => chainBody), m)

section Obliging

variable {signers : Signers}

theorem askToSend_number {request : Request} {a : Link ν}
    (h : Node.obliging.deliver request a.memory = (.answered chainBody, a.memory)) :
    ((⟨localUrl, signers⟩ : Network).askToSend Node.obliging request readWord256).run a =
      (.ok 31337, ⟨a.memory, a.requests.push request⟩) :=
  ask_answered localUrl_carriesRequests h decodeBody_chainBody _

theorem askToSend_hash {request : Request} {a : Link ν}
    (h : Node.obliging.deliver request a.memory = (.answered hashBody, a.memory)) :
    ((⟨localUrl, signers⟩ : Network).askToSend Node.obliging request readHash).run a =
      (.ok ⟨7⟩, ⟨a.memory, a.requests.push request⟩) :=
  ask_answered localUrl_carriesRequests h decodeBody_hashBody _

theorem fill_obliging (draft : Draft) (a : Link ν) :
    ((⟨localUrl, signers⟩ : Network).fill Node.obliging draft).run a =
      (.ok (31337, 31337), ⟨a.memory, (a.requests.push .gasPrice).push
        (.estimateGas { draft with gasPrice := some 31337 })⟩) := by
  unfold Network.fill
  rw [run_bind_of_ok (askToSend_number rfl)]
  exact run_bind_of_ok (askToSend_number rfl)

theorem walletAccounts_byNode (a : Link ν) :
    ((⟨localUrl, .node⟩ : Network).walletAccounts Node.obliging).run a =
      (.ok [⟨1⟩], ⟨a.memory, a.requests.push .accounts⟩) := by
  have hdeliver : Node.obliging.deliver .accounts a.memory =
      (.answered accountsBody, a.memory) := rfl
  exact ask_answered localUrl_carriesRequests hdeliver decodeBody_accountsBody _

theorem noWallet_byNode {account : Address} (h : account ≠ ⟨1⟩) (a : Link ν) :
    ((⟨localUrl, .node⟩ : Network).wallet Node.obliging account).run a =
      (.error (.noWallet account), ⟨a.memory, a.requests.push .accounts⟩) := by
  refine (run_bind_of_ok (walletAccounts_byNode a)).trans ?_
  rw [if_neg (mt List.contains_iff_mem.mp (mt List.mem_singleton.mp h))]
  rfl

theorem noWallet_byKey {s : Signer} {account : Address} (h : s.address ≠ account) (node : Node ν)
    (a : Link ν) :
    ((⟨localUrl, .keys [s]⟩ : Network).wallet node account).run a =
      (.error (.noWallet account), a) := by
  unfold Network.wallet
  simp only [h, List.find?_cons, List.find?_nil, decide_false]
  rfl

theorem sendTransfer_byNode (target : Address) (value : Word256) (a : Link ν) :
    ((⟨localUrl, .node⟩ : Network).sendTransfer Node.obliging ⟨⟨1⟩, target, value⟩).run a =
      (.ok ⟨7⟩, ⟨a.memory, (((a.requests.push .accounts).push .gasPrice).push
        (.estimateGas ⟨⟨⟨1⟩, target, value⟩, none, some 31337, none⟩)).push
        (.sendTransaction ⟨⟨⟨1⟩, target, value⟩, none, some 31337, some 31337⟩)⟩) := by
  have hwallet : ((⟨localUrl, .node⟩ : Network).wallet Node.obliging ⟨1⟩).run a =
      (.ok (.node ⟨1⟩), ⟨a.memory, a.requests.push .accounts⟩) :=
    run_bind_of_ok (walletAccounts_byNode a)
  unfold Network.sendTransfer
  rw [run_bind_of_ok hwallet]
  unfold Network.sendFrom Network.sendByNode
  dsimp only
  rw [run_bind_of_ok (fill_obliging _ _)]
  exact askToSend_hash rfl

theorem sendTransfer_byKey {s : Signer} {target : Address} {value : Word256} {bytes : List UInt8}
    (hsigned : FilledTransfer.sign? ⟨⟨s.address, target, value⟩, 31337, 31337, 31337⟩ s.chainId
      s.key = some bytes) (a : Link ν) :
    ((⟨localUrl, .keys [s]⟩ : Network).sendTransfer Node.obliging
        ⟨s.address, target, value⟩).run a =
      (.ok ⟨7⟩, ⟨a.memory, (((a.requests.push (.transactionCount s.address)).push .gasPrice).push
        (.estimateGas ⟨⟨s.address, target, value⟩, some 31337, some 31337, none⟩)).push
        (.sendRawTransaction bytes)⟩) := by
  have hwallet : ((⟨localUrl, .keys [s]⟩ : Network).wallet Node.obliging s.address).run a =
      (.ok (.signer s), a) := by
    unfold Network.wallet
    simp only [List.find?_cons, decide_true]
    rfl
  unfold Network.sendTransfer
  rw [run_bind_of_ok hwallet]
  unfold Network.sendFrom Network.sendSigned
  dsimp only [Wallet.address]
  rw [run_bind_of_ok (askToSend_number rfl), run_bind_of_ok (fill_obliging _ _), hsigned]
  exact askToSend_hash rfl

end Obliging

def strangerTo (account : Address) : Address := ⟨account.bits + 1⟩

theorem ne_strangerTo (account : Address) : account ≠ strangerTo account := by
  intro h
  have hbits : account.bits = account.bits + 1 := congrArg Address.bits h
  bv_omega

/-- A transfer from an account, and one from a stranger to it. -/
def twoSends (account : Address) : List Step :=
  [.send ⟨account, ⟨2⟩, 5⟩, .walletSend (strangerTo account) ⟨2⟩ 5]

/-- The account's transfer is taken, and the stranger is refused. -/
def firstTaken (account : Address) : List (Σ step, Step.Result step) :=
  [⟨.send ⟨account, ⟨2⟩, 5⟩, .ok ⟨7⟩⟩,
    ⟨.walletSend (strangerTo account) ⟨2⟩ 5, .error (.noWallet (strangerTo account))⟩]

theorem runSteps_twoSends {node : Node ν} {net : Network} {account : Address}
    {s : Session (Link ν)} {b c : Link ν}
    (hsend : (net.sendTransfer node ⟨account, ⟨2⟩, 5⟩).run s.memory = (.ok ⟨7⟩, b))
    (hwallet : (net.wallet node (strangerTo account)).run b =
      (.error (.noWallet (strangerTo account)), c)) :
    (runSteps node net (twoSends account) s).1 = firstTaken account ∧
      (runSteps node net (twoSends account) s).2.memory = c := by
  have hrefused : (net.sendTransfer node ⟨strangerTo account, ⟨2⟩, 5⟩).run b =
      (.error (.noWallet (strangerTo account)), c) := run_bind_of_error hwallet
  have hfirst : ((Step.send ⟨account, ⟨2⟩, 5⟩).run node net s).1 = .ok ⟨7⟩ :=
    congrArg Prod.fst hsend
  have hb : ((Step.send ⟨account, ⟨2⟩, 5⟩).run node net s).2.memory = b := congrArg Prod.snd hsend
  rw [← hb] at hrefused
  have hsecond : ((Step.walletSend (strangerTo account) ⟨2⟩ 5).run node net
      ((Step.send ⟨account, ⟨2⟩, 5⟩).run node net s).2).1 =
        .error (.noWallet (strangerTo account)) := congrArg Prod.fst hrefused
  refine ⟨?_, congrArg Prod.snd hrefused⟩
  rw [firstTaken, ← hfirst, ← hsecond]
  rfl

theorem leastSigner_signs : (FilledTransfer.sign? ⟨⟨leastSigner.address, ⟨2⟩, 5⟩, 31337, 31337,
    31337⟩ leastSigner.chainId leastSigner.key).isSome = true := by
  decide +kernel

/-- By a node and by a key: the transfer of the account is submitted, and no other. -/
theorem obliging_steps_safe :
    (connect Node.obliging (.ofNetwork .hardhat) ⟨[]⟩).run (⟨(), #[]⟩ : Link Unit) =
      (.ok ⟨localUrl, .node⟩, ⟨(), #[]⟩) ∧
    (∃ made : List Made,
      made.map (·.step) = twoSends ⟨1⟩ ∧
      firstTaken ⟨1⟩ = made.map (fun m => ⟨m.step, m.result⟩) ∧
      Link.Sends Node.obliging (⟨(), #[]⟩ : Link Unit) (made.flatMap (·.sent))
        ⟨(), #[.accounts, .gasPrice, .estimateGas ⟨⟨⟨1⟩, ⟨2⟩, 5⟩, none, some 31337, none⟩,
          .sendTransaction ⟨⟨⟨1⟩, ⟨2⟩, 5⟩, none, some 31337, some 31337⟩, .accounts]⟩ ∧
      ∀ m ∈ made, m.Safe localUrl none) ∧
    (connect Node.obliging keyTarget ⟨[]⟩).run (⟨(), #[]⟩ : Link Unit) =
      (.ok ⟨localUrl, .keys [leastSigner]⟩, ⟨(), #[.chainId]⟩) ∧
    ∃ (made : List Made) (bytes : List UInt8),
      made.map (·.step) = twoSends leastSigner.address ∧
      firstTaken leastSigner.address = made.map (fun m => ⟨m.step, m.result⟩) ∧
      Link.Sends Node.obliging (⟨(), #[.chainId]⟩ : Link Unit) (made.flatMap (·.sent))
        ⟨(), #[.chainId, .transactionCount leastSigner.address, .gasPrice,
          .estimateGas ⟨⟨leastSigner.address, ⟨2⟩, 5⟩, some 31337, some 31337, none⟩,
          .sendRawTransaction bytes]⟩ ∧
      ∀ m ∈ made, m.Safe localUrl (some [leastKey]) := by
  have hnode := connect_ofNetwork Node.obliging .hardhat ⟨[]⟩ (⟨(), #[]⟩ : Link Unit)
  have hkey := connect_keyTarget (fun _ => rfl : ∀ m, Node.obliging.deliver .chainId m = _)
    (⟨(), #[]⟩ : Link Unit)
  refine ⟨hnode, ?_, hkey, ?_⟩
  · have hnone : configuredKeys (.ofNetwork .hardhat) ⟨[]⟩ = .ok none := rfl
    obtain ⟨-, ring, hring, hsafe⟩ := connected_steps_safe Node.obliging hnode
    obtain rfl : none = ring := Except.ok.inj (hnone.symm.trans hring)
    obtain ⟨hresults, hmemory⟩ := runSteps_twoSends (sendTransfer_byNode ⟨2⟩ 5 _)
      (noWallet_byNode (ne_strangerTo _).symm _)
    obtain ⟨made, hsteps, hmade, hsends, hall⟩ := hsafe (twoSends ⟨1⟩) (.start ⟨(), #[]⟩)
    rw [hresults] at hmade
    rw [hmemory] at hsends
    exact ⟨made, hsteps, hmade, hsends, hall⟩
  · obtain ⟨-, ring, hring, hsafe⟩ := connected_steps_safe Node.obliging hkey
    obtain rfl : some [leastKey] = ring :=
      Except.ok.inj (configuredKeys_keyTarget.symm.trans hring)
    obtain ⟨bytes, hsigned⟩ := Option.isSome_iff_exists.mp leastSigner_signs
    obtain ⟨hresults, hmemory⟩ := runSteps_twoSends (sendTransfer_byKey hsigned _)
      (noWallet_byKey (ne_strangerTo _) _ _)
    obtain ⟨made, hsteps, hmade, hsends, hall⟩ :=
      hsafe (twoSends leastSigner.address) (.start ⟨(), #[.chainId]⟩)
    rw [hresults] at hmade
    rw [hmemory] at hsends
    simp only [Session.start, List.push_toArray, List.cons_append, List.nil_append] at hsends
    exact ⟨made, bytes, hsteps, hmade, hsends, hall⟩

end Devnet.Rpc
