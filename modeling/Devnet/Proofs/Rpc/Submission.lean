import Devnet.Proofs.Rpc.Connection

namespace Devnet.Rpc

variable {ν ε δ α β : Type}

def Request.submits : Request → Bool
  | .sendTransaction _ | .sendRawTransaction _ => true
  | _ => false

def Quiet (sent : List Sent) : Prop := ∀ s ∈ sent, s.request.submits = false

/-- Nothing is submitted but by the last request, if that is an allowed one. -/
inductive SubmitsOnce (Allowed : Request → Prop) : List Sent → Prop where
  | never {sent : List Sent} (quiet : Quiet sent) : SubmitsOnce Allowed sent
  | last {sent : List Sent} {s : Sent} (quiet : Quiet sent) (allowed : Allowed s.request) :
      SubmitsOnce Allowed (sent ++ [s])

theorem quiet_nil : Quiet [] := fun _ h => absurd h List.not_mem_nil

theorem Quiet.append {as bs : List Sent} (ha : Quiet as) (hb : Quiet bs) : Quiet (as ++ bs) :=
  (AllRequests.append ha hb : AllRequests (·.submits = false) (as ++ bs))

theorem AsksChainId.quiet {sent : List Sent} (h : AsksChainId sent) : Quiet sent := by
  intro s hs
  rw [h s hs]
  rfl

theorem Quiet.append_once {Allowed : Request → Prop} {as bs : List Sent} (ha : Quiet as)
    (hb : SubmitsOnce Allowed bs) : SubmitsOnce Allowed (as ++ bs) := by
  cases hb with
  | never quiet => exact .never (ha.append quiet)
  | last quiet allowed =>
    rw [← List.append_assoc]
    exact .last (ha.append quiet) allowed

def submissions (sent : List Sent) : List Request :=
  (sent.map (·.request)).filter Request.submits

theorem submissions_append (as bs : List Sent) :
    submissions (as ++ bs) = submissions as ++ submissions bs := by
  rw [submissions, List.map_append, List.filter_append]
  rfl

theorem Quiet.submissions_eq {sent : List Sent} (h : Quiet sent) : submissions sent = [] := by
  rw [submissions, List.filter_eq_nil_iff]
  intro r hr
  obtain ⟨s, hs, rfl⟩ := List.mem_map.mp hr
  rw [h s hs]
  exact Bool.false_ne_true

theorem SubmitsOnce.length_submissions_le {Allowed : Request → Prop} {sent : List Sent}
    (h : SubmitsOnce Allowed sent) : (submissions sent).length ≤ 1 := by
  cases h with
  | never quiet =>
    rw [quiet.submissions_eq]
    exact Nat.zero_le 1
  | last quiet allowed =>
    rw [submissions_append, quiet.submissions_eq]
    exact List.length_filter_le ..

section Asked

variable {url : Url} {request : Request}
  {reader : (depth : Nat) → Json.Doc → Except Json.Complaint α} {wrap : String → ε}
  {sent : List Sent} {r : Except ε α}

theorem Asked.quiet (h : Asked url request reader wrap sent r)
    (hquiet : request.submits = false) : Quiet sent :=
  (h.allRequests hquiet : AllRequests (·.submits = false) sent)

theorem Asked.once {Allowed : Request → Prop} (h : Asked url request reader wrap sent r)
    (hallowed : Allowed request) : SubmitsOnce Allowed sent := by
  cases h with
  | barred => exact .never quiet_nil
  | lost | refused | answered => exact .last quiet_nil hallowed

end Asked

/-- The node submits a transfer for its sender, who is named in the request. -/
def Request.SubmitsFor (intent : TransferIntent) (r : Request) : Prop :=
  ∃ draft, r = .sendTransaction draft ∧ draft.intent = intent ∧
    draft.toJson.member? "from" = some (.string intent.source.text)

/-- A transfer is submitted that a key has signed. -/
def Request.SignedWith (key : PrivateKey) (intent : TransferIntent) (r : Request) : Prop :=
  ∃ (t : FilledTransfer) (chainId : UInt64) (bytes : List UInt8),
    r = .sendRawTransaction bytes ∧ t.intent = intent ∧ t.sign? chainId key = some bytes

namespace Exchange

variable {node : Node ν} {x : Exchange ν ε α} {f : α → Exchange ν ε β}

theorem quiet_bind (hx : x.Satisfies node fun sent _ => Quiet sent)
    (hf : ∀ v, (f v).Satisfies node fun sent _ => Quiet sent) :
    (x >>= f).Satisfies node fun sent _ => Quiet sent :=
  (Exchange.allRequests_bind hx hf :
    (x >>= f).Satisfies node fun sent _ => AllRequests (·.submits = false) sent)

theorem quiet_bind_once {Allowed : Request → Prop}
    (hx : x.Satisfies node fun sent _ => Quiet sent)
    (hf : ∀ v, (f v).Satisfies node fun sent _ => SubmitsOnce Allowed sent) :
    (x >>= f).Satisfies node fun sent _ => SubmitsOnce Allowed sent :=
  hx.bind hf (fun _ _ quiet => .never quiet) fun _ _ _ _ quiet rest => quiet.append_once rest

end Exchange

namespace Network

variable (node : Node ν) (net : Network)

theorem ask_asked (request : Request)
    (reader : (depth : Nat) → Json.Doc → Except Json.Complaint α) :
    (net.ask node request reader).Satisfies node
      (Asked net.url request reader CheckError.rpcCall) :=
  asked_of_call node net.url request reader CheckError.rpcCall

theorem askToSend_asked (request : Request)
    (reader : (depth : Nat) → Json.Doc → Except Json.Complaint α) :
    (net.askToSend node request reader).Satisfies node
      (Asked net.url request reader CheckError.sendFailed) :=
  asked_of_call node net.url request reader CheckError.sendFailed

theorem askToSend_quiet {request : Request} (h : request.submits = false)
    (reader : (depth : Nat) → Json.Doc → Except Json.Complaint α) :
    (net.askToSend node request reader).Satisfies node fun sent _ => Quiet sent :=
  (net.askToSend_asked node request reader).mono fun _ _ hasked => hasked.quiet h

theorem askToSend_once {Allowed : Request → Prop} {request : Request} (h : Allowed request)
    (reader : (depth : Nat) → Json.Doc → Except Json.Complaint α) :
    (net.askToSend node request reader).Satisfies node fun sent _ => SubmitsOnce Allowed sent :=
  (net.askToSend_asked node request reader).mono fun _ _ hasked => hasked.once h

theorem fill_quiet (draft : Draft) :
    (net.fill node draft).Satisfies node fun sent _ => Quiet sent := by
  apply Exchange.quiet_bind (net.askToSend_quiet node rfl readWord256)
  intro gasPrice
  apply Exchange.quiet_bind (net.askToSend_quiet node rfl readWord256)
  intro gas
  exact Exchange.satisfies_pure quiet_nil

theorem sendByNode_once (intent : TransferIntent) :
    (net.sendByNode node intent).Satisfies node fun sent _ =>
      SubmitsOnce (Request.SubmitsFor intent) sent := by
  apply Exchange.quiet_bind_once (net.fill_quiet node (Draft.ofIntent intent))
  rintro ⟨gasPrice, gas⟩
  exact net.askToSend_once node ⟨_, rfl, rfl, rfl⟩ readHash

theorem submitSigned_once {s : Signer} {t : FilledTransfer} {signed : Option (List UInt8)}
    (h : t.sign? s.chainId s.key = signed) :
    (net.submitSigned node signed).Satisfies node fun sent _ =>
      SubmitsOnce (Request.SignedWith s.key t.intent) sent := by
  cases signed with
  | none => exact Exchange.satisfies_throw (.never quiet_nil)
  | some bytes => exact net.askToSend_once node ⟨t, s.chainId, bytes, rfl, rfl, h⟩ readHash

theorem sendSigned_once (s : Signer) (intent : TransferIntent) :
    (net.sendSigned node s intent).Satisfies node fun sent _ =>
      SubmitsOnce (Request.SignedWith s.key intent) sent := by
  apply Exchange.quiet_bind_once (net.askToSend_quiet node rfl readWord256)
  intro nonce
  apply Exchange.quiet_bind_once (net.fill_quiet node _)
  rintro ⟨gasPrice, gas⟩
  exact net.submitSigned_once node rfl

/-- The network signs as configured: with the keys of a ring in their order, or by the node. -/
def SignsWith : Option Keyring → Prop
  | none => net.signers = .node
  | some ring => ∃ signers, net.signers = .keys signers ∧ signers.map (·.key) = ring

end Network

/-- What is connected to is behind the configured URL and signs as configured. -/
theorem connect_signsWith {node : Node ν} {target : Target} {env : Environment} {a b : Link ν}
    {net : Network} (h : (connect node target env).run a = (.ok net, b)) :
    configuredUrl target = .ok net.url ∧
      ∃ ring, configuredKeys target env = .ok ring ∧ net.SignsWith ring := by
  obtain ⟨sent, -, hconnected⟩ := connect_connected node target env a
  rw [h] at hconnected
  obtain ⟨hurl, ring, hring, hsigners⟩ := hconnected net rfl
  refine ⟨hurl, ring, hring, ?_⟩
  generalize heq : net.signers = signers at hsigners
  cases hsigners with
  | node => exact heq
  | keys setUp => exact ⟨_, heq, setUp.keys_eq⟩

/-- What looking up a wallet sends over a URL and what comes of it, where the node signs or the keys
of a ring do. -/
inductive LookedUp (url : Url) (account : Address) :
    Option Keyring → List Sent → Except CheckError Wallet → Prop where
  /-- The node does not tell its accounts. -/
  | failed {sent : List Sent} {words : String}
      (asked : Asked url .accounts (readList readAddress) CheckError.rpcCall sent
        (.error (.rpcCall words))) : LookedUp url account none sent (.error (.rpcCall words))
  | notListed {body : String} {accounts : List Address}
      (listed : decodeBody (readList readAddress) body = .ok accounts)
      (stranger : account ∉ accounts) :
      LookedUp url account none [⟨.accounts, .answered body⟩] (.error (.noWallet account))
  | listed {body : String} {accounts : List Address}
      (listed : decodeBody (readList readAddress) body = .ok accounts)
      (known : account ∈ accounts) :
      LookedUp url account none [⟨.accounts, .answered body⟩] (.ok (.node account))
  | noKey {ring : Keyring} (stranger : ∀ key ∈ ring, key.address ≠ account) :
      LookedUp url account (some ring) [] (.error (.noWallet account))
  | key {ring : Keyring} {s : Signer}
      (first : ring.find? (fun k => k.address = account) = some s.key)
      (owner : s.address = account) : LookedUp url account (some ring) [] (.ok (.signer s))

/-- The signer of an account, if there is one among the signers. -/
inductive SignerFor (account : Address) (signers : List Signer) :
    List Sent → Except CheckError Wallet → Prop where
  | missing (stranger : ∀ s ∈ signers, s.address ≠ account) :
      SignerFor account signers [] (.error (.noWallet account))
  | found {s : Signer} (first : signers.find? (fun s => s.address = account) = some s)
      (owner : s.address = account) : SignerFor account signers [] (.ok (.signer s))

/-- What a wallet may submit for a transfer. -/
def Wallet.Allows (w : Wallet) (intent : TransferIntent) (r : Request) : Prop :=
  match w with
  | .node _ => r.SubmitsFor intent
  | .signer s => r.SignedWith s.key intent

/-- What a send requests over a URL and what comes of it: nothing beyond the look-up without a
wallet, and at most one submission with one. -/
inductive SendProtocol (url : Url) (intent : TransferIntent) (ring : Option Keyring) :
    List Sent → Except CheckError TxHash → Prop where
  | noWallet {sent : List Sent} {e : CheckError}
      (lookup : LookedUp url intent.source ring sent (.error e)) :
      SendProtocol url intent ring sent (.error e)
  | wallet {before after : List Sent} {w : Wallet} {r : Except CheckError TxHash}
      (lookup : LookedUp url intent.source ring before (.ok w))
      (once : SubmitsOnce (w.Allows intent) after) :
      SendProtocol url intent ring (before ++ after) r

section

variable {url : Url} {ring : Option Keyring} {sent : List Sent}

theorem LookedUp.owner {account : Address} {w : Wallet}
    (h : LookedUp url account ring sent (.ok w)) : w.address = account := by
  cases h with
  | listed => rfl
  | key _ owner => exact owner

theorem LookedUp.quiet {account : Address} {r : Except CheckError Wallet}
    (h : LookedUp url account ring sent r) : Quiet sent := by
  cases h with
  | failed asked => exact asked.quiet rfl
  | notListed | listed => exact List.forall_mem_singleton.mpr rfl
  | noKey | key => exact quiet_nil

theorem SendProtocol.length_submissions_le {intent : TransferIntent}
    {r : Except CheckError TxHash} (h : SendProtocol url intent ring sent r) :
    (submissions sent).length ≤ 1 := by
  cases h with
  | noWallet lookup =>
    rw [lookup.quiet.submissions_eq]
    exact Nat.zero_le 1
  | wallet lookup once =>
    rw [submissions_append, lookup.quiet.submissions_eq]
    exact once.length_submissions_le

end

theorem find_key {signers : List Signer} {ring : Keyring} (h : signers.map (·.key) = ring)
    (account : Address) :
    ring.find? (fun k => k.address = account) =
      (signers.find? fun s => s.address = account).map (·.key) := by
  rw [← h, List.find?_map]
  rfl

namespace Network

variable (node : Node ν) {net : Network}

theorem wallet_of_node (h : net.SignsWith none) (account : Address) :
    (net.wallet node account).Satisfies node (LookedUp net.url account none) := by
  have hsigners : net.signers = .node := h
  have haccounts : (net.walletAccounts node).Satisfies node
      (Asked net.url .accounts (readList readAddress) CheckError.rpcCall) := by
    unfold walletAccounts
    rw [hsigners]
    exact net.ask_asked node .accounts (readList readAddress)
  unfold wallet
  rw [hsigners]
  refine haccounts.bind (R := fun accounts sent r => sent = [] ∧
      r = if account ∈ accounts then .ok (.node account) else .error (.noWallet account))
    (fun accounts => ?_) (fun sent e hasked => ?_) fun before accounts after r hasked hr => ?_
  · by_cases hmem : account ∈ accounts
    · rw [if_pos (List.contains_iff_mem.mpr hmem)]
      exact Exchange.satisfies_pure ⟨rfl, (if_pos hmem).symm⟩
    · rw [if_neg (mt List.contains_iff_mem.mp hmem)]
      exact Exchange.satisfies_throw ⟨rfl, (if_neg hmem).symm⟩
  · obtain ⟨words, rfl⟩ := hasked.error rfl
    exact .failed hasked
  · obtain ⟨rfl, rfl⟩ := hr
    rw [List.append_nil]
    cases hasked with
    | answered _ decoded =>
      by_cases hmem : account ∈ accounts
      · rw [if_pos hmem]
        exact .listed decoded hmem
      · rw [if_neg hmem]
        exact .notListed decoded hmem

/-- The first signer of an account is looked up without a request. -/
theorem wallet_of_signers {signers : List Signer} (h : net.signers = .keys signers)
    (account : Address) :
    (net.wallet node account).Satisfies node (SignerFor account signers) := by
  unfold wallet
  rw [h]
  dsimp only
  cases hfound : signers.find? fun s => s.address = account with
  | none =>
    have hnone := List.find?_eq_none.mp hfound
    exact Exchange.satisfies_throw (.missing fun s hs => by simpa using hnone s hs)
  | some s =>
    exact Exchange.satisfies_pure (.found hfound (by simpa using List.find?_some hfound))

theorem wallet_of_ring {ring : Keyring} (h : net.SignsWith (some ring)) (account : Address) :
    (net.wallet node account).Satisfies node
      (LookedUp net.url account (some ring)) := by
  obtain ⟨signers, hsigners, hkeys⟩ := h
  refine (wallet_of_signers node hsigners account).mono fun sent r hlookup => ?_
  cases hlookup with
  | missing stranger =>
    refine .noKey fun key hkey => ?_
    rw [← hkeys] at hkey
    obtain ⟨s, hs, rfl⟩ := List.mem_map.mp hkey
    exact stranger s hs
  | found first owner =>
    have hfind := find_key hkeys account
    rw [first] at hfind
    exact .key hfind owner

theorem sendFrom_once (w : Wallet) (target : Address) (value : Word256) :
    (net.sendFrom node w target value).Satisfies node fun sent _ =>
      SubmitsOnce (w.Allows ⟨w.address, target, value⟩) sent := by
  cases w with
  | node account => exact net.sendByNode_once node ⟨account, target, value⟩
  | signer s => exact net.sendSigned_once node s ⟨s.address, target, value⟩

/-- Every send keeps to the protocol of the way that the network signs. -/
theorem sendTransfer_protocol {ring : Option Keyring} (h : net.SignsWith ring)
    (intent : TransferIntent) :
    (net.sendTransfer node intent).Satisfies node (SendProtocol net.url intent ring) := by
  have hwallet : (net.wallet node intent.source).Satisfies node
      (LookedUp net.url intent.source ring) := by
    cases ring with
    | none => exact wallet_of_node node h intent.source
    | some ring => exact wallet_of_ring node h intent.source
  refine hwallet.bind (fun w => sendFrom_once node w intent.target intent.value)
    (fun sent e lookup => .noWallet lookup) fun before w after r lookup once => ?_
  rw [lookup.owner] at once
  exact .wallet lookup once

end Network

end Devnet.Rpc
