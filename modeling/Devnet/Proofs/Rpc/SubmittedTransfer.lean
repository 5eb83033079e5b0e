import Devnet.Proofs.Rpc.RequestReading
import Devnet.Proofs.Rpc.SignedReading
import Devnet.Proofs.Rpc.Steps

namespace Devnet.Rpc

variable {ν α : Type}

/-- The questions that fill a draft in, and the gas price and the gas that are answered. -/
inductive FilledIn (url : Url) (draft : Draft) :
    List Sent → Except CheckError (Word256 × Word256) → Prop where
  | noPrice {sent : List Sent} {e : CheckError}
      (asked : Asked url .gasPrice readWord256 CheckError.sendFailed sent (.error e)) :
      FilledIn url draft sent (.error e)
  | noGas {body : String} {gasPrice : Word256} {sent : List Sent} {e : CheckError}
      (price : decodeBody readWord256 body = .ok gasPrice)
      (asked : Asked url (.estimateGas { draft with gasPrice := some gasPrice }) readWord256
        CheckError.sendFailed sent (.error e)) :
      FilledIn url draft (⟨.gasPrice, .answered body⟩ :: sent) (.error e)
  | filled {body estimate : String} {gasPrice gas : Word256}
      (price : decodeBody readWord256 body = .ok gasPrice)
      (estimated : decodeBody readWord256 estimate = .ok gas) :
      FilledIn url draft [⟨.gasPrice, .answered body⟩,
        ⟨.estimateGas { draft with gasPrice := some gasPrice }, .answered estimate⟩]
        (.ok (gasPrice, gas))

/-- What is sent for a transfer that the node signs, and what comes of it. -/
inductive NodeSend (url : Url) (intent : TransferIntent) :
    List Sent → Except CheckError TxHash → Prop where
  | unfilled {sent : List Sent} {e : CheckError}
      (filling : FilledIn url (.ofIntent intent) sent (.error e)) :
      NodeSend url intent sent (.error e)
  /-- The node reads the transfer, with its own gas price and gas. -/
  | submitted {filling sent : List Sent} {gasPrice gas : Word256} {draft : Draft}
      {r : Except CheckError TxHash}
      (filled : FilledIn url (.ofIntent intent) filling (.ok (gasPrice, gas)))
      (asked : Asked url (.sendTransaction draft) readHash CheckError.sendFailed sent r)
      (reads : ∀ id, Json.readText (receivedShape draftShape.read).read
          ((Request.sendTransaction draft).toJson id).text =
        .ok ⟨"eth_sendTransaction", [⟨intent, none, some gasPrice, some gas⟩]⟩) :
      NodeSend url intent (filling ++ sent) r

/-- What is sent for a transfer that a key signs, and what comes of it. -/
inductive KeySend (url : Url) (intent : TransferIntent) (s : Signer) :
    List Sent → Except CheckError TxHash → Prop where
  | noNonce {sent : List Sent} {e : CheckError}
      (asked : Asked url (.transactionCount intent.source) readWord256 CheckError.sendFailed sent
        (.error e)) : KeySend url intent s sent (.error e)
  | unfilled {body : String} {nonce : Word256} {sent : List Sent} {e : CheckError}
      (count : decodeBody readWord256 body = .ok nonce)
      (filling : FilledIn url { Draft.ofIntent intent with nonce := some nonce } sent
        (.error e)) :
      KeySend url intent s (⟨.transactionCount intent.source, .answered body⟩ :: sent) (.error e)
  | unsigned {body : String} {nonce gasPrice gas : Word256} {filling : List Sent}
      (count : decodeBody readWord256 body = .ok nonce)
      (filled : FilledIn url { Draft.ofIntent intent with nonce := some nonce } filling
        (.ok (gasPrice, gas)))
      (unsignable : Curve.Unsignable s.key.secret
        ((FilledTransfer.mk intent nonce gasPrice gas).digest s.chainId)) :
      KeySend url intent s (⟨.transactionCount intent.source, .answered body⟩ :: filling)
        (.error (.sendFailed "signature error"))
  /-- The node reads bytes, and they are the transfer for the signer's chain, with the node's own
  nonce, gas price and gas. -/
  | submitted {body : String} {nonce gasPrice gas : Word256} {filling sent : List Sent}
      {bytes : List UInt8} {result : Except CheckError TxHash} {v r t : Nat}
      (count : decodeBody readWord256 body = .ok nonce)
      (filled : FilledIn url { Draft.ofIntent intent with nonce := some nonce } filling
        (.ok (gasPrice, gas)))
      (asked : Asked url (.sendRawTransaction bytes) readHash CheckError.sendFailed sent result)
      (reads : ∀ id, Json.readText (receivedShape readRaw).read
          ((Request.sendRawTransaction bytes).toJson id).text =
        .ok ⟨"eth_sendRawTransaction", [bytes]⟩)
      (decodes : LegacyTransaction.decode? bytes =
        some ⟨nonce.toNat, gasPrice.toNat, gas.toNat, intent.target, intent.value.toNat, [],
          v, r, t⟩)
      (mark : s.chainId.toNat < 2 ^ 63 - 18 →
        v = 35 + 2 * s.chainId.toNat ∨ v = 36 + 2 * s.chainId.toNat) :
      KeySend url intent s
        (⟨.transactionCount intent.source, .answered body⟩ :: (filling ++ sent)) result

def Wallet.Sends (url : Url) (intent : TransferIntent) :
    Wallet → List Sent → Except CheckError TxHash → Prop
  | .node _ => NodeSend url intent
  | .signer s => KeySend url intent s

/-- What is sent for a transfer over the URL of a connection, and what comes of it. -/
inductive SendsAsAsked (url : Url) (intent : TransferIntent) :
    Signers → List Sent → Except CheckError TxHash → Prop where
  | noAccount {sent : List Sent} {e : CheckError}
      (lookup : LookedUp url intent.source none sent (.error e)) :
      SendsAsAsked url intent .node sent (.error e)
  | account {body : String} {accounts : List Address} {sent : List Sent}
      {r : Except CheckError TxHash}
      (listed : decodeBody (readList readAddress) body = .ok accounts)
      (known : intent.source ∈ accounts) (send : NodeSend url intent sent r) :
      SendsAsAsked url intent .node (⟨.accounts, .answered body⟩ :: sent) r
  | noKey {signers : List Signer} (stranger : ∀ s ∈ signers, s.address ≠ intent.source) :
      SendsAsAsked url intent (.keys signers) [] (.error (.noWallet intent.source))
  | key {signers : List Signer} {s : Signer} {sent : List Sent} {r : Except CheckError TxHash}
      (first : signers.find? (fun s => s.address = intent.source) = some s)
      (send : KeySend url intent s sent r) : SendsAsAsked url intent (.keys signers) sent r

/-- The answer tells what the request asks for; what comes of a submission is not looked at. -/
def Sent.Told : Sent → Prop
  | ⟨.sendTransaction _, _⟩ | ⟨.sendRawTransaction _, _⟩ => True
  | ⟨.accounts, .answered body⟩ => ∃ accounts, decodeBody (readList readAddress) body = .ok accounts
  | ⟨_, .answered body⟩ => ∃ n, decodeBody readWord256 body = .ok n
  | ⟨_, .lost _⟩ => False

/-- A send over a URL has been carried through: its last request submits, or there is no wallet to
send from, or no signature can be made of the transfer as it is filled in. -/
inductive CarriedThrough (url : Url) (intent : TransferIntent) :
    Signers → List Sent → Except CheckError TxHash → Prop where
  | submitted {signers : Signers} {before : List Sent} {last : Sent}
      {r : Except CheckError TxHash} (submits : last.request.submits = true) :
      CarriedThrough url intent signers (before ++ [last]) r
  | notListed {body : String} {accounts : List Address}
      (listed : decodeBody (readList readAddress) body = .ok accounts)
      (stranger : intent.source ∉ accounts) :
      CarriedThrough url intent .node [⟨.accounts, .answered body⟩]
        (.error (.noWallet intent.source))
  | noKey {signers : List Signer} (stranger : ∀ s ∈ signers, s.address ≠ intent.source) :
      CarriedThrough url intent (.keys signers) [] (.error (.noWallet intent.source))
  | unsigned {signers : List Signer} {s : Signer} {body : String} {nonce gasPrice gas : Word256}
      {filling : List Sent}
      (first : signers.find? (fun s => s.address = intent.source) = some s)
      (count : decodeBody readWord256 body = .ok nonce)
      (filled : FilledIn url { Draft.ofIntent intent with nonce := some nonce } filling
        (.ok (gasPrice, gas)))
      (unsignable : Curve.Unsignable s.key.secret
        ((FilledTransfer.mk intent nonce gasPrice gas).digest s.chainId)) :
      CarriedThrough url intent (.keys signers)
        (⟨.transactionCount intent.source, .answered body⟩ :: filling)
        (.error (.sendFailed "signature error"))

section Told

variable {url : Url} {intent : TransferIntent} {sent : List Sent}

/-- Over a URL that carries requests a question fails only if its answer does not tell. -/
theorem Asked.not_told {request : Request}
    {reader : (depth : Nat) → Json.Doc → Except Json.Complaint α} {wrap : String → CheckError}
    {e : CheckError} (h : Asked url request reader wrap sent (.error e))
    (hurl : url.CarriesRequests) (hlost : ∀ reason, ¬ (Sent.mk request (.lost reason)).Told)
    (hread : ∀ body, (Sent.mk request (.answered body)).Told →
      ∃ v, decodeBody reader body = .ok v) : ¬ ∀ s ∈ sent, s.Told := by
  intro told
  cases h with
  | barred barred => exact barred hurl
  | lost _ reason => exact hlost reason (told _ List.mem_cons_self)
  | @refused _ body _ undecodable =>
    obtain ⟨v, hv⟩ := hread body (told _ List.mem_cons_self)
    rw [undecodable] at hv
    cases hv

theorem Asked.submits {request : Request}
    {reader : (depth : Nat) → Json.Doc → Except Json.Complaint α} {wrap : String → CheckError}
    {r : Except CheckError α} (h : Asked url request reader wrap sent r)
    (hurl : url.CarriesRequests) (hsubmits : request.submits = true) :
    ∃ last, sent = [last] ∧ last.request.submits = true := by
  cases h with
  | barred barred => exact absurd hurl barred
  | lost | refused | answered => exact ⟨_, rfl, hsubmits⟩

theorem FilledIn.not_told {draft : Draft} {e : CheckError}
    (h : FilledIn url draft sent (.error e)) (hurl : url.CarriesRequests) :
    ¬ ∀ s ∈ sent, s.Told := by
  cases h with
  | noPrice asked => exact asked.not_told hurl (fun _ h => h) fun _ h => h
  | noGas _ asked =>
    exact fun told => asked.not_told hurl (fun _ h => h) (fun _ h => h) fun s hs =>
      told s (List.mem_cons_of_mem _ hs)

theorem NodeSend.submits {r : Except CheckError TxHash} (h : NodeSend url intent sent r)
    (hurl : url.CarriesRequests) (told : ∀ s ∈ sent, s.Told) :
    ∃ before last, sent = before ++ [last] ∧ last.request.submits = true := by
  cases h with
  | unfilled filling => exact absurd told (filling.not_told hurl)
  | submitted filled asked =>
    obtain ⟨last, rfl, hlast⟩ := asked.submits hurl rfl
    exact ⟨_, last, rfl, hlast⟩

theorem KeySend.carriedThrough {signers : List Signer} {s : Signer}
    {r : Except CheckError TxHash} (h : KeySend url intent s sent r) (hurl : url.CarriesRequests)
    (told : ∀ s ∈ sent, s.Told)
    (first : signers.find? (fun s => s.address = intent.source) = some s) :
    CarriedThrough url intent (.keys signers) sent r := by
  cases h with
  | noNonce asked => exact absurd told (asked.not_told hurl (fun _ h => h) fun _ h => h)
  | unfilled _ filling =>
    exact absurd (fun s hs => told s (List.mem_cons_of_mem _ hs)) (filling.not_told hurl)
  | unsigned count filled unsignable => exact .unsigned first count filled unsignable
  | submitted count filled asked =>
    obtain ⟨last, rfl, hlast⟩ := asked.submits hurl rfl
    rw [← List.cons_append]
    exact .submitted hlast

/-- A send is carried through if it is told what it asks for. -/
theorem SendsAsAsked.carriedThrough {signers : Signers} {r : Except CheckError TxHash}
    (h : SendsAsAsked url intent signers sent r) (hurl : url.CarriesRequests)
    (told : ∀ s ∈ sent, s.Told) : CarriedThrough url intent signers sent r := by
  cases h with
  | noAccount lookup =>
    cases lookup with
    | failed asked =>
      have hlost (reason : String) : ¬ (Sent.mk .accounts (.lost reason)).Told := fun h => h
      exact absurd told (asked.not_told hurl hlost fun _ h => h)
    | notListed listed stranger => exact .notListed listed stranger
  | account listed known send =>
    obtain ⟨before, last, rfl, hlast⟩ :=
      send.submits hurl fun s hs => told s (List.mem_cons_of_mem _ hs)
    rw [← List.cons_append]
    exact .submitted hlast
  | noKey stranger => exact .noKey stranger
  | key first send => exact send.carriedThrough hurl told first

end Told

namespace Network

variable (node : Node ν) (net : Network)

theorem fill_filledIn (draft : Draft) :
    (net.fill node draft).Satisfies node (FilledIn net.url draft) := by
  have hgas (gasPrice : Word256) := net.askToSend_asked node
    (.estimateGas { draft with gasPrice := some gasPrice }) readWord256
  refine (net.askToSend_asked node .gasPrice readWord256).bind
    (R := fun gasPrice sent r => ∀ body, decodeBody readWord256 body = .ok gasPrice →
      FilledIn net.url draft (⟨.gasPrice, .answered body⟩ :: sent) r)
    (fun gasPrice => ?_) (fun sent e asked => .noPrice asked) fun before v after r asked hR => ?_
  · refine (hgas gasPrice).bind (R := fun gas sent r => sent = [] ∧ r = .ok (gasPrice, gas))
      (fun gas => Exchange.satisfies_pure ⟨rfl, rfl⟩)
      (fun sent e asked body price => .noGas price asked) fun before gas after r asked hpure => ?_
    obtain ⟨rfl, rfl⟩ := hpure
    obtain ⟨estimate, rfl, estimated⟩ := asked.of_ok
    exact fun body price => .filled price estimated
  · obtain ⟨body, rfl, price⟩ := asked.of_ok
    exact hR body price

theorem sendByNode_nodeSend (intent : TransferIntent) :
    (net.sendByNode node intent).Satisfies node (NodeSend net.url intent) := by
  refine (net.fill_filledIn node (.ofIntent intent)).bind
    (fun v => net.askToSend_asked node (.sendTransaction
      { Draft.ofIntent intent with gasPrice := some v.1, gas := some v.2 }) readHash)
    (fun sent e filling => .unfilled filling) fun before v after r filled asked => ?_
  exact .submitted filled asked fun id => read_sendTransaction intent v.1 v.2 id

/-- The end of a send whose transfer is filled in: without a signature nothing is submitted. -/
theorem submitSigned_asked (signed : Option (List UInt8)) :
    (net.submitSigned node signed).Satisfies node fun sent r =>
      (signed = none ∧ sent = [] ∧ r = .error (.sendFailed "signature error")) ∨
        ∃ bytes, signed = some bytes ∧
          Asked net.url (.sendRawTransaction bytes) readHash CheckError.sendFailed sent r := by
  cases signed with
  | none => exact Exchange.satisfies_throw (.inl ⟨rfl, rfl, rfl⟩)
  | some bytes =>
    exact (net.askToSend_asked node (.sendRawTransaction bytes) readHash).mono
      fun sent r asked => .inr ⟨bytes, rfl, asked⟩

theorem sendSigned_keySend (s : Signer) (intent : TransferIntent) :
    (net.sendSigned node s intent).Satisfies node (KeySend net.url intent s) := by
  refine (net.askToSend_asked node (.transactionCount intent.source) readWord256).bind
    (R := fun nonce sent r => ∀ body, decodeBody readWord256 body = .ok nonce →
      KeySend net.url intent s (⟨.transactionCount intent.source, .answered body⟩ :: sent) r)
    (fun nonce => ?_) (fun sent e asked => .noNonce asked) fun before nonce after r asked hR => ?_
  · refine (net.fill_filledIn node { Draft.ofIntent intent with nonce := some nonce }).bind
      (fun v => net.submitSigned_asked node
        ((FilledTransfer.mk intent nonce v.1 v.2).sign? s.chainId s.key))
      (fun sent e filling body count => .unfilled count filling) fun before v after r filled h => ?_
    intro body count
    obtain ⟨failed, rfl, rfl⟩ | ⟨bytes, hsigned, asked⟩ := h
    · rw [List.append_nil]
      exact .unsigned count filled (FilledTransfer.unsignable_of_sign failed)
    · obtain ⟨mark, x, y, decodes, hmark⟩ := FilledTransfer.decode_signed _ hsigned
      exact .submitted count filled asked (read_sendRawTransaction bytes) decodes hmark
  · obtain ⟨body, rfl, count⟩ := asked.of_ok
    exact hR body count

theorem sendFrom_sends (w : Wallet) (target : Address) (value : Word256) :
    (net.sendFrom node w target value).Satisfies node
      (w.Sends net.url ⟨w.address, target, value⟩) := by
  cases w with
  | node account => exact net.sendByNode_nodeSend node ⟨account, target, value⟩
  | signer s => exact net.sendSigned_keySend node s ⟨s.address, target, value⟩

theorem sendTransfer_asAsked (intent : TransferIntent) :
    (net.sendTransfer node intent).Satisfies node
      (SendsAsAsked net.url intent net.signers) := by
  unfold sendTransfer
  cases hsigners : net.signers with
  | node =>
    refine (wallet_of_node node hsigners intent.source).bind
      (fun w => net.sendFrom_sends node w intent.target intent.value)
      (fun sent e lookup => .noAccount lookup) fun before w after r lookup send => ?_
    cases lookup with
    | listed decoded known => exact .account decoded known send
  | keys signers =>
    refine (wallet_of_signers node hsigners intent.source).bind
      (fun w => net.sendFrom_sends node w intent.target intent.value)
      (fun sent e lookup => ?_) fun before w after r lookup send => ?_
    · cases lookup with
      | missing stranger => exact .noKey stranger
    · cases lookup with
      | @found s first owner =>
        change KeySend net.url ⟨s.address, intent.target, intent.value⟩ s after r at send
        rw [owner] at send
        exact .key first send

end Network

/-- Through every connection, for every transfer and whatever the node answers: each key signs for
the chain that was reported to it, and what a send submits is read as the transfer that was asked
for, filled in with the node's answers. Over a URL that carries requests a send that is told what it
asks for does submit, if there is a wallet to send from and a signature can be made. -/
theorem connected_sends_as_asked {node : Node ν} {target : Target} {env : Environment}
    {a b : Link ν} {net : Network} (h : (connect node target env).run a = (.ok net, b)) :
    configuredUrl target = .ok net.url ∧
    (∃ ring sent, configuredKeys target env = .ok ring ∧ a.Sends node sent b ∧
      Connected ring sent net.signers) ∧
    ∀ intent,
      (net.sendTransfer node intent).Satisfies node (SendsAsAsked net.url intent net.signers) ∧
      (net.url.CarriesRequests →
        (net.sendTransfer node intent).Satisfies node fun sent r =>
          (∀ s ∈ sent, s.Told) → CarriedThrough net.url intent net.signers sent r) := by
  obtain ⟨sent, hsends, hconnected⟩ := connect_connected node target env a
  rw [h] at hsends hconnected
  obtain ⟨hurl, ring, hring, hsigners⟩ := hconnected net rfl
  refine ⟨hurl, ⟨ring, sent, hring, hsends, hsigners⟩, fun intent => ?_⟩
  have hasked := net.sendTransfer_asAsked node intent
  exact ⟨hasked, fun hcarried => hasked.mono fun _ _ send told =>
    send.carriedThrough hcarried told⟩

/-- A single key signs for the chain that is reported, which leaves room for a mark, and its
transfer is submitted. -/
theorem key_sends_as_asked :
    (connect Node.obliging keyTarget ⟨[]⟩).run (⟨(), #[]⟩ : Link Unit) =
      (.ok ⟨localUrl, .keys [leastSigner]⟩, ⟨(), #[.chainId]⟩) ∧
    leastSigner.chainId.toNat < 2 ^ 63 - 18 ∧
    configuredUrl keyTarget = .ok localUrl ∧
    (∃ ring sent, configuredKeys keyTarget ⟨[]⟩ = .ok ring ∧
      Link.Sends Node.obliging (⟨(), #[]⟩ : Link Unit) sent ⟨(), #[.chainId]⟩ ∧
      Connected ring sent (.keys [leastSigner])) ∧
    (∀ intent,
      ((⟨localUrl, .keys [leastSigner]⟩ : Network).sendTransfer (Node.obliging : Node Unit)
        intent).Satisfies Node.obliging (SendsAsAsked localUrl intent (.keys [leastSigner])) ∧
      ((⟨localUrl, .keys [leastSigner]⟩ : Network).sendTransfer (Node.obliging : Node Unit)
        intent).Satisfies Node.obliging fun sent r =>
          (∀ s ∈ sent, s.Told) → CarriedThrough localUrl intent (.keys [leastSigner]) sent r) ∧
    ∃ (sent : List Sent) (bytes : List UInt8),
      Link.Sends Node.obliging (⟨(), #[.chainId]⟩ : Link Unit) sent
        ⟨(), #[.chainId, .transactionCount leastSigner.address, .gasPrice,
          .estimateGas ⟨⟨leastSigner.address, ⟨2⟩, 5⟩, some 31337, some 31337, none⟩,
          .sendRawTransaction bytes]⟩ ∧
      SendsAsAsked localUrl ⟨leastSigner.address, ⟨2⟩, 5⟩ (.keys [leastSigner]) sent
        (.ok ⟨7⟩) := by
  have hconnect := connect_keyTarget (fun _ => rfl : ∀ m, Node.obliging.deliver .chainId m = _)
    (⟨(), #[]⟩ : Link Unit)
  obtain ⟨hurl, hsigners, hsends⟩ := connected_sends_as_asked hconnect
  obtain ⟨bytes, hsigned⟩ := Option.isSome_iff_exists.mp leastSigner_signs
  obtain ⟨sent, hlink, hasked⟩ := (hsends ⟨leastSigner.address, ⟨2⟩, 5⟩).1 ⟨(), #[.chainId]⟩
  rw [sendTransfer_byKey hsigned] at hlink hasked
  simp only [List.push_toArray, List.cons_append, List.nil_append] at hlink
  exact ⟨hconnect, by decide, hurl, hsigners, fun intent =>
    ⟨(hsends intent).1, (hsends intent).2 localUrl_carriesRequests⟩, sent, bytes, hlink, hasked⟩

end Devnet.Rpc
