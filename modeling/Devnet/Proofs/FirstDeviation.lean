import Devnet.Proofs.RunParts
import Devnet.Proofs.TransferProtocol

namespace Devnet

/-- The last of the calls is answered with the error. -/
def AnswersAtLast (calls : List Call) (e : CheckError) : Prop :=
  ∃ before start q, calls = before ++ [⟨start, q, some (.error e)⟩]

/-- What the chain identity comes to with the calls it makes. -/
inductive IdentityFinding (target : Target) : List Call → Except CheckError UInt64 → Prop where
  | declared (wrong : target.chainId ≠ target.network.chainId) :
      IdentityFinding target []
        (.error (.chainIdMismatch .declared target.network.chainId target.chainId))
  | answered {e : CheckError} (start : Nat) (declared : target.chainId = target.network.chainId) :
      IdentityFinding target [⟨start, .chainId, some (.error e)⟩] (.error e)
  | live {live : UInt64} (start : Nat) (declared : target.chainId = target.network.chainId)
      (wrong : live ≠ target.network.chainId) :
      IdentityFinding target [⟨start, .chainId, some (.ok live)⟩]
        (.error (.chainIdMismatch .live target.network.chainId live))
  | passed (start : Nat) (declared : target.chainId = target.network.chainId) :
      IdentityFinding target [⟨start, .chainId, some (.ok target.network.chainId)⟩]
        (.ok target.network.chainId)

/-- What the accounts come to with the calls that are made for them. -/
inductive AccountsFinding (fixture : Fixture) :
    List Call → Except CheckError (List Address) → Prop where
  | answered {e : CheckError} (start : Nat) :
      AccountsFinding fixture [⟨start, .accounts, some (.error e)⟩] (.error e)
  | count {listed : List Address} (start : Nat) (wrong : listed.length ≠ 2) :
      AccountsFinding fixture [⟨start, .accounts, some (.ok listed)⟩]
        (.error (.accountCountMismatch 2 listed.length))
  | account {listed : List Address} {index : Nat} {account : Account} {actual : Address}
      (start : Nat) (count : listed.length = 2)
      (expected : fixture.accounts[index]? = some account) (found : listed[index]? = some actual)
      (wrong : account.address ≠ actual)
      (first : ∀ j < index, listed[j]? = fixture.accounts[j]?.map Account.address) :
      AccountsFinding fixture [⟨start, .accounts, some (.ok listed)⟩]
        (.error (.accountMismatch index account.role account.address actual))
  | passed (start : Nat) :
      AccountsFinding fixture [⟨start, .accounts, some (.ok [fixture.whale, fixture.user])⟩]
        (.ok [fixture.whale, fixture.user])

/-- What a receipt and the transaction of its submission come to: the first rule of a plain transfer
that they break, with what there is in its place. -/
inductive TransferVerdict (intent : TransferIntent) (receipt : Receipt)
    (record : TransactionRecord) : Except CheckError TransferOutcome → Prop where
  | noStatus (missing : receipt.status = none) :
      TransferVerdict intent receipt record (.error (.missingReceiptField receipt.hash .status))
  | reverted {status : UInt64} (present : receipt.status = some status) (wrong : status ≠ 1) :
      TransferVerdict intent receipt record (.error (.transferReverted receipt.hash))
  | noGas (status : receipt.status = some 1) (missing : receipt.gasUsed = none) :
      TransferVerdict intent receipt record (.error (.missingReceiptField receipt.hash .gasUsed))
  | otherGas {gas : Word256} (status : receipt.status = some 1)
      (present : receipt.gasUsed = some gas) (wrong : gas ≠ 21000) :
      TransferVerdict intent receipt record (.error (.unexpectedGasUsed receipt.hash 21000 gas))
  | otherValue (status : receipt.status = some 1) (gas : receipt.gasUsed = some 21000)
      (wrong : record.value ≠ intent.value) :
      TransferVerdict intent receipt record
        (.error (.valueMismatch receipt.hash intent.value record.value))
  | plain (status : receipt.status = some 1) (gas : receipt.gasUsed = some 21000)
      (value : record.value = intent.value) :
      TransferVerdict intent receipt record
        (.ok ⟨intent, receipt.hash, 21000, receipt.blockNumber⟩)

/-- What a transfer comes to with the calls that are made for it, until the time when it is over. -/
inductive TransferFinding (intent : TransferIntent) (policy : WaitPolicy) :
    List Call → Except CheckError TransferOutcome → Nat → Prop where
  | answered {calls : List Call} {e : CheckError} (now : Nat) (answer : AnswersAtLast calls e) :
      TransferFinding intent policy calls (.error e) now
  | noReceipt {hash : TxHash} {polls : List Call} (start begun : Nat)
      (missing : NoReceipt policy hash begun polls) :
      TransferFinding intent policy (⟨start, .send intent, some (.ok hash)⟩ :: polls)
        (.error (.receiptTimeout hash policy.timeout)) (policy.deadline begun)
  | notKnown {hash : TxHash} {polls : List Call} {receipt : Receipt} {begun : Nat}
      (start last fetched now : Nat)
      (polled : PollsFrom hash begun polls ⟨last, .receipt hash, some (.ok (some receipt))⟩)
      (inTime : fetched ≤ policy.deadline begun) :
      TransferFinding intent policy
        (⟨start, .send intent, some (.ok hash)⟩ ::
          (polls ++ [⟨last, .receipt hash, some (.ok (some receipt))⟩,
            ⟨fetched, .transaction hash, some (.ok none)⟩]))
        (.error (.transactionNotFound hash)) now
  | judged {hash : TxHash} {polls : List Call} {receipt : Receipt} {record : TransactionRecord}
      {r : Except CheckError TransferOutcome} {begun : Nat} (start last fetched now : Nat)
      (polled : PollsFrom hash begun polls ⟨last, .receipt hash, some (.ok (some receipt))⟩)
      (inTime : fetched ≤ policy.deadline begun)
      (verdict : TransferVerdict intent receipt record r) :
      TransferFinding intent policy
        (⟨start, .send intent, some (.ok hash)⟩ ::
          (polls ++ [⟨last, .receipt hash, some (.ok (some receipt))⟩,
            ⟨fetched, .transaction hash, some (.ok (some record))⟩])) r now

variable {σ : Type}

theorem IdentityEnds.finding {client : Client σ} {target : Target} {memory m : σ} {start now : Nat}
    {r : Except CheckError UInt64} {made : List Call}
    (h : IdentityEnds client target memory start r m now made) : IdentityFinding target made r := by
  cases h with
  | notDeclared wrong => exact .declared wrong
  | @asked r _ declared reply =>
    cases hresult : r.result with
    | error e => exact .answered start declared
    | ok live =>
      by_cases hlive : live = target.expectedChainId
      · rw [hlive, judged, checkChainId, if_pos rfl]
        exact .passed start declared
      · rw [judged, checkChainId, if_neg hlive]
        exact .live start declared hlive

/-- The mismatch that is found is at the first place where the listed address is another one. -/
theorem firstMismatch_eq_some {n : Nat} {accounts : List Account} {listed : List Address}
    {e : CheckError} (h : firstMismatch n accounts listed = some e) :
    ∃ k account actual, accounts[k]? = some account ∧ listed[k]? = some actual ∧
      account.address ≠ actual ∧
      (∀ j < k, listed[j]? = accounts[j]?.map Account.address) ∧
      e = .accountMismatch (n + k) account.role account.address actual := by
  fun_induction firstMismatch n accounts listed with
  | case1 n account accounts listed ih =>
    obtain ⟨k, other, found, hother, hfound, hne, hfirst, rfl⟩ := ih h
    refine ⟨k + 1, other, found, hother, hfound, hne, fun j hj => ?_, ?_⟩
    · cases j with
      | zero => rfl
      | succ j => exact hfirst j (Nat.lt_of_succ_lt_succ hj)
    · rw [Nat.add_right_comm, Nat.add_assoc]
  | case2 n account accounts actual listed hne =>
    obtain rfl := Option.some.inj h
    exact ⟨0, account, actual, rfl, rfl, hne, fun j hj => absurd hj (Nat.not_lt_zero j), rfl⟩
  | case3 => cases h

theorem AccountsEnds.finding {client : Client σ} {fixture : Fixture} {memory m : σ}
    {start now : Nat} {r : Except CheckError (List Address)} {made : List Call}
    (h : AccountsEnds client fixture memory start r m now made) :
    AccountsFinding fixture made r := by
  cases h with
  | @asked r _ reply =>
    cases hresult : r.result with
    | error e => exact .answered start
    | ok listed =>
      rw [judged]
      cases hjudged : checkProvisioning fixture listed with
      | ok u =>
        obtain rfl := checkProvisioning_ok_iff.mp hjudged
        exact .passed start
      | error e =>
        by_cases hcount : listed.length = Defaults.accountCount
        · rw [checkProvisioning, if_neg (not_not.mpr hcount)] at hjudged
          cases hfirst : firstMismatch 0 fixture.accounts listed with
          | none =>
            rw [hfirst] at hjudged
            cases hjudged
          | some found =>
            rw [hfirst] at hjudged
            obtain rfl := Except.error.inj hjudged
            obtain ⟨k, account, actual, hexpected, hfound, hne, hbefore, rfl⟩ :=
              firstMismatch_eq_some hfirst
            rw [Nat.zero_add]
            exact .account start hcount hexpected hfound hne hbefore
        · rw [checkProvisioning, if_pos hcount] at hjudged
          obtain rfl := Except.error.inj hjudged
          exact .count start hcount

theorem judgeTransfer_verdict (intent : TransferIntent) (receipt : Receipt)
    (record : TransactionRecord) :
    TransferVerdict intent receipt record (judgeTransfer intent receipt record) := by
  have hplain : plainTransferGas = 21000 := rfl
  unfold judgeTransfer
  rw [hplain]
  cases hstatus : receipt.status with
  | none => exact .noStatus hstatus
  | some status =>
    dsimp only
    by_cases hone : status ≠ 1
    · rw [if_pos hone]
      exact .reverted hstatus hone
    · rw [if_neg hone]
      rw [not_not.mp hone] at hstatus
      cases hgas : receipt.gasUsed with
      | none => exact .noGas hstatus hgas
      | some gas =>
        dsimp only
        by_cases hused : gas ≠ 21000
        · rw [if_pos hused]
          exact .otherGas hstatus hgas hused
        · rw [if_neg hused]
          rw [not_not.mp hused] at hgas ⊢
          by_cases hvalue : record.value ≠ intent.value
          · rw [if_pos hvalue]
            exact .otherValue hstatus hgas hvalue
          · rw [if_neg hvalue]
            exact .plain hstatus hgas (not_not.mp hvalue)

/-- There is one verdict: the first rule that is broken, or none. -/
theorem transferVerdict_iff {intent : TransferIntent} {receipt : Receipt}
    {record : TransactionRecord} {r : Except CheckError TransferOutcome} :
    TransferVerdict intent receipt record r ↔ judgeTransfer intent receipt record = r := by
  have hplain : plainTransferGas = 21000 := rfl
  constructor
  · intro h
    unfold judgeTransfer
    rw [hplain]
    cases h with
    | noStatus missing => rw [missing]
    | reverted present wrong =>
      rw [present]
      exact if_pos wrong
    | noGas status missing => rw [status, missing]; rfl
    | otherGas status present wrong =>
      rw [status, present]
      exact if_pos wrong
    | otherValue status gas wrong =>
      rw [status, gas]
      exact if_pos wrong
    | plain status gas value =>
      rw [status, gas]
      exact if_neg (not_not.mpr value)
  · rintro rfl
    exact judgeTransfer_verdict intent receipt record

theorem TransferProtocol.finding {intent : TransferIntent} {policy : WaitPolicy}
    {calls : List Call} {r : Except CheckError TransferOutcome} {now : Nat}
    (h : TransferProtocol intent policy calls r now) :
    TransferFinding intent policy calls r now := by
  cases h with
  | notSent start => exact .answered now ⟨[], start, _, rfl⟩
  | notReceived start begun missing => exact .noReceipt start begun missing
  | pollFailed start last => exact .answered now ⟨_ :: _, last, _, rfl⟩
  | @notFetched hash polls receipt e _ start last fetched =>
    refine .answered now ⟨⟨start, .send intent, some (.ok hash)⟩ ::
      (polls ++ [⟨last, .receipt hash, some (.ok (some receipt))⟩]), fetched, .transaction hash, ?_⟩
    simp
  | notKnown start last fetched _ polled inTime =>
    exact .notKnown start last fetched now polled inTime
  | judged start last fetched _ polled inTime =>
    exact .judged start last fetched now polled inTime (judgeTransfer_verdict ..)

theorem IdentityEnds.hears {client : Client σ} {target : Target} {memory m : σ} {start now : Nat}
    {r : Except CheckError UInt64} {made : List Call}
    (h : IdentityEnds client target memory start r m now made) :
    client.Hears ⟨memory, start⟩ made ⟨m, now⟩ := by
  cases h with
  | notDeclared => exact .nothing _
  | asked declared reply => exact .of_reply reply (.nothing _)

theorem AccountsEnds.hears {client : Client σ} {fixture : Fixture} {memory m : σ} {start now : Nat}
    {r : Except CheckError (List Address)} {made : List Call}
    (h : AccountsEnds client fixture memory start r m now made) :
    client.Hears ⟨memory, start⟩ made ⟨m, now⟩ := by
  cases h with
  | asked reply => exact .of_reply reply (.nothing _)

/-- For every suite, client and state of the conversation: the calls of a run are those of its four
checks, the client is asked nothing else and no answer is lost that comes in time, and what each
check has come to is what is first found in its own calls. The second transfer begins when the first
is over. -/
theorem Suite.run_findings (s : Suite) (client : Client σ) (session : Session σ) :
    ∃ asked listed first second identity accounts whale user between,
      ((s.run client).run session).1.outcomes =
        [⟨"chain identity", identity.map .chainId⟩, ⟨"wallet accounts", accounts.map .accounts⟩,
          ⟨"whale transfer", whale.map .transfer⟩, ⟨"user transfer", user.map .transfer⟩] ∧
      ((s.run client).run session).2.calls.toList =
        session.calls.toList ++ (asked ++ listed ++ first ++ second) ∧
      client.Hears session.moment (asked ++ listed ++ first) between ∧
      client.Hears between second ((s.run client).run session).2.moment ∧
      IdentityFinding s.target asked identity ∧ AccountsFinding s.fixture listed accounts ∧
      TransferFinding (s.intent .whale) s.wait first whale between.now ∧
      TransferFinding (s.intent .user) s.wait second user
        ((s.run client).run session).2.now := by
  obtain ⟨identity, _, _, asked, hidentity, hidentified, hasked⟩ :=
    s.identified_ends client session
  obtain ⟨accounts, _, _, listed, haccounts, hlisted, hlist⟩ := s.listed_ends client session
  obtain ⟨whale, memory, now, first, hfirst, hwhale, hmade⟩ :=
    s.transferred_ends client .whale (s.listed client session).2
  obtain ⟨user, _, _, second, hsecond, huser, hlast⟩ :=
    s.transferred_ends client .user (s.whaleTransfer client session).2
  rw [hasked.memory, hasked.now] at haccounts
  rw [hlist.memory, hlist.now] at hfirst
  change (s.whaleTransfer client session).2.Stands _ _ _ at hmade
  rw [hmade.memory, hmade.now] at hsecond
  change (s.userTransfer client session).2.Stands _ _ _ at hlast
  refine ⟨asked, listed, first, second, identity, accounts, whale, user, ⟨memory, now⟩, ?_, ?_,
    (hidentity.hears.append haccounts.hears).append hfirst.hears, ?_, hidentity.finding,
    haccounts.finding, hfirst.protocol.finding, ?_⟩
  · rw [run_eq_parts, hidentified, hlisted, whaleTransfer, hwhale, userTransfer, huser,
      transferName_whale, transferName_user]
  · rw [run_eq_parts, hlast.calls, hmade.calls, hlist.calls, hasked.calls]
    simp only [List.append_assoc]
  · rw [run_eq_parts, hlast.moment]
    exact hsecond.hears
  · rw [run_eq_parts, hlast.now]
    exact hsecond.protocol.finding

end Devnet
