import Devnet.Proofs.CheckResult
import Devnet.Script

namespace Devnet

variable {σ α : Type}

/-- Polls from a moment on, one at each interval of at least a millisecond, until a timeout. -/
def Wait.every (client : Client σ) (timeout interval : Nat) (hash : TxHash) (a : Moment σ) :
    Wait σ :=
  ⟨client, hash, a.memory, a.now, fun k => a.now + k * max interval 1, a.now + timeout⟩

theorem WaitPolicy.wait_eq_every {timeout interval : Nat}
    (h : interval ≤ 30 * 365 * 86400 * 1000) (client : Client σ) (hash : TxHash) (a : Moment σ) :
    WaitPolicy.wait ⟨.ofMilliseconds timeout, .ofMilliseconds interval⟩ client hash a.memory a.now =
      Wait.every client timeout interval hash a := by
  have hdue := funext (@due_ofMilliseconds timeout interval h a.now)
  rw [wait, hdue, deadline_ofMilliseconds]
  rfl

namespace Suite

/-- What a run asks of a network from a moment on: the known chain id is declared and answered,
the two accounts are listed, and both transfers come to their outcomes. -/
def Conforms (s : Suite) (client : Client σ) (wait : TxHash → Moment σ → Wait σ)
    (Counts : Wait σ → Nat → Prop) (a : Moment σ) (whale user : TransferOutcome) : Prop :=
  s.target.chainId = s.target.network.chainId ∧
  ∃ b c d e,
    client.Answers .chainId s.target.network.chainId a b ∧
    client.Answers .accounts [s.fixture.whale, s.fixture.user] b c ∧
    TransferConforms client wait Counts ⟨s.fixture.whale, s.fixture.user, s.transferValue⟩ c d
      whale ∧
    TransferConforms client wait Counts ⟨s.fixture.user, s.fixture.whale, s.transferValue⟩ d e
      user

theorem record_run_fst (name : String) (detail : α → Detail) (check : Action σ α)
    (s : Session σ) :
    ((record name detail check).run s).1 = ⟨name, (check.run s).1.map detail⟩ := by
  change (record name detail check s).1 = _
  unfold record
  rcases check.run s with ⟨e | v, t⟩ <;> rfl

theorem record_run_moment (name : String) (detail : α → Detail) (check : Action σ α)
    (s : Session σ) : ((record name detail check).run s).2.moment = (check.run s).2.moment := by
  change (record name detail check s).2.moment = _
  unfold record
  rcases check.run s with ⟨e | v, t⟩ <;> rfl

theorem record_of_passes (name : String) (detail : α → Detail) {check : Action σ α}
    {s : Session σ} {v : α} {b : Moment σ} (h : check.Passes s v b) :
    ((record name detail check).run s).1 = ⟨name, .ok (detail v)⟩ ∧
      ((record name detail check).run s).2.moment = b := by
  rw [record_run_fst, record_run_moment, h.result]
  exact ⟨rfl, h.moment⟩

theorem passes_of_record {name : String} {detail : α → Detail} {check : Action σ α}
    {s : Session σ} (h : ((record name detail check).run s).1.passed = true) :
    ∃ v, check.Passes s v ((record name detail check).run s).2.moment := by
  rw [record_run_fst] at h
  rw [record_run_moment]
  cases hresult : (check.run s).1 with
  | error e =>
    rw [hresult] at h
    cases h
  | ok v => exact ⟨v, hresult, rfl⟩

def begun (s : Suite) (session : Session σ) : Session σ :=
  session.noted
    ⟨.info, .suite, "running conformance checks", [("network", s.target.network.name)]⟩

theorem begun_moment (s : Suite) (session : Session σ) :
    (s.begun session).moment = session.moment := rfl

/-- A run is its four checks one after the other. -/
theorem run_eq (s : Suite) (client : Client σ) (session : Session σ) :
    (s.run client).run session =
      let identity := (record "chain identity" .chainId
        (checkChainIdentity client s.target)).run (s.begun session)
      let accounts := (record "wallet accounts" .accounts
        (checkWalletAccounts client s.fixture)).run identity.2
      let whale := (record "whale transfer" .transfer
        (checkTransfer client (s.intent .whale) s.wait)).run accounts.2
      let user := (record "user transfer" .transfer
        (checkTransfer client (s.intent .user) s.wait)).run whale.2
      (⟨s.target.network, [identity.1, accounts.1, whale.1, user.1]⟩, user.2) := by
  have hwhale : transferName .whale = "whale transfer" := by decide
  have huser : transferName .user = "user transfer" := by decide
  simp only [run, intents, List.mapM_cons, List.mapM_nil, StateT.run_bind, StateT.run_modify,
    pure_bind, bind_pure_comp, StateT.run_map, map_pure, hwhale, huser, Functor.map_map]
  rfl

def polls (s : Suite) (client : Client σ) (hash : TxHash) (a : Moment σ) : Wait σ :=
  s.wait.wait client hash a.memory a.now

theorem polls_eq_every (s : Suite) {timeout interval : Nat}
    (hwait : s.wait = ⟨.ofMilliseconds timeout, .ofMilliseconds interval⟩)
    (hinterval : interval ≤ 30 * 365 * 86400 * 1000) (client : Client σ) :
    s.polls client = Wait.every client timeout interval := by
  funext hash a
  rw [polls, hwait, WaitPolicy.wait_eq_every hinterval]

theorem run_names (s : Suite) (client : Client σ) (session : Session σ) :
    ((s.run client).run session).1.outcomes.map (·.name) =
      ["chain identity", "wallet accounts", "whale transfer", "user transfer"] := by
  rw [run_eq]
  simp only [List.map_cons, List.map_nil, record_run_fst]

theorem run_outcomes_of_conforms {s : Suite} {client : Client σ} {session : Session σ}
    {whale user : TransferOutcome}
    (h : s.Conforms client (s.polls client) Wait.InTurn session.moment whale user) :
    ((s.run client).run session).1.outcomes =
      [⟨"chain identity", .ok (.chainId s.target.network.chainId)⟩,
        ⟨"wallet accounts", .ok (.accounts [s.fixture.whale, s.fixture.user])⟩,
        ⟨"whale transfer", .ok (.transfer whale)⟩, ⟨"user transfer", .ok (.transfer user)⟩] := by
  obtain ⟨hdeclared, b, c, d, e, hchain, haccounts, hwhale, huser⟩ := h
  rw [← s.begun_moment session] at hchain
  change TransferConforms client _ _ (s.intent .whale) c d whale at hwhale
  change TransferConforms client _ _ (s.intent .user) d e user at huser
  obtain ⟨hidentity, rfl⟩ := record_of_passes "chain identity" .chainId
    (checkChainIdentity_passes_iff.mpr ⟨hdeclared, rfl, hchain⟩)
  obtain ⟨hlisted, rfl⟩ := record_of_passes "wallet accounts" .accounts
    (checkWalletAccounts_passes_iff.mpr ⟨rfl, haccounts⟩)
  obtain ⟨hfirst, rfl⟩ := record_of_passes "whale transfer" .transfer
    (checkTransfer_passes_iff.mpr hwhale)
  obtain ⟨hsecond, -⟩ := record_of_passes "user transfer" .transfer
    (checkTransfer_passes_iff.mpr huser)
  rw [run_eq]
  dsimp only
  rw [hidentity, hlisted, hfirst, hsecond]
  rfl

theorem conforms_of_run_isSuccess {s : Suite} {client : Client σ} {session : Session σ}
    (h : ((s.run client).run session).1.isSuccess = true) :
    ∃ whale user, s.Conforms client (s.polls client) Wait.InTurn session.moment whale user := by
  rw [run_eq] at h
  simp only [Report.isSuccess, List.all_cons, List.all_nil, Bool.and_true, Bool.and_eq_true] at h
  obtain ⟨hidentity, haccounts, hwhale, huser⟩ := h
  obtain ⟨v, hidentity⟩ := passes_of_record hidentity
  obtain ⟨listed, haccounts⟩ := passes_of_record haccounts
  obtain ⟨whale, hwhale⟩ := passes_of_record hwhale
  obtain ⟨user, huser⟩ := passes_of_record huser
  obtain ⟨hdeclared, -, hchain⟩ := checkChainIdentity_passes_iff.mp hidentity
  obtain ⟨-, haccounts⟩ := checkWalletAccounts_passes_iff.mp haccounts
  exact ⟨whale, user, hdeclared, _, _, _, _, hchain, haccounts,
    checkTransfer_passes_iff.mp hwhale, checkTransfer_passes_iff.mp huser⟩

/-- With whole milliseconds between the polls, at most thirty years of them: a run has four
outcomes, it succeeds exactly if the network conforms in polls that are made, and then the outcomes
tell what the network has answered. -/
theorem run_succeeds_iff_conforms {s : Suite} {timeout interval : Nat}
    (hwait : s.wait = ⟨.ofMilliseconds timeout, .ofMilliseconds interval⟩)
    (hinterval : interval ≤ 30 * 365 * 86400 * 1000) (client : Client σ) (session : Session σ) :
    ((s.run client).run session).1.outcomes.map (·.name) =
      ["chain identity", "wallet accounts", "whale transfer", "user transfer"] ∧
    (((s.run client).run session).1.isSuccess = true ↔
      ∃ whale user, s.Conforms client (Wait.every client timeout interval) Wait.InTurn
        session.moment whale user) ∧
    ∀ whale user, s.Conforms client (Wait.every client timeout interval) Wait.InTurn
        session.moment whale user →
      ((s.run client).run session).1.outcomes =
        [⟨"chain identity", .ok (.chainId s.target.network.chainId)⟩,
          ⟨"wallet accounts", .ok (.accounts [s.fixture.whale, s.fixture.user])⟩,
          ⟨"whale transfer", .ok (.transfer whale)⟩,
          ⟨"user transfer", .ok (.transfer user)⟩] := by
  rw [← s.polls_eq_every hwait hinterval client]
  refine ⟨s.run_names client session, ⟨conforms_of_run_isSuccess, ?_⟩, ?_⟩
  · rintro ⟨whale, user, h⟩
    rw [Report.isSuccess, run_outcomes_of_conforms h]
    rfl
  · intro whale user h
    exact run_outcomes_of_conforms h

end Suite

namespace Script

def plainReceipt : Receipt := ⟨⟨7⟩, some 1, some 21000, none⟩

/-- A network with two accounts that takes every transfer and answers the polls as given. -/
def taking (receipts : List (Cue (Option Receipt))) : Script :=
  ⟨[⟨.ok 31337, 0⟩], [⟨.ok [⟨0⟩, ⟨1⟩], 0⟩], [⟨.ok ⟨7⟩, 0⟩], receipts, [],
    [⟨.ok (some ⟨⟨7⟩, ⟨0⟩, some ⟨1⟩, Defaults.transferValue⟩), 0⟩]⟩

/-- `k` polls that find nothing, and then a receipt. -/
def foundAfter (k : Nat) : List (Cue (Option Receipt)) :=
  List.replicate k ⟨.ok none, 0⟩ ++ [⟨.ok (some plainReceipt), 0⟩]

/-- The first poll lasts until the deadline of a hasty suite; then as many find nothing as there
is room for in a turn. -/
def tardy : Script := taking (⟨.ok none, 128⟩ :: foundAfter 127)

theorem reply_foundAfter (hash : TxHash) (k : Nat) :
    reply (.receipt hash) (taking (foundAfter (k + 1))) =
      (⟨.ok none, 0, []⟩, taking (foundAfter k)) := by
  cases k <;> rfl

def hastyPolls (s : Script) (now : Nat) : Wait Script := .every client 128 1 ⟨7⟩ ⟨s, now⟩

theorem tardy_before {k : Nat} (h : k ≤ 127) :
    (tardy.hastyPolls 0).before (k + 1) = (taking (foundAfter (127 - k)), 128) := by
  induction k with
  | zero => rfl
  | succ k ih =>
    have hk : 127 - k = 127 - (k + 1) + 1 := by omega
    have hbefore := ih (by omega)
    rw [hk] at hbefore
    rw [Wait.before, hbefore]
    have hreply := reply_foundAfter ⟨7⟩ (127 - (k + 1))
    have hstart : max (0 + (k + 1) * 1) 128 + 0 = 128 := by omega
    exact Prod.ext (congrArg Prod.snd hreply)
      ((congrArg (fun r => max (0 + (k + 1) * 1) 128 + r.1.delay) hreply).trans hstart)

theorem tardy_finds : (tardy.hastyPolls 0).Finds 128 plainReceipt where
  pending k hk := by
    cases k with
    | zero => rfl
    | succ k =>
      have hleft : 127 - k = 126 - k + 1 := by omega
      rw [Wait.reply, tardy_before (by omega), hleft]
      exact congrArg (fun r => r.1.result) (reply_foundAfter ⟨7⟩ (126 - k))
  result := by
    rw [Wait.reply, tardy_before (by omega)]
    rfl
  inTime := by
    rw [Wait.pollEnd, Wait.pollStart, Wait.reply, tardy_before (by omega)]
    decide

theorem tardy_not_inTurn : ¬ (tardy.hastyPolls 0).InTurn 128 := by
  intro h
  exact absurd (h (by decide)) (by decide)

theorem tardy_after : (tardy.hastyPolls 0).after 128 = ⟨taking (foundAfter 0), 128⟩ := by
  rw [Wait.after, Wait.pollEnd, Wait.pollStart, Wait.before_succ_fst, Wait.reply,
    tardy_before (by omega)]
  rfl

theorem prompt_finds (now : Nat) :
    ((taking (foundAfter 0)).hastyPolls now).Finds 0 plainReceipt where
  pending k hk := absurd hk (Nat.not_lt_zero k)
  result := rfl
  inTime := by
    change max (now + 0 * 1) now + 0 ≤ now + 128
    omega

theorem prompt_after (now : Nat) :
    ((taking (foundAfter 0)).hastyPolls now).after 0 = ⟨taking (foundAfter 0), now⟩ := by
  have hstart : max (now + 0 * 1) now + 0 = now := by omega
  exact congrArg (Moment.mk _) hstart

theorem taking_conforms {receipts later : List (Cue (Option Receipt))} {now ended n : Nat}
    {Counts : Wait Script → Nat → Prop} {intent : TransferIntent}
    (hvalue : intent.value = Defaults.transferValue)
    (hfinds : ((taking receipts).hastyPolls now).Finds n plainReceipt)
    (hcounts : Counts ((taking receipts).hastyPolls now) n)
    (hafter : ((taking receipts).hastyPolls now).after n = ⟨taking later, ended⟩) :
    TransferConforms client (Wait.every client 128 1) Counts intent ⟨taking receipts, now⟩
      ⟨taking later, ended⟩ ⟨intent, ⟨7⟩, 21000, none⟩ := by
  have accepted : client.Answers (.send intent) ⟨7⟩ ⟨taking receipts, now⟩
      ⟨taking receipts, now⟩ := ⟨rfl, rfl⟩
  have fetched : client.Answers (.transaction ⟨7⟩)
      (some ⟨⟨7⟩, ⟨0⟩, some ⟨1⟩, Defaults.transferValue⟩)
      (((taking receipts).hastyPolls now).after n) ⟨taking later, ended⟩ := by
    rw [hafter]
    exact ⟨rfl, rfl⟩
  exact .included accepted hfinds hcounts rfl rfl fetched hvalue.symm

end Script

namespace Suite

open Script

/-- Polls every millisecond, for no longer than a turn has polls. -/
def hasty : Suite :=
  plain (.ofNetwork .hardhat) ⟨⟨0⟩, ⟨1⟩⟩ ⟨.ofMilliseconds 128, .ofMilliseconds 1⟩

/-- A hasty suite succeeds with a network that shows every receipt at once. -/
theorem run_succeeds_with_prompt_receipts :
    hasty.wait = ⟨.ofMilliseconds 128, .ofMilliseconds 1⟩ ∧ 1 ≤ 30 * 365 * 86400 * 1000 ∧
    ((hasty.run Script.client).run (Session.start (taking (foundAfter 0)))).1.isSuccess = true := by
  have hruns := run_succeeds_iff_conforms (s := hasty) rfl (by decide) Script.client
    (Session.start (taking (foundAfter 0)))
  have hcounts (now : Nat) : ((taking (foundAfter 0)).hastyPolls now).InTurn 0 :=
    fun h => absurd h (by decide)
  refine ⟨rfl, by decide, hruns.2.1.mpr ⟨_, _, rfl, _, _, _, _, ⟨rfl, rfl⟩, ⟨rfl, rfl⟩,
    taking_conforms rfl (prompt_finds 0) (hcounts 0) (prompt_after 0),
    taking_conforms rfl (prompt_finds 0) (hcounts 0) (prompt_after 0)⟩⟩

/-- Not every poll that would end by the deadline is made: with a first receipt that is due when
the turn at the deadline is used up, a hasty suite fails. -/
theorem run_fails_in_spent_turn :
    (∃ whale user, hasty.Conforms Script.client (Wait.every Script.client 128 1)
      (fun _ _ => True) (Session.start tardy).moment whale user) ∧
    ((hasty.run Script.client).run (Session.start tardy)).1.isSuccess = false := by
  constructor
  · exact ⟨_, _, rfl, _, _, _, _, ⟨rfl, rfl⟩, ⟨rfl, rfl⟩,
      taking_conforms rfl tardy_finds trivial tardy_after,
      taking_conforms rfl (prompt_finds 128) trivial (prompt_after 128)⟩
  · rw [Bool.eq_false_iff]
    intro hsuccess
    obtain ⟨whale, user, -, b, c, d, e, hchain, haccounts, htransfer, -⟩ :=
      conforms_of_run_isSuccess hsuccess
    obtain rfl := hchain.next
    obtain rfl := haccounts.next
    rw [hasty.polls_eq_every rfl (by decide : 1 ≤ _) Script.client] at htransfer
    obtain ⟨accepted, found, counts, -, -, -, -⟩ := htransfer
    obtain rfl := accepted.next
    cases accepted.result
    obtain rfl := found.unique tardy_finds
    exact tardy_not_inTurn counts

end Suite

end Devnet
