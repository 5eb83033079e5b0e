import Devnet.Proofs.ConversationView

namespace Devnet

namespace Script

/-- The scripts of the questions that a transfer asks are the same. -/
structure SameTransfers (a b : Script) : Prop where
  send : a.send = b.send
  receipt : a.receipt = b.receipt
  transaction : a.transaction = b.transaction

/-- `other` with the replies of `m` to the questions of a transfer. -/
def withTransfersOf (other m : Script) : Script :=
  { other with send := m.send, receipt := m.receipt, transaction := m.transaction }

theorem SameTransfers.withTransfersOf_eq {m other : Script} (h : m.SameTransfers other) :
    other.withTransfersOf m = other := by
  rw [withTransfersOf, h.send, h.receipt, h.transaction]

theorem reply_withTransfersOf (other m : Script) {q : Query} (h : q.ofTransfer = true) :
    reply q (other.withTransfersOf m) =
      ((reply q m).1, other.withTransfersOf (reply q m).2) := by
  cases q with
  | chainId | accounts | balance => cases h
  | send | receipt | transaction => rfl

theorem SameTransfers.refl (a : Script) : a.SameTransfers a := ⟨rfl, rfl, rfl⟩

theorem SameTransfers.trans {a b c : Script} (hab : a.SameTransfers b) (hbc : b.SameTransfers c) :
    a.SameTransfers c :=
  ⟨hab.send.trans hbc.send, hab.receipt.trans hbc.receipt, hab.transaction.trans hbc.transaction⟩

end Script

/-- Only the script of the chain id moves on, and nothing is asked that belongs to a transfer. -/
theorem IdentityEnds.leavesTransfers {target : Target} {m m' : Script} {start now : Nat}
    {r : Except CheckError UInt64} {made : List Call}
    (h : IdentityEnds Script.client target m start r m' now made) :
    m.SameTransfers m' ∧ ∀ c ∈ made, c.query.ofTransfer = false := by
  cases h with
  | notDeclared => exact ⟨⟨rfl, rfl, rfl⟩, by simp⟩
  | asked declared reply =>
    cases reply
    exact ⟨⟨rfl, rfl, rfl⟩, by simp [Query.ofTransfer]⟩

theorem AccountsEnds.leavesTransfers {fixture : Fixture} {m m' : Script} {start now : Nat}
    {r : Except CheckError (List Address)} {made : List Call}
    (h : AccountsEnds Script.client fixture m start r m' now made) :
    m.SameTransfers m' ∧ ∀ c ∈ made, c.query.ofTransfer = false := by
  cases h with
  | asked reply =>
    cases reply
    exact ⟨⟨rfl, rfl, rfl⟩, by simp [Query.ofTransfer]⟩

theorem IdentityEnds.accounts_eq {target : Target} {m m' : Script} {start now : Nat}
    {r : Except CheckError UInt64} {made : List Call}
    (h : IdentityEnds Script.client target m start r m' now made) : m'.accounts = m.accounts := by
  cases h with
  | notDeclared => rfl
  | asked declared reply =>
    cases reply
    rfl

/-- The chain identity comes to what the script of the chain id says. -/
theorem IdentityEnds.result_eq {s t : Target} {m n m' n' : Script} {start begun now ended : Nat}
    {r q : Except CheckError UInt64} {made asked : List Call}
    (h : IdentityEnds Script.client s m start r m' now made)
    (h' : IdentityEnds Script.client t n begun q n' ended asked)
    (hnetwork : s.network = t.network) (hdeclared : s.chainId = t.chainId)
    (hscript : m.chainId = n.chainId) : r = q := by
  have hexpected : s.expectedChainId = t.expectedChainId := congrArg KnownNetwork.chainId hnetwork
  cases h with
  | notDeclared wrong =>
    cases h' with
    | notDeclared => rw [hexpected, hdeclared]
    | asked declared => exact absurd (by rw [hdeclared, hexpected, declared]) wrong
  | asked declared reply =>
    cases h' with
    | notDeclared wrong => exact absurd (by rw [← hdeclared, ← hexpected, declared]) wrong
    | asked _ reply' =>
      cases reply
      cases reply'
      rw [hscript, hexpected]

/-- The accounts come to what their script says. -/
theorem AccountsEnds.result_eq {fixture : Fixture} {m n m' n' : Script}
    {start begun now ended : Nat} {r q : Except CheckError (List Address)} {made asked : List Call}
    (h : AccountsEnds Script.client fixture m start r m' now made)
    (h' : AccountsEnds Script.client fixture n begun q n' ended asked)
    (hscript : m.accounts = n.accounts) : r = q := by
  cases h with
  | asked reply =>
    cases h' with
    | asked reply' =>
      cases reply
      cases reply'
      rw [hscript]

/-- The recorded questions that belong to a transfer, in order. -/
def Session.transferCalls {σ : Type} (s : Session σ) : List Call :=
  s.calls.toList.filter (·.query.ofTransfer)

theorem Call.later_later (ahead more : Nat) :
    Call.later more ∘ Call.later ahead = Call.later (ahead + more) := by
  funext c
  simp [Call.later, Nat.add_assoc]

/-- The same calls: those of one list are those of the other, asked that much later. -/
def Call.Shifted (xs ys : List Call) : Prop :=
  ∃ ahead, ys = xs.map (later ahead) ∨ xs = ys.map (later ahead)

theorem Call.shifted_map_later (calls : List Call) (ahead more : Nat) :
    Shifted (calls.map (later ahead)) (calls.map (later more)) := by
  rcases Nat.le_total ahead more with h | h
  · refine ⟨more - ahead, .inl ?_⟩
    rw [List.map_map, later_later, Nat.add_sub_cancel' h]
  · refine ⟨ahead - more, .inr ?_⟩
    rw [List.map_map, later_later, Nat.add_sub_cancel' h]

/-- How a session of a scripted client shows that begins where `u` stands. -/
def Session.view (u : Session Script) : View Script Script :=
  ⟨u.memory.withTransfersOf, u.now, u.calls, u.log⟩

theorem Session.view_start {u : Session Script} {m : Script} (h : m.SameTransfers u.memory) :
    u.view.of (.start m) = u := by
  simp [view, View.of, start, h.withTransfersOf_eq]

theorem Session.view_keeps (u : Session Script) {q : Query} (h : q.ofTransfer = true) :
    u.view.Keeps Script.client Script.client q :=
  fun m => u.memory.reply_withTransfersOf m h

theorem Session.transferCalls_view (u s : Session Script) :
    (u.view.of s).transferCalls = u.transferCalls ++ s.transferCalls.map (Call.later u.now) := by
  have hquery (c : Call) : (c.later u.now).query = c.query := rfl
  simp only [transferCalls, View.of, view, Array.toList_append, Array.toList_map,
    List.filter_append, List.filter_map, Function.comp_def, hquery]

namespace Suite

/-- The transfers to run, and how long to wait for them, are the same. -/
structure SameTransfers (s t : Suite) : Prop where
  fixture : s.fixture = t.fixture
  wait : s.wait = t.wait
  value : s.transferValue = t.transferValue

theorem SameTransfers.transferred_eq {σ : Type} {s t : Suite} (h : s.SameTransfers t)
    (client : Client σ) (sender : Role) (session : Session σ) :
    t.transferred client sender session = s.transferred client sender session := by
  have hintent : t.intent sender = s.intent sender := by
    unfold intent
    rw [h.fixture, h.value]
  rw [transferred, transferred, hintent, h.wait]

/-- A transfer in a view is the transfer, seen from there. -/
theorem transferred_view (s : Suite) (u : Session Script) (sender : Role)
    (session : Session Script) :
    s.transferred Script.client sender (u.view.of session) =
      ((s.transferred Script.client sender session).1,
        u.view.of (s.transferred Script.client sender session).2) :=
  u.view.record_of (u.view.shows_checkTransfer (fun _ => u.view_keeps) _ _) _ _ _

/-- Both transfers are those of a conversation that begins with them. -/
theorem transfers_eq_view (s : Suite) {m : Script} {session : Session Script}
    (h : m.SameTransfers (s.listed Script.client session).2.memory) :
    let u := (s.listed Script.client session).2
    let whale := s.transferred Script.client .whale (.start m)
    let user := s.transferred Script.client .user whale.2
    s.whaleTransfer Script.client session = (whale.1, u.view.of whale.2) ∧
      s.userTransfer Script.client session = (user.1, u.view.of user.2) := by
  intro u whale user
  have hwhale : s.whaleTransfer Script.client session = (whale.1, u.view.of whale.2) := by
    have hview := s.transferred_view u .whale (.start m)
    rwa [Session.view_start h] at hview
  refine ⟨hwhale, ?_⟩
  rw [userTransfer, hwhale]
  exact s.transferred_view u .user whale.2

/-- The first two checks leave the scripts of a transfer alone and ask nothing of one. -/
theorem listed_leavesTransfers (s : Suite) (session : Session Script) :
    session.memory.SameTransfers (s.listed Script.client session).2.memory ∧
      (s.listed Script.client session).2.transferCalls = session.transferCalls := by
  obtain ⟨r, memory, now, before, hidentity, -, hidentified⟩ :=
    s.identified_ends Script.client session
  obtain ⟨q, memory', now', after, haccounts, -, hlisted⟩ := s.listed_ends Script.client session
  rw [hidentified.memory] at haccounts
  obtain ⟨hfirst, hbefore⟩ := hidentity.leavesTransfers
  obtain ⟨hsecond, hafter⟩ := haccounts.leavesTransfers
  constructor
  · rw [hlisted.memory]
    exact hfirst.trans hsecond
  · have hnone {calls : List Call} (h : ∀ c ∈ calls, c.query.ofTransfer = false) :
        calls.filter (·.query.ofTransfer) = [] := by
      simpa [List.filter_eq_nil_iff] using h
    rw [Session.transferCalls, hlisted.calls, hidentified.calls, List.filter_append,
      List.filter_append, hnone hbefore, hnone hafter, List.append_nil, List.append_nil]
    rfl

/-- The transfers of a run, whatever it is that comes before them. -/
theorem transfers_of_same {s t : Suite} {m n : Script} (hsuite : s.SameTransfers t)
    (hscript : m.SameTransfers n) (start : Nat) :
    let session := (Session.start n).movedTo start
    let whale := s.transferred Script.client .whale (.start m)
    let user := s.transferred Script.client .user whale.2
    (t.whaleTransfer Script.client session).1 = whale.1 ∧
      (t.userTransfer Script.client session).1 = user.1 ∧
      ∃ ahead, (t.userTransfer Script.client session).2.transferCalls =
        user.2.transferCalls.map (Call.later ahead) := by
  intro session whale user
  obtain ⟨hkept, hcalls⟩ := t.listed_leavesTransfers session
  obtain ⟨hwhale, huser⟩ := t.transfers_eq_view (hscript.trans hkept)
  rw [hsuite.transferred_eq] at hwhale huser
  rw [hsuite.transferred_eq] at huser
  rw [hwhale, huser]
  refine ⟨rfl, rfl, (t.listed Script.client session).2.now, ?_⟩
  rw [Session.transferCalls_view, hcalls]
  exact List.nil_append _

theorem SameTransfers.refl (s : Suite) : s.SameTransfers s := ⟨rfl, rfl, rfl⟩

/-- The chain identity of a run depends on its target and on the script of the chain id. -/
theorem identified_result_eq {s t : Suite} {a b : Session Script}
    (hnetwork : s.target.network = t.target.network)
    (hdeclared : s.target.chainId = t.target.chainId)
    (hscript : a.memory.chainId = b.memory.chainId) :
    (s.identified Script.client a).1.result = (t.identified Script.client b).1.result := by
  obtain ⟨r, _, _, _, hends, hresult, -⟩ := s.identified_ends Script.client a
  obtain ⟨q, _, _, _, hends', hresult', -⟩ := t.identified_ends Script.client b
  rw [hresult, hresult', hends.result_eq hends' hnetwork hdeclared hscript]

theorem identified_accounts (s : Suite) (session : Session Script) :
    (s.identified Script.client session).2.memory.accounts = session.memory.accounts := by
  obtain ⟨r, memory, _, _, hends, -, hstands⟩ := s.identified_ends Script.client session
  rw [hstands.memory, hends.accounts_eq]

/-- The accounts of a run depend on its fixture and on their script. -/
theorem listed_result_eq {s t : Suite} {a b : Session Script} (hfixture : s.fixture = t.fixture)
    (hscript : a.memory.accounts = b.memory.accounts) :
    (s.listed Script.client a).1.result = (t.listed Script.client b).1.result := by
  obtain ⟨r, _, _, _, hends, hresult, -⟩ := s.listed_ends Script.client a
  obtain ⟨q, _, _, _, hends', hresult', -⟩ := t.listed_ends Script.client b
  rw [← hfixture] at hends'
  rw [hresult, hresult', hends.result_eq hends']
  rw [s.identified_accounts, t.identified_accounts, hscript]

/-- The transfers of two runs differ in their times only, by a constant. -/
theorem transfers_eq {s t : Suite} {m n : Script} (hsuite : s.SameTransfers t)
    (hscript : m.SameTransfers n) (start begun : Nat) :
    let a := (Session.start m).movedTo start
    let b := (Session.start n).movedTo begun
    (s.whaleTransfer Script.client a).1 = (t.whaleTransfer Script.client b).1 ∧
      (s.userTransfer Script.client a).1 = (t.userTransfer Script.client b).1 ∧
      Call.Shifted (s.userTransfer Script.client a).2.transferCalls
        (t.userTransfer Script.client b).2.transferCalls := by
  obtain ⟨hwhale, huser, ahead, hcalls⟩ :=
    transfers_of_same (SameTransfers.refl s) (Script.SameTransfers.refl m) start
  obtain ⟨hwhale', huser', ahead', hcalls'⟩ := transfers_of_same hsuite hscript begun
  refine ⟨by rw [hwhale, hwhale'], by rw [huser, huser'], ?_⟩
  rw [hcalls, hcalls']
  exact Call.shifted_map_later _ ahead ahead'

/-- For any two suites and scripts and any two times to begin at: if the transfers are to be the
same and are answered from the same scripts, then both runs find the same of them, by the same calls
at times that are a constant apart; and each of the two checks before them comes to the same in both
runs if its own configuration and its own script are the same. -/
theorem run_checks_independent (s t : Suite) (m n : Script) (start begun : Nat) :
    let a := (s.run Script.client).run ((Session.start m).movedTo start)
    let b := (t.run Script.client).run ((Session.start n).movedTo begun)
    ∃ identity identity' accounts accounts' whale whale' user user',
      a.1.Lists identity accounts whale user ∧ b.1.Lists identity' accounts' whale' user' ∧
      (s.SameTransfers t → m.SameTransfers n →
        whale = whale' ∧ user = user' ∧ Call.Shifted a.2.transferCalls b.2.transferCalls) ∧
      (s.target.network = t.target.network → s.target.chainId = t.target.chainId →
        m.chainId = n.chainId → identity = identity') ∧
      (s.fixture = t.fixture → m.accounts = n.accounts → accounts = accounts') := by
  intro a b
  refine ⟨_, _, _, _, _, _, _, _, s.run_lists _ _, t.run_lists _ _, fun hsuite hscript => ?_,
    fun hnetwork hdeclared hscript => identified_result_eq hnetwork hdeclared hscript,
    fun hfixture hscript => listed_result_eq hfixture hscript⟩
  obtain ⟨hwhale, huser, hcalls⟩ := transfers_eq hsuite hscript start begun
  have ha : a.2 = (s.userTransfer Script.client ((Session.start m).movedTo start)).2 :=
    congrArg Prod.snd (s.run_eq_parts _ _)
  have hb : b.2 = (t.userTransfer Script.client ((Session.start n).movedTo begun)).2 :=
    congrArg Prod.snd (t.run_eq_parts _ _)
  rw [ha, hb]
  exact ⟨congrArg Outcome.result hwhale, congrArg Outcome.result huser, hcalls⟩

open Script in
/-- An account check that takes its time and fails, after a wrong chain id, leaves the transfers as
they are; and a network that takes no transfer leaves the checks before them as they are. -/
theorem run_checks_independent_of_failures :
    let declared := { hasty with target.chainId := 8888 }
    let sluggish := { taking (foundAfter 1) with accounts := [⟨.ok [], 9⟩] }
    let patient := { hasty with wait.timeout := .ofSeconds 60, transferValue := 5 }
    let closed := { taking (foundAfter 1) with send := [] }
    let run (s : Suite) (m : Script) (start : Nat) :=
      (s.run client).run ((Session.start m).movedTo start)
    let a := run hasty (taking (foundAfter 1)) 0
    (a.1.outcomes.drop 2 = (run declared sluggish 6).1.outcomes.drop 2 ∧
      Call.Shifted a.2.transferCalls (run declared sluggish 6).2.transferCalls) ∧
    a.1.outcomes.take 2 = (run patient closed 2).1.outcomes.take 2 := by
  intro declared sluggish patient closed run a
  constructor
  · obtain ⟨_, _, _, _, _, _, _, _, ha, hb, htransfers, -⟩ :=
      run_checks_independent hasty declared (taking (foundAfter 1)) sluggish 0 6
    obtain ⟨hwhale, huser, hcalls⟩ := htransfers ⟨rfl, rfl, rfl⟩ ⟨rfl, rfl, rfl⟩
    refine ⟨?_, hcalls⟩
    rw [ha, hb, hwhale, huser]
    rfl
  · obtain ⟨_, _, _, _, _, _, _, _, ha, hb, -, hidentity, haccounts⟩ :=
      run_checks_independent hasty patient (taking (foundAfter 1)) closed 0 2
    rw [ha, hb, hidentity rfl rfl rfl, haccounts rfl rfl]
    rfl

end Suite

end Devnet
