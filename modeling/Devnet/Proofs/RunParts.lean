import Devnet.Proofs.Conformance

namespace Devnet

variable {σ α : Type}

/-- An answer that has been judged: it is passed on, or the complaint about it is. -/
def judged (judge : α → Except CheckError Unit) : Except CheckError α → Except CheckError α
  | .error e => .error e
  | .ok v => (judge v).map fun _ => v

/-- Asks, judges the answer and makes a note of it. -/
def Action.askJudged (client : Client σ) (q : Query) (judge : q.Answer → Except CheckError Unit)
    (line : q.Answer → LogLine) : Action σ q.Answer := do
  let v ← ask client q
  judge v
  note (line v)
  return v

theorem Action.run_askJudged {client : Client σ} {q : Query} {s : Session σ} {memory m : σ}
    {now : Nat} {calls : List Call} {r : Reply q.Answer} (hs : s.Stands memory now calls)
    (hreply : client.reply q memory = (r, m)) (judge : q.Answer → Except CheckError Unit)
    (line : q.Answer → LogLine) :
    ∃ t, (askJudged client q judge line).run s = (judged judge r.result, t) ∧
      t.Stands m (now + r.delay) (calls ++ [⟨now, q, some r.result⟩]) := by
  obtain ⟨t, ht, hstands⟩ := run_ask_of_reply hs hreply
  cases hresult : r.result with
  | error e =>
    rw [hresult] at ht hstands
    exact ⟨t, run_bind_of_error ht, hstands⟩
  | ok v =>
    rw [hresult] at ht hstands
    rw [askJudged, run_bind_of_ok ht]
    have hjudge := run_lift (judge v) t
    dsimp only [judged]
    cases hjudged : judge v with
    | error e =>
      rw [hjudged] at hjudge
      exact ⟨t, run_bind_of_error hjudge, hstands⟩
    | ok _ =>
      rw [hjudged] at hjudge
      exact ⟨_, run_bind_of_ok hjudge, hstands.noted _⟩

/-- How the first check ends that begins in a given memory at a given time: its result, the memory
and the time then, and the calls it has made. -/
inductive IdentityEnds (client : Client σ) (target : Target) (memory : σ) (start : Nat) :
    Except CheckError UInt64 → σ → Nat → List Call → Prop where
  | notDeclared (wrong : target.chainId ≠ target.expectedChainId) :
      IdentityEnds client target memory start
        (.error (.chainIdMismatch .declared target.expectedChainId target.chainId)) memory start []
  | asked {r : Reply UInt64} {m : σ} (declared : target.chainId = target.expectedChainId)
      (reply : client.reply .chainId memory = (r, m)) :
      IdentityEnds client target memory start
        (judged (checkChainId .live target.expectedChainId) r.result) m (start + r.delay)
        [⟨start, .chainId, some r.result⟩]

/-- How the second check ends. -/
inductive AccountsEnds (client : Client σ) (fixture : Fixture) (memory : σ) (start : Nat) :
    Except CheckError (List Address) → σ → Nat → List Call → Prop where
  | asked {r : Reply (List Address)} {m : σ} (reply : client.reply .accounts memory = (r, m)) :
      AccountsEnds client fixture memory start (judged (checkProvisioning fixture) r.result) m
        (start + r.delay) [⟨start, .accounts, some r.result⟩]

/-- The first check ends as the client's reply says, if it is asked at all. -/
theorem checkChainIdentity_ends (client : Client σ) (target : Target) (s : Session σ) :
    ∃ memory now made,
      IdentityEnds client target s.memory s.now ((checkChainIdentity client target).run s).1
        memory now made ∧
      ((checkChainIdentity client target).run s).2.Stands memory now
        (s.calls.toList ++ made) := by
  have hlift := Action.run_lift (checkChainId .declared target.expectedChainId target.chainId) s
  rw [checkChainId] at hlift
  by_cases hdeclared : target.chainId = target.expectedChainId
  · obtain ⟨r, m, hreply⟩ : ∃ r m, client.reply .chainId s.memory = (r, m) := ⟨_, _, rfl⟩
    obtain ⟨t, ht, hstands⟩ := Action.run_askJudged s.stands_self hreply
      (checkChainId .live target.expectedChainId) fun live =>
        ⟨.info, .checks, "chain identity matches",
          [("network", target.network.name), ("chain_id", toString live.toNat)]⟩
    rw [if_pos hdeclared] at hlift
    have hrun : (checkChainIdentity client target).run s =
        (judged (checkChainId .live target.expectedChainId) r.result, t) := by
      rw [checkChainIdentity, checkChainId, if_pos hdeclared]
      exact (run_bind_of_ok hlift).trans ht
    rw [hrun]
    exact ⟨_, _, _, .asked hdeclared hreply, hstands⟩
  · rw [if_neg hdeclared] at hlift
    rw [checkChainIdentity, checkChainId, if_neg hdeclared, run_bind_of_error hlift]
    refine ⟨_, _, _, .notDeclared hdeclared, ?_⟩
    rw [List.append_nil]
    exact s.stands_self

/-- The second check ends as the client's reply says. -/
theorem checkWalletAccounts_ends (client : Client σ) (fixture : Fixture) (s : Session σ) :
    ∃ memory now made,
      AccountsEnds client fixture s.memory s.now ((checkWalletAccounts client fixture).run s).1
        memory now made ∧
      ((checkWalletAccounts client fixture).run s).2.Stands memory now
        (s.calls.toList ++ made) := by
  obtain ⟨r, m, hreply⟩ : ∃ r m, client.reply .accounts s.memory = (r, m) := ⟨_, _, rfl⟩
  obtain ⟨t, ht, hstands⟩ := Action.run_askJudged s.stands_self hreply
    (checkProvisioning fixture) fun _ =>
      ⟨.info, .checks, "wallet accounts match",
        [("whale", (fixture.account .whale).text), ("user", (fixture.account .user).text)]⟩
  have hrun : (checkWalletAccounts client fixture).run s =
      (judged (checkProvisioning fixture) r.result, t) := ht
  rw [hrun]
  exact ⟨_, _, _, .asked hreply, hstands⟩

/-- What the four checks of a run have come to. -/
def Report.Lists (r : Report) (identity accounts whale user : Except CheckError Detail) : Prop :=
  r.outcomes = [⟨"chain identity", identity⟩, ⟨"wallet accounts", accounts⟩,
    ⟨"whale transfer", whale⟩, ⟨"user transfer", user⟩]

namespace Suite

theorem record_stands {name : String} {detail : α → Detail} {check : Action σ α} {s : Session σ}
    {memory : σ} {now : Nat} {calls : List Call} (h : (check.run s).2.Stands memory now calls) :
    ((record name detail check).run s).2.Stands memory now calls := by
  change (record name detail check s).2.Stands memory now calls
  unfold record
  rcases hrun : check.run s with ⟨e | v, t⟩
  · rw [hrun] at h
    exact h.noted _
  · rw [hrun] at h
    exact h

/-- The outcome of the chain identity, and the session after it. -/
def identified (s : Suite) (client : Client σ) (session : Session σ) : Outcome × Session σ :=
  (record "chain identity" .chainId (checkChainIdentity client s.target)).run (s.begun session)

/-- The outcome of the accounts, which come after the chain identity. -/
def listed (s : Suite) (client : Client σ) (session : Session σ) : Outcome × Session σ :=
  (record "wallet accounts" .accounts (checkWalletAccounts client s.fixture)).run
    (s.identified client session).2

/-- The outcome of one transfer from a session on. -/
def transferred (s : Suite) (client : Client σ) (sender : Role) (session : Session σ) :
    Outcome × Session σ :=
  (record (transferName sender) .transfer
    (checkTransfer client (s.intent sender) s.wait)).run session

/-- The whale's transfer, which comes after the accounts. -/
def whaleTransfer (s : Suite) (client : Client σ) (session : Session σ) : Outcome × Session σ :=
  s.transferred client .whale (s.listed client session).2

/-- The user's transfer, which comes last. -/
def userTransfer (s : Suite) (client : Client σ) (session : Session σ) : Outcome × Session σ :=
  s.transferred client .user (s.whaleTransfer client session).2

theorem transferName_whale : transferName .whale = "whale transfer" := by decide

theorem transferName_user : transferName .user = "user transfer" := by decide

/-- A run is its four parts. -/
theorem run_eq_parts (s : Suite) (client : Client σ) (session : Session σ) :
    (s.run client).run session =
      (⟨s.target.network, [(s.identified client session).1, (s.listed client session).1,
        (s.whaleTransfer client session).1, (s.userTransfer client session).1]⟩,
        (s.userTransfer client session).2) := by
  simp only [whaleTransfer, userTransfer, transferred, transferName_whale, transferName_user]
  exact s.run_eq client session

theorem run_lists (s : Suite) (client : Client σ) (session : Session σ) :
    ((s.run client).run session).1.Lists (s.identified client session).1.result
      (s.listed client session).1.result (s.whaleTransfer client session).1.result
      (s.userTransfer client session).1.result := by
  rw [Report.Lists, run_eq_parts, ← transferName_whale, ← transferName_user]
  simp only [identified, listed, whaleTransfer, userTransfer, transferred, record_run_fst]

theorem identified_ends (s : Suite) (client : Client σ) (session : Session σ) :
    ∃ r memory now made,
      IdentityEnds client s.target session.memory session.now r memory now made ∧
      (s.identified client session).1 = ⟨"chain identity", r.map .chainId⟩ ∧
      (s.identified client session).2.Stands memory now (session.calls.toList ++ made) := by
  obtain ⟨memory, now, made, hends, hstands⟩ :=
    checkChainIdentity_ends client s.target (s.begun session)
  exact ⟨_, memory, now, made, hends, record_run_fst .., record_stands hstands⟩

theorem listed_ends (s : Suite) (client : Client σ) (session : Session σ) :
    ∃ r memory now made,
      AccountsEnds client s.fixture (s.identified client session).2.memory
        (s.identified client session).2.now r memory now made ∧
      (s.listed client session).1 = ⟨"wallet accounts", r.map .accounts⟩ ∧
      (s.listed client session).2.Stands memory now
        ((s.identified client session).2.calls.toList ++ made) := by
  obtain ⟨memory, now, made, hends, hstands⟩ :=
    checkWalletAccounts_ends client s.fixture (s.identified client session).2
  exact ⟨_, memory, now, made, hends, record_run_fst .., record_stands hstands⟩

theorem transferred_ends (s : Suite) (client : Client σ) (sender : Role) (session : Session σ) :
    ∃ r memory now made,
      TransferEnds client (s.intent sender) s.wait session.memory session.now r memory now made ∧
      (s.transferred client sender session).1 = ⟨transferName sender, r.map .transfer⟩ ∧
      (s.transferred client sender session).2.Stands memory now
        (session.calls.toList ++ made) := by
  obtain ⟨memory, now, made, hends, hstands⟩ :=
    checkTransfer_ends client (s.intent sender) s.wait session
  exact ⟨_, memory, now, made, hends, record_run_fst .., record_stands hstands⟩

end Suite

end Devnet
