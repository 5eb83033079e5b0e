import Devnet.Proofs.RunParts
import Devnet.Rpc.Network
import Devnet.Script

namespace Devnet

variable {σ α β : Type}

/-- The lines of the error level, in their order. -/
def errorsIn (log : List LogLine) : List LogLine := log.filter (·.level = .error)

@[simp] theorem errorsIn_nil : errorsIn [] = [] := rfl

@[simp] theorem errorsIn_append (xs ys : List LogLine) :
    errorsIn (xs ++ ys) = errorsIn xs ++ errorsIn ys := List.filter_append ..

theorem errorsIn_eq_nil {log : List LogLine} (h : ∀ l ∈ log, l.level ≠ .error) :
    errorsIn log = [] := by
  simpa [errorsIn] using h

theorem errorsIn_singleton {l : LogLine} (h : l.level = .error) : errorsIn [l] = [l] := by
  simp [errorsIn, h]

/-- The client, asked the recorded questions one after the other, gives the recorded answers and
notes the lines. What it would note with an answer that nobody waits for is lost. -/
inductive Client.Notes (client : Client σ) : σ → List Call → List LogLine → σ → Prop where
  | nothing (m : σ) : client.Notes m [] [] m
  | answered {m n : σ} {calls : List Call} {lines : List LogLine} (start : Nat) (q : Query)
      (rest : client.Notes (client.reply q m).2 calls lines n) :
      client.Notes m (⟨start, q, some (client.reply q m).1.result⟩ :: calls)
        ((client.reply q m).1.log ++ lines) n
  | dropped {m n : σ} {calls : List Call} {lines : List LogLine} (start : Nat) (q : Query)
      (rest : client.Notes (client.reply q m).2 calls lines n) :
      client.Notes m (⟨start, q, none⟩ :: calls) lines n

/-- Whatever it is asked, the client notes no errors itself. -/
def Client.NotesNoErrors (client : Client σ) : Prop :=
  ∀ q m, ∀ l ∈ (client.reply q m).1.log, l.level ≠ .error

theorem Client.Notes.append {client : Client σ} {m n o : σ} {as bs : List Call}
    {xs ys : List LogLine} (ha : client.Notes m as xs n) (hb : client.Notes n bs ys o) :
    client.Notes m (as ++ bs) (xs ++ ys) o := by
  induction ha with
  | nothing => exact hb
  | answered start q _ ih =>
    rw [List.append_assoc]
    exact .answered start q (ih hb)
  | dropped start q _ ih => exact .dropped start q (ih hb)

theorem Client.Notes.noErrors {client : Client σ} {m n : σ} {calls : List Call}
    {lines : List LogLine} (h : client.Notes m calls lines n) (hclient : client.NotesNoErrors) :
    ∀ l ∈ lines, l.level ≠ .error := by
  induction h with
  | nothing => simp
  | answered start q _ ih => exact List.forall_mem_append.mpr ⟨hclient _ _, ih⟩
  | dropped start q _ ih => exact ih

namespace Session

/-- What there is between two sessions: the questions that the client has been asked, what it has
noted, and the errors that the log has got, the client's own among them. -/
structure Leads (client : Client σ) (s t : Session σ) (calls : List Call)
    (said errors : List LogLine) : Prop where
  asked : t.calls.toList = s.calls.toList ++ calls
  notes : client.Notes s.memory calls said t.memory
  logged : errorsIn t.log.toList = errorsIn s.log.toList ++ errors

/-- The log gets no errors but those that the client notes. -/
def Proceeds (client : Client σ) (s t : Session σ) : Prop :=
  ∃ calls said, s.Leads client t calls said (errorsIn said)

variable {client : Client σ} {s t u : Session σ}

theorem Leads.trans {as bs : List Call} {xs ys ds es : List LogLine}
    (hs : s.Leads client t as xs ds) (ht : t.Leads client u bs ys es) :
    s.Leads client u (as ++ bs) (xs ++ ys) (ds ++ es) where
  asked := by rw [ht.asked, hs.asked, List.append_assoc]
  notes := hs.notes.append ht.notes
  logged := by rw [ht.logged, hs.logged, List.append_assoc]

theorem leads_noted (client : Client σ) (s : Session σ) (l : LogLine) :
    s.Leads client (s.noted l) [] [] (errorsIn [l]) where
  asked := by simp [noted]
  notes := .nothing _
  logged := by simp [noted]

theorem proceeds_movedTo (client : Client σ) (s : Session σ) (now : Nat) :
    s.Proceeds client (s.movedTo now) :=
  ⟨[], [], by simp [movedTo], .nothing _, by simp [movedTo]⟩

theorem Proceeds.refl (client : Client σ) (s : Session σ) : s.Proceeds client s :=
  s.proceeds_movedTo client s.now

theorem Proceeds.trans (hs : s.Proceeds client t) (ht : t.Proceeds client u) :
    s.Proceeds client u := by
  obtain ⟨as, xs, hs⟩ := hs
  obtain ⟨bs, ys, ht⟩ := ht
  have h := hs.trans ht
  rw [← errorsIn_append] at h
  exact ⟨as ++ bs, xs ++ ys, h⟩

theorem proceeds_noted (client : Client σ) (s : Session σ) {l : LogLine} (h : l.level ≠ .error) :
    s.Proceeds client (s.noted l) := by
  have hnone : errorsIn [l] = [] := errorsIn_eq_nil (by simpa using h)
  have hnoted := s.leads_noted client l
  rw [hnone] at hnoted
  exact ⟨[], [], hnoted⟩

theorem proceeds_ask (client : Client σ) (s : Session σ) (q : Query) :
    s.Proceeds client (s.ask client q).2 := by
  have hnotes := Client.Notes.answered s.now q (.nothing (client.reply q s.memory).2)
  rw [List.append_nil] at hnotes
  exact ⟨_, _, Array.toList_push, hnotes, by simp [ask]⟩

end Session

/-- From every session, the steps add no errors to the log but those that the client notes. -/
def Action.Proceeds (client : Client σ) (x : Action σ α) : Prop :=
  ∀ s : Session σ, s.Proceeds client (x.run s).2

namespace Action

variable {client : Client σ}

theorem proceeds_pure (v : α) : (pure v : Action σ α).Proceeds client :=
  Session.Proceeds.refl client

theorem proceeds_throw (e : CheckError) : (throw e : Action σ α).Proceeds client :=
  Session.Proceeds.refl client

theorem proceeds_lift (r : Except CheckError α) : (liftM r : Action σ α).Proceeds client := by
  intro s
  rw [run_lift]
  exact .refl client s

theorem proceeds_note {l : LogLine} (h : l.level ≠ .error) :
    (note l : Action σ Unit).Proceeds client :=
  fun s => s.proceeds_noted client h

theorem proceeds_ask (client : Client σ) (q : Query) : (ask client q).Proceeds client :=
  fun s => s.proceeds_ask client q

theorem Proceeds.bind {x : Action σ α} {f : α → Action σ β} (hx : x.Proceeds client)
    (hf : ∀ v, (f v).Proceeds client) : (x >>= f).Proceeds client := by
  intro s
  have hfirst := hx s
  rcases hrun : x.run s with ⟨e | v, t⟩
  · rw [hrun] at hfirst
    rw [run_bind_of_error hrun]
    exact hfirst
  · rw [hrun] at hfirst
    rw [run_bind_of_ok hrun]
    exact hfirst.trans (hf v t)

end Action

theorem Script.client_notesNoErrors : Script.client.NotesNoErrors := by
  intro q m l hl
  have hnext {α : Type} (kind : String) (cues : List (Cue α)) : (next kind cues).1.log = [] := by
    rcases cues with _ | ⟨c, _ | ⟨d, cues⟩⟩ <;> rfl
  cases q <;> simp [client, reply, hnext] at hl

theorem Rpc.Network.client_notesNoErrors {ν : Type} (node : Rpc.Node ν) (net : Rpc.Network) :
    (net.client node).NotesNoErrors := by
  intro q m l hl
  change l ∈ answerLog q ((net.answer node q).run m).1 at hl
  unfold answerLog at hl
  split at hl
  · simp [List.mem_singleton.mp hl]
  · exact absurd hl List.not_mem_nil

/-- The session after a poll. -/
def Poll.session : Poll σ → Session σ
  | .late s => s
  | .answered _ _ s => s

variable (client : Client σ)

theorem pollReceipt_proceeds (hash : TxHash) (deadline due left : Nat) (s : Session σ) :
    s.Proceeds client (pollReceipt client hash deadline due left s).session := by
  unfold pollReceipt
  dsimp only
  by_cases hpassed : deadline < max due s.now
  · rw [if_pos hpassed]
    exact s.proceeds_movedTo client deadline
  · rw [if_neg hpassed]
    by_cases hused : left = 0 ∧ due ≤ s.now ∧ deadline ≤ s.now
    · rw [if_pos hused]
      exact .refl client s
    · rw [if_neg hused]
      have hrest : client.Notes (client.reply (.receipt hash) s.memory).2 [] []
          (client.reply (.receipt hash) s.memory).2 := .nothing _
      by_cases hlate : deadline < max due s.now + (client.reply (.receipt hash) s.memory).1.delay
      · rw [if_pos hlate]
        have hnotes := hrest.dropped (max due s.now) (.receipt hash)
        exact ⟨_, [], Array.toList_push, hnotes, by simp [Poll.session]⟩
      · rw [if_neg hlate]
        have hnotes := hrest.answered (max due s.now) (.receipt hash)
        rw [List.append_nil] at hnotes
        exact ⟨_, _, Array.toList_push, hnotes, by simp [Poll.session]⟩

/-- By induction on the polls that are left: a poll that finds nothing adds a line below the level
of errors. -/
theorem pollFrom_proceeds (hash : TxHash) (policy : WaitPolicy) (start fuel k left : Nat)
    (s : Session σ) :
    s.Proceeds client (pollFrom client hash policy start fuel k left s).2 := by
  induction fuel generalizing k left s with
  | zero => exact s.proceeds_movedTo client (policy.deadline start)
  | succ fuel ih =>
    have hpoll := pollReceipt_proceeds client hash (policy.deadline start) (policy.due start k)
      left s
    unfold pollFrom
    cases hcase : pollReceipt client hash (policy.deadline start) (policy.due start k) left s with
    | late t =>
      rw [hcase] at hpoll
      exact hpoll
    | answered r n t =>
      rw [hcase] at hpoll
      have hanswered : s.Proceeds client t := hpoll
      rcases r with e | (_ | receipt)
      · exact hanswered
      · have hnoted : t.Proceeds client (t.noted
            ⟨.debug, .checks, "receipt not available yet", [("tx_hash", hash.text)]⟩) :=
          t.proceeds_noted client (by simp)
        exact (hanswered.trans hnoted).trans (ih (k + 1) n _)
      · exact hanswered

theorem waitForReceipt_proceeds (hash : TxHash) (policy : WaitPolicy) :
    (waitForReceipt client hash policy).Proceeds client := by
  intro s
  rw [waitForReceipt_run]
  exact pollFrom_proceeds client hash policy s.now policy.pollLimit 0 turnLimit s

theorem checkChainIdentity_proceeds (target : Target) :
    (checkChainIdentity client target).Proceeds client := by
  have hask := Action.proceeds_ask client .chainId
  apply (Action.proceeds_lift _).bind
  intro _
  apply hask.bind
  intro live
  apply (Action.proceeds_lift _).bind
  intro _
  exact (Action.proceeds_note (by simp)).bind fun _ => Action.proceeds_pure live

theorem checkWalletAccounts_proceeds (fixture : Fixture) :
    (checkWalletAccounts client fixture).Proceeds client := by
  have hask := Action.proceeds_ask client .accounts
  apply hask.bind
  intro listed
  apply (Action.proceeds_lift _).bind
  intro _
  exact (Action.proceeds_note (by simp)).bind fun _ => Action.proceeds_pure listed

theorem checkFetched_proceeds (intent : TransferIntent) (hash : TxHash) (receipt : Receipt) :
    (checkFetched client intent hash receipt).Proceeds client := by
  have hask := Action.proceeds_ask client (.transaction hash)
  apply hask.bind
  intro record
  cases record with
  | none => exact Action.proceeds_throw _
  | some record =>
    apply (Action.proceeds_lift _).bind
    intro outcome
    exact (Action.proceeds_note (by simp)).bind fun _ => Action.proceeds_pure outcome

theorem checkTransfer_proceeds (intent : TransferIntent) (policy : WaitPolicy) :
    (checkTransfer client intent policy).Proceeds client := by
  rw [checkTransfer_eq]
  have hask := Action.proceeds_ask client (.send intent)
  apply hask.bind
  intro hash
  apply (Action.proceeds_note (by simp)).bind
  intro _
  apply (waitForReceipt_proceeds client hash policy).bind
  intro receipt
  exact checkFetched_proceeds client intent hash receipt

variable {client}

/-- The line about a check that has failed, with what has gone wrong, the check's name and the class
of the failure; there is none about a check that has passed. -/
def Outcome.errorLine? (o : Outcome) : Option LogLine :=
  match o.result with
  | .ok _ => none
  | .error e => some ⟨.error, .suite, e.message,
      [("check", Text.quoted o.name), ("category", e.failureClass.name)]⟩

theorem Outcome.errorLine_isSome (o : Outcome) : o.errorLine?.isSome = !o.passed := by
  unfold errorLine? passed
  cases o.result <;> rfl

namespace Report

/-- The lines about the checks that have failed. -/
def errorLines (r : Report) : List LogLine := r.outcomes.filterMap (·.errorLine?)

theorem length_errorLines (r : Report) : r.errorLines.length = r.failures.length := by
  rw [errorLines, failures, List.length_filterMap_eq_countP, List.countP_eq_length_filter]
  simp only [Outcome.errorLine_isSome]

theorem errorLines_eq_nil_iff (r : Report) : r.errorLines = [] ↔ r.isSuccess = true := by
  rw [isSuccess_iff, ← List.length_eq_zero_iff, length_errorLines, List.length_eq_zero_iff]

end Report

/-- Between two sessions checks are made, each with the lines that the client notes meanwhile and
the outcome it comes to. The log gets the client's errors, and after those of a failed check the
line about it. -/
def Session.Runs (client : Client σ) (s t : Session σ) (checks : List (List LogLine × Outcome)) :
    Prop :=
  ∃ calls, s.Leads client t calls (checks.flatMap (·.1))
    (checks.flatMap fun c => errorsIn c.1 ++ c.2.errorLine?.toList)

theorem Session.Runs.append {s t u : Session σ} {xs ys : List (List LogLine × Outcome)}
    (hs : s.Runs client t xs) (ht : t.Runs client u ys) : s.Runs client u (xs ++ ys) := by
  obtain ⟨as, hs⟩ := hs
  obtain ⟨bs, ht⟩ := ht
  refine ⟨as ++ bs, ?_⟩
  rw [List.flatMap_append, List.flatMap_append]
  exact hs.trans ht

/-- Where the client notes no errors, those of the log are the lines about the failed checks. -/
theorem Session.Runs.errors_eq {s t : Session σ} {checks : List (List LogLine × Outcome)}
    (h : s.Runs client t checks) (hclient : client.NotesNoErrors) :
    errorsIn t.log.toList =
      errorsIn s.log.toList ++ (checks.map (·.2)).filterMap (·.errorLine?) := by
  obtain ⟨calls, hleads⟩ := h
  have hsaid := hleads.notes.noErrors hclient
  rw [hleads.logged]
  congr 1
  clear hleads
  induction checks with
  | nil => rfl
  | cons c checks ih =>
    rw [List.flatMap_cons, List.forall_mem_append] at hsaid
    rw [List.flatMap_cons, errorsIn_eq_nil hsaid.1, ih hsaid.2, List.map_cons]
    cases hline : c.2.errorLine? with
    | none => simp [hline]
    | some l => simp [hline]

namespace Suite

/-- A check adds the client's errors to the log, and then a line about itself if it fails. -/
theorem record_runs {check : Action σ α} (h : check.Proceeds client) (name : String)
    (detail : α → Detail) (s : Session σ) :
    ∃ said, s.Runs client ((record name detail check).run s).2
      [(said, ((record name detail check).run s).1)] := by
  obtain ⟨calls, said, hleads⟩ := h s
  refine ⟨said, calls, ?_⟩
  rw [List.flatMap_singleton, List.flatMap_singleton]
  change s.Leads client (record name detail check s).2 calls said
    (errorsIn said ++ (record name detail check s).1.errorLine?.toList)
  unfold record
  rcases hrun : check.run s with ⟨e | v, t⟩
  · rw [hrun] at hleads
    have hnoted := hleads.trans (t.leads_noted client ⟨.error, .suite, e.message,
      [("check", Text.quoted name), ("category", e.failureClass.name)]⟩)
    rw [List.append_nil, List.append_nil, errorsIn_singleton rfl] at hnoted
    exact hnoted
  · rw [hrun] at hleads
    simpa [Outcome.errorLine?] using hleads

/-- A run is its four checks, after a line below the level of errors. -/
theorem run_runs (s : Suite) (client : Client σ) (session : Session σ) :
    ∃ checks, ((s.run client).run session).1.outcomes = checks.map (·.2) ∧
      session.Runs client ((s.run client).run session).2 checks := by
  have hbegun : session.Runs client (s.begun session) [] :=
    ⟨[], session.leads_noted client _⟩
  obtain ⟨w, hidentity⟩ := record_runs (checkChainIdentity_proceeds client s.target)
    "chain identity" .chainId (s.begun session)
  obtain ⟨x, haccounts⟩ := record_runs (checkWalletAccounts_proceeds client s.fixture)
    "wallet accounts" .accounts (s.identified client session).2
  obtain ⟨y, hwhale⟩ := record_runs (checkTransfer_proceeds client (s.intent .whale) s.wait)
    (transferName .whale) .transfer (s.listed client session).2
  obtain ⟨z, huser⟩ := record_runs (checkTransfer_proceeds client (s.intent .user) s.wait)
    (transferName .user) .transfer (s.whaleTransfer client session).2
  have hrun := (((hbegun.append hidentity).append haccounts).append hwhale).append huser
  rw [run_eq_parts]
  exact ⟨_, rfl, hrun⟩

/-- For every suite, client and state of the conversation, the errors in the log of a run are, check
after check, those that the client notes and then the line about the check if it has failed. There
are as many of these lines as failures, so none exactly if the run succeeds; and the log gets no
other errors if the client notes none. -/
theorem run_errorLog (s : Suite) (client : Client σ) (session : Session σ) :
    (∃ checks, ((s.run client).run session).1.outcomes = checks.map (·.2) ∧
      session.Runs client ((s.run client).run session).2 checks) ∧
    ((s.run client).run session).1.errorLines.length =
      ((s.run client).run session).1.failures.length ∧
    (((s.run client).run session).1.errorLines = [] ↔
      ((s.run client).run session).1.isSuccess = true) ∧
    (client.NotesNoErrors →
      errorsIn ((s.run client).run session).2.log.toList =
        errorsIn session.log.toList ++ ((s.run client).run session).1.errorLines) := by
  have hruns := s.run_runs client session
  refine ⟨hruns, Report.length_errorLines _, Report.errorLines_eq_nil_iff _, ?_⟩
  intro hclient
  obtain ⟨checks, houtcomes, hchecks⟩ := hruns
  rw [Report.errorLines, houtcomes]
  exact hchecks.errors_eq hclient

/-- A client without a script fails every check, and the log has a line about each. -/
theorem run_errorLog_unscripted :
    Script.client.NotesNoErrors ∧
    ((hasty.run Script.client).run (.start Script.empty)).1.errorLines.length = 4 ∧
    errorsIn ((hasty.run Script.client).run (.start Script.empty)).2.log.toList =
      ((hasty.run Script.client).run (.start Script.empty)).1.errorLines := by
  have hlog := hasty.run_errorLog Script.client (.start Script.empty)
  have hfailures : ((hasty.run Script.client).run (.start Script.empty)).1.failures.length = 4 := by
    decide +kernel
  exact ⟨Script.client_notesNoErrors, hlog.2.1.trans hfailures,
    hlog.2.2.2 Script.client_notesNoErrors⟩

end Suite

end Devnet
