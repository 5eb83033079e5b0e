import Devnet.Proofs.TransferResult

namespace Devnet

def Call.FindsNothing (hash : TxHash) (c : Call) : Prop :=
  ∃ start, c = ⟨start, .receipt hash, some (.ok none)⟩

/-- Polls for the receipt of a transaction, from the first on, which begins at the given time: the
ones before the last find nothing. -/
structure PollsFrom (hash : TxHash) (begun : Nat) (polls : List Call) (last : Call) : Prop where
  first : (polls ++ [last]).head?.map Call.start = some begun
  nothing : ∀ c ∈ polls, c.FindsNothing hash

/-- The polls of a wait that begins at the given time and brings nothing by its deadline. -/
inductive NoReceipt (policy : WaitPolicy) (hash : TxHash) (begun : Nat) : List Call → Prop where
  /-- The deadline cuts off the last poll. -/
  | cutOff {polls : List Call} (last : Nat)
      (polled : PollsFrom hash begun polls ⟨last, .receipt hash, none⟩) :
      NoReceipt policy hash begun (polls ++ [⟨last, .receipt hash, none⟩])
  /-- The deadline passes before another poll is due. -/
  | notDue {polls : List Call} {last : Call} (polled : PollsFrom hash begun polls last)
      (nothing : last.FindsNothing hash)
      (notDue : policy.deadline begun < policy.due begun (polls.length + 1)) :
      NoReceipt policy hash begun (polls ++ [last])
  /-- With another poll, there would be as many at the deadline as fill a turn. -/
  | turnOver {polls : List Call} {last early : Call} (polled : PollsFrom hash begun polls last)
      (nothing : last.FindsNothing hash) (full : turnLimit ≤ polls.length + 2)
      (earliest : (polls ++ [last])[polls.length + 2 - turnLimit]? = some early)
      (atDeadline : policy.deadline begun ≤ early.start) :
      NoReceipt policy hash begun (polls ++ [last])

/-- What a transfer check calls, in order, what comes of it, and at which time it is over. -/
inductive TransferProtocol (intent : TransferIntent) (policy : WaitPolicy) :
    List Call → Except CheckError TransferOutcome → Nat → Prop where
  | notSent {e : CheckError} (start now : Nat) :
      TransferProtocol intent policy [⟨start, .send intent, some (.error e)⟩] (.error e) now
  /-- No poll brings a receipt by the deadline. -/
  | notReceived {hash : TxHash} {polls : List Call} (start begun : Nat)
      (missing : NoReceipt policy hash begun polls) :
      TransferProtocol intent policy (⟨start, .send intent, some (.ok hash)⟩ :: polls)
        (.error (.receiptTimeout hash policy.timeout)) (policy.deadline begun)
  | pollFailed {hash : TxHash} {polls : List Call} {e : CheckError} {begun : Nat}
      (start last now : Nat)
      (polled : PollsFrom hash begun polls ⟨last, .receipt hash, some (.error e)⟩)
      (inTime : now ≤ policy.deadline begun) :
      TransferProtocol intent policy
        (⟨start, .send intent, some (.ok hash)⟩ ::
          (polls ++ [⟨last, .receipt hash, some (.error e)⟩]))
        (.error e) now
  | notFetched {hash : TxHash} {polls : List Call} {receipt : Receipt} {e : CheckError}
      {begun : Nat} (start last fetched now : Nat)
      (polled : PollsFrom hash begun polls ⟨last, .receipt hash, some (.ok (some receipt))⟩)
      (inTime : fetched ≤ policy.deadline begun) :
      TransferProtocol intent policy
        (⟨start, .send intent, some (.ok hash)⟩ ::
          (polls ++ [⟨last, .receipt hash, some (.ok (some receipt))⟩,
            ⟨fetched, .transaction hash, some (.error e)⟩]))
        (.error e) now
  | notKnown {hash : TxHash} {polls : List Call} {receipt : Receipt} {begun : Nat}
      (start last fetched now : Nat)
      (polled : PollsFrom hash begun polls ⟨last, .receipt hash, some (.ok (some receipt))⟩)
      (inTime : fetched ≤ policy.deadline begun) :
      TransferProtocol intent policy
        (⟨start, .send intent, some (.ok hash)⟩ ::
          (polls ++ [⟨last, .receipt hash, some (.ok (some receipt))⟩,
            ⟨fetched, .transaction hash, some (.ok none)⟩]))
        (.error (.transactionNotFound hash)) now
  | judged {hash : TxHash} {polls : List Call} {receipt : Receipt} {record : TransactionRecord}
      {begun : Nat} (start last fetched now : Nat)
      (polled : PollsFrom hash begun polls ⟨last, .receipt hash, some (.ok (some receipt))⟩)
      (inTime : fetched ≤ policy.deadline begun) :
      TransferProtocol intent policy
        (⟨start, .send intent, some (.ok hash)⟩ ::
          (polls ++ [⟨last, .receipt hash, some (.ok (some receipt))⟩,
            ⟨fetched, .transaction hash, some (.ok (some record))⟩]))
        (judgeTransfer intent receipt record) now

variable {σ : Type}

namespace Wait

section

variable {w : Wait σ}

/-- Polls are made one after the other; after the last of them time may pass. -/
theorem Regular.hears_polls (hw : w.Regular) {n next : Nat} (h : w.pollEnd n ≤ next) :
    w.client.Hears ⟨w.memory, w.start⟩ (w.polls (n + 1)) ⟨(w.before (n + 1)).1, next⟩ := by
  induction n generalizing next with
  | zero =>
    rw [← hw.pollStart_zero]
    exact .answered (.receipt w.hash) h (.nothing _)
  | succ n ih =>
    rw [polls_succ]
    exact (ih (w.pollEnd_le_pollStart (Nat.lt_succ_self n))).append
      (.answered (.receipt w.hash) h (.nothing _))

theorem Regular.hears_openPoll (hw : w.Regular) {n : Nat} (hr : w.Reached n)
    (hlate : w.deadline < w.pollEnd n) :
    w.client.Hears ⟨w.memory, w.start⟩ (w.polls n ++ [w.openPoll n])
      ⟨(w.before (n + 1)).1, w.deadline⟩ := by
  have hdropped : w.client.Hears ⟨(w.before n).1, w.pollStart n⟩ [w.openPoll n]
      ⟨(w.before (n + 1)).1, w.deadline⟩ :=
    .dropped (.receipt w.hash) hr.start_le hlate (.nothing _)
  cases n with
  | zero =>
    rw [← hw.pollStart_zero]
    exact hdropped
  | succ n => exact (hw.hears_polls (w.pollEnd_le_pollStart (Nat.lt_succ_self n))).append hdropped

theorem findsNothing_poll {n : Nat} (h : (w.reply n).result = .ok none) :
    (w.poll n).FindsNothing w.hash := ⟨w.pollStart n, by rw [poll, h]⟩

theorem findsNothing_of_mem_polls {n : Nat} (h : w.Pending n) :
    ∀ c ∈ w.polls n, c.FindsNothing w.hash := by
  intro c hc
  obtain ⟨k, hk, rfl⟩ := List.mem_map.mp hc
  exact findsNothing_poll (h k (List.mem_range.mp hk))

/-- The polls of a wait, up to one that need not be answered. -/
theorem Regular.pollsFrom (hw : w.Regular) {n : Nat} (h : w.Pending n) {last : Call}
    (hlast : last.start = w.pollStart n) : PollsFrom w.hash w.start (w.polls n) last where
  first := by
    cases n with
    | zero => exact congrArg some (hlast.trans hw.pollStart_zero)
    | succ n =>
      have hhead : (w.polls (n + 1) ++ [last]).head? = some (w.poll 0) := by
        simp [polls, List.range_succ_eq_map]
      rw [hhead]
      exact congrArg some hw.pollStart_zero
  nothing := findsNothing_of_mem_polls h

/-- A poll that is due by the deadline is only left out if the turn is full. -/
theorem Reached.turn_full {n : Nat} (hr : w.Reached n) (hnone : (w.reply n).result = .ok none)
    (hend : w.pollEnd n ≤ w.deadline) (hdue : w.due (n + 1) ≤ w.deadline)
    (hlast : ¬ w.Reached (n + 1)) :
    turnLimit ≤ n + 2 ∧ w.deadline ≤ w.pollStart (n + 2 - turnLimit) := by
  have hstart : w.pollStart (n + 1) ≤ w.deadline := Nat.max_le.mpr ⟨hdue, hend⟩
  have hturn : ¬ (turnLimit ≤ n + 1 + 1 → w.pollStart (n + 1 + 1 - turnLimit) < w.deadline) :=
    fun h => hlast ⟨hr.pending.succ hnone, hstart, h⟩
  obtain ⟨hfull, hdeadline⟩ := Classical.not_imp.mp hturn
  exact ⟨hfull, Nat.not_lt.mp hdeadline⟩

end

section

variable {policy : WaitPolicy} {client : Client σ} {hash : TxHash} {memory m : σ}
  {begun now : Nat} {made : List Call}

/-- Where no other poll is made, the deadline passes first or the turn is full. -/
theorem Reached.noReceipt {n : Nat} (hr : (policy.wait client hash memory begun).Reached n)
    (hnone : ((policy.wait client hash memory begun).reply n).result = .ok none)
    (hend : (policy.wait client hash memory begun).pollEnd n ≤ policy.deadline begun)
    (hlast : ¬ (policy.wait client hash memory begun).Reached (n + 1)) :
    NoReceipt policy hash begun ((policy.wait client hash memory begun).polls (n + 1)) := by
  have hw := policy.wait_regular client hash memory begun
  -- the times of the policy are those of the wait
  generalize hwait : policy.wait client hash memory begun = w at *
  have hdue : policy.due begun = w.due := by rw [← hwait]; rfl
  have hdeadline : policy.deadline begun = w.deadline := by rw [← hwait]; rfl
  have hhash : hash = w.hash := by rw [← hwait]; rfl
  have hbegun : begun = w.start := by rw [← hwait]; rfl
  have hpolled : PollsFrom hash begun (w.polls n) (w.poll n) := by
    rw [hhash, hbegun]
    exact hw.pollsFrom hr.pending rfl
  have hnothing : (w.poll n).FindsNothing hash := by
    rw [hhash]
    exact findsNothing_poll hnone
  rw [polls_succ]
  by_cases hlate : policy.deadline begun < policy.due begun (n + 1)
  · exact .notDue hpolled hnothing (by rwa [length_polls])
  · rw [hdue, hdeadline] at hlate
    rw [hdeadline] at hend
    obtain ⟨hfull, hearly⟩ := hr.turn_full hnone hend (Nat.not_lt.mp hlate) hlast
    have hlimit : turnLimit = 128 := rfl
    have hpoll : (w.polls n ++ [w.poll n])[(w.polls n).length + 2 - turnLimit]? =
        some (w.poll (n + 2 - turnLimit)) := by
      rw [length_polls, ← polls_succ]
      exact w.getElem?_polls (by omega)
    refine .turnOver hpolled hnothing ?_ hpoll ?_
    · rwa [length_polls]
    · rwa [hdeadline]

theorem Ends.hears {timeout : Duration} {r : Except CheckError Receipt}
    (h : (policy.wait client hash memory begun).Ends timeout r m now made) :
    client.Hears ⟨memory, begun⟩ made ⟨m, now⟩ := by
  have hw := policy.wait_regular client hash memory begun
  cases h with
  | found => exact hw.hears_polls (le_refl _)
  | failed => exact hw.hears_polls (le_refl _)
  | timedOut reached inTime => exact hw.hears_polls inTime
  | dropped reached late => exact hw.hears_openPoll reached late

/-- The polls of a wait that brings a receipt: the last one finds it in time. -/
theorem Ends.polls_of_ok {timeout : Duration} {receipt : Receipt}
    (h : (policy.wait client hash memory begun).Ends timeout (.ok receipt) m now made) :
    ∃ polls last, made = polls ++ [⟨last, .receipt hash, some (.ok (some receipt))⟩] ∧
      PollsFrom hash begun polls ⟨last, .receipt hash, some (.ok (some receipt))⟩ ∧
      now ≤ policy.deadline begun := by
  have hw := policy.wait_regular client hash memory begun
  cases h with
  | @found n _ reached inTime result =>
    refine ⟨_, _, ?_, hw.pollsFrom (n := n) reached.pending rfl, inTime⟩
    rw [polls_succ, poll, result]
    rfl

end

end Wait

/-- The client is asked exactly what a transfer check records. -/
theorem TransferEnds.hears {client : Client σ} {intent : TransferIntent} {policy : WaitPolicy}
    {memory m : σ} {start now : Nat} {r : Except CheckError TransferOutcome} {made : List Call}
    (h : TransferEnds client intent policy memory start r m now made) :
    client.Hears ⟨memory, start⟩ made ⟨m, now⟩ := by
  cases h with
  | notSent sent result =>
    rw [← result]
    exact .of_reply sent (.nothing _)
  | notReceived sent result wait =>
    rw [← result]
    exact .of_reply sent wait.hears
  | received sent result wait fetched =>
    rw [← result]
    exact .of_reply sent (wait.hears.append (.of_reply fetched (.nothing _)))

/-- The calls of a transfer check follow the protocol. -/
theorem TransferEnds.protocol {client : Client σ} {intent : TransferIntent} {policy : WaitPolicy}
    {memory m : σ} {start now : Nat} {r : Except CheckError TransferOutcome} {made : List Call}
    (h : TransferEnds client intent policy memory start r m now made) :
    TransferProtocol intent policy made r now := by
  cases h with
  | notSent => exact .notSent start _
  | @notReceived s n _ hash _ _ _ sent result wait =>
    have hw := policy.wait_regular client hash n (start + s.delay)
    cases wait with
    | @failed k _ reached inTime result =>
      rw [Wait.polls_succ, Wait.poll, result]
      exact .pollFailed start _ _ (hw.pollsFrom reached.pending rfl) inTime
    | dropped reached =>
      exact .notReceived start _ (.cutOff _ (hw.pollsFrom reached.pending rfl))
    | timedOut reached inTime result last =>
      exact .notReceived start _ (reached.noReceipt result inTime last)
  | @received _ _ _ _ hash receipt now _ f sent result wait fetched =>
    obtain ⟨polls, last, rfl, polled, inTime⟩ := wait.polls_of_ok
    rw [List.append_assoc, List.singleton_append]
    cases hrecord : f.result with
    | error e => exact .notFetched start last now _ polled inTime
    | ok record =>
      cases record with
      | none => exact .notKnown start last now _ polled inTime
      | some record => exact .judged start last now _ polled inTime

def Query.submits : Query → Bool
  | .send _ => true
  | _ => false

theorem Call.FindsNothing.not_submits {hash : TxHash} {c : Call} (h : c.FindsNothing hash) :
    c.query.submits = false := by
  obtain ⟨start, rfl⟩ := h
  rfl

theorem not_submits_of_polls {hash : TxHash} {polls after : List Call}
    (hpolls : ∀ c ∈ polls, c.FindsNothing hash)
    (hafter : ∀ c ∈ after, c.query.submits = false) :
    ∀ c ∈ polls ++ after, c.query.submits = false := by
  intro c hc
  rcases List.mem_append.mp hc with hc | hc
  · exact (hpolls c hc).not_submits
  · exact hafter c hc

theorem NoReceipt.not_submits {policy : WaitPolicy} {hash : TxHash} {begun : Nat}
    {polls : List Call} (h : NoReceipt policy hash begun polls) :
    ∀ c ∈ polls, c.query.submits = false := by
  cases h with
  | cutOff last polled =>
    apply not_submits_of_polls polled.nothing
    simp [Query.submits]
  | notDue polled nothing | turnOver polled nothing =>
    apply not_submits_of_polls polled.nothing
    simpa using nothing.not_submits

/-- A transfer check begins with its submission and submits nothing after it; a submission that
fails is all there is. -/
theorem TransferProtocol.submission {intent : TransferIntent} {policy : WaitPolicy}
    {calls : List Call} {r : Except CheckError TransferOutcome} {now : Nat}
    (h : TransferProtocol intent policy calls r now) :
    ∃ start sent rest, calls = ⟨start, .send intent, some sent⟩ :: rest ∧
      (∀ c ∈ rest, c.query.submits = false) ∧
      ∀ e, sent = .error e → rest = [] ∧ r = .error e := by
  cases h with
  | @notSent e start =>
    refine ⟨start, .error e, [], rfl, fun c hc => absurd hc List.not_mem_nil, fun e he => ?_⟩
    cases he
    exact ⟨rfl, rfl⟩
  | notReceived start begun missing =>
    exact ⟨start, _, _, rfl, missing.not_submits, fun e he => nomatch he⟩
  | pollFailed start last now polled | notFetched start last fetched now polled
  | notKnown start last fetched now polled | judged start last fetched now polled =>
    refine ⟨start, _, _, rfl, ?_, fun e he => nomatch he⟩
    apply not_submits_of_polls polled.nothing
    simp [Query.submits]

/-- For every client, transfer and policy, from every state of a conversation: the calls that a
transfer check makes follow the protocol, the client is asked nothing else and no answer is lost
that comes in time, and what the check gives, and when, is what the protocol says for those
calls. -/
theorem checkTransfer_follows_protocol (client : Client σ) (intent : TransferIntent)
    (policy : WaitPolicy) (s : Session σ) :
    ∃ calls,
      ((checkTransfer client intent policy).run s).2.calls.toList = s.calls.toList ++ calls ∧
      client.Hears s.moment calls ((checkTransfer client intent policy).run s).2.moment ∧
      TransferProtocol intent policy calls ((checkTransfer client intent policy).run s).1
        ((checkTransfer client intent policy).run s).2.now := by
  obtain ⟨memory, now, made, hends, hstands⟩ := checkTransfer_ends client intent policy s
  refine ⟨made, hstands.calls, ?_, ?_⟩
  · rw [hstands.moment]
    exact hends.hears
  · rw [hstands.now]
    exact hends.protocol

end Devnet
