import Devnet.Proofs.FirstDeviation
import Devnet.Proofs.Rpc.Steps

namespace Devnet.Rpc

variable {ν α β : Type}

/-- The node answers the request with an error. -/
def Sent.Refused (s : Sent) : Prop :=
  ∃ body refusal, s.delivery = .answered body ∧
    Json.readText readResponse body = .ok (.refused refusal)

/-- No request is answered with an error but the last one, and then there is a failure of
transport. -/
inductive EndsAtRefusal : List Sent → Except CheckError α → Prop where
  | accepted {sent : List Sent} {r : Except CheckError α} (none : ∀ s ∈ sent, ¬ s.Refused) :
      EndsAtRefusal sent r
  | refused {before : List Sent} {s : Sent} {e : CheckError} (none : ∀ t ∈ before, ¬ t.Refused)
      (last : s.Refused) (transport : e.failureClass = .transport) :
      EndsAtRefusal (before ++ [s]) (.error e)

theorem endsAtRefusal_nil (r : Except CheckError α) : EndsAtRefusal [] r :=
  .accepted fun _ h => absurd h List.not_mem_nil

theorem EndsAtRefusal.none_of_ok {sent : List Sent} {v : α}
    (h : EndsAtRefusal sent (.ok v : Except CheckError α)) : ∀ s ∈ sent, ¬ s.Refused := by
  cases h with
  | accepted none => exact none

theorem EndsAtRefusal.prepend {before after : List Sent} {r : Except CheckError α}
    (none : ∀ s ∈ before, ¬ s.Refused) (h : EndsAtRefusal after r) :
    EndsAtRefusal (before ++ after) r := by
  cases h with
  | accepted none' => exact .accepted (List.forall_mem_append.mpr ⟨none, none'⟩)
  | refused none' last transport =>
    rw [← List.append_assoc]
    exact .refused (List.forall_mem_append.mpr ⟨none, none'⟩) last transport

namespace Exchange

variable {node : Node ν} {x : Exchange ν CheckError α} {f : α → Exchange ν CheckError β}

end Exchange

namespace Network

variable (node : Node ν) (net : Network)

end Network

/-- What a check has heard from the node when the session is `t`: the answers to all its requests,
or to all but the last, which is a poll that is cut off before its answer can come. -/
inductive Heard (node : Node ν) (a : Link ν) (t : Session (Link ν)) :
    Except CheckError α → Prop where
  | all {sent : List Sent} {r : Except CheckError α}
      (sends : a.Sends node sent t.memory) (refusal : EndsAtRefusal sent r) : Heard node a t r
  | cutOff {sent : List Sent} {poll : Sent} {between : Link ν} {before : List Call}
      {hash : TxHash} {timeout : Duration} {start : Nat}
      (sends : a.Sends node sent between) (none : ∀ s ∈ sent, ¬ s.Refused)
      (last : between.Sends node [poll] t.memory) (asks : poll.request = .transactionReceipt hash)
      (recorded : t.calls.toList = before ++ [⟨start, .receipt hash, .none⟩])
      (begun : start ≤ t.now) (late : t.now < start + node.elapsed between t.memory) :
      Heard node a t (.error (.receiptTimeout hash timeout))

/-- A check has come to `r`: its failure has one of the classes, and an error that it hears from the
node is the last thing it hears, and its result. -/
structure FailsAs (node : Node ν) (classes : List FailureClass) (a : Link ν)
    (r : Except CheckError α) (t : Session (Link ν)) : Prop where
  failure : ∀ e, r = .error e → e.failureClass ∈ classes
  heard : Heard node a t r

section Actions

variable {node : Node ν} {classes : List FailureClass} {a : Link ν} {t u : Session (Link ν)}

theorem FailsAs.of_nothing {r : Except CheckError α} (hmemory : t.memory = a)
    (h : ∀ e, r = .error e → e.failureClass ∈ classes) : FailsAs node classes a r t := by
  subst hmemory
  exact ⟨h, .all (.nothing t.memory) (endsAtRefusal_nil r)⟩

/-- What has come to a value has been answered without an error and may go on. -/
theorem FailsAs.next {v : α} {r : Except CheckError β} (h : FailsAs node classes a (.ok v) t)
    (hrest : FailsAs node classes t.memory r u) : FailsAs node classes a r u := by
  refine ⟨hrest.failure, ?_⟩
  cases h.heard with
  | all sends refusal =>
    cases hrest.heard with
    | all rest refusal' => exact .all (sends.append rest) (.prepend refusal.none_of_ok refusal')
    | cutOff rest none last asks recorded begun late =>
      exact .cutOff (sends.append rest) (List.forall_mem_append.mpr ⟨refusal.none_of_ok, none⟩) last
        asks recorded begun late

theorem FailsAs.of_ok {v : α} (h : FailsAs node classes a (.ok v) t) (w : β) :
    FailsAs node classes a (.ok w : Except CheckError β) t :=
  h.next (.of_nothing rfl fun _ heq => nomatch heq)

/-- What is noted afterwards does not matter. -/
theorem FailsAs.noted {r : Except CheckError α} (h : FailsAs node classes a r t) (l : LogLine) :
    FailsAs node classes a r (t.noted l) := by
  refine ⟨h.failure, ?_⟩
  cases h.heard with
  | all sends refusal => exact .all sends refusal
  | cutOff sends none last asks recorded begun late =>
    exact .cutOff sends none last asks recorded begun late

variable (node) (net : Network)

end Actions

section Checks

variable (node : Node ν) (net : Network)

end Checks

end Devnet.Rpc
