import Devnet.Proofs.Conversation
import Devnet.Rpc.Network

namespace Devnet

/-- Requests can be sent to the URL. -/
def Url.CarriesRequests (url : Url) : Prop :=
  url.requested.hasRequests = true ∧ url.requested.isRequestable = true

namespace Rpc

variable {ν ε δ α β : Type}

/-- What sending a request over a URL comes to that carries none. -/
def barredFault (url : Url) : Fault :=
  if url.requested.hasRequests then .badUrl url.requested.text
  else .badScheme url.requested.text

theorem call_carried {url : Url} (h : url.CarriesRequests) (node : Node ν) (request : Request)
    (reader : (depth : Nat) → Json.Doc → Except Json.Complaint α) (a : Link ν) :
    (call node url request reader).run a =
      match node.deliver request a.memory with
      | (.answered body, memory) =>
        (decodeBody reader body, ⟨memory, a.requests.push request⟩)
      | (.lost reason, memory) =>
        (.error (.unreachable url.requested.text reason), ⟨memory, a.requests⟩) := by
  unfold call
  simp only [ExceptT.run_mk, h.1, h.2]
  rfl

theorem call_barred {url : Url} (h : ¬ url.CarriesRequests) (node : Node ν) (request : Request)
    (reader : (depth : Nat) → Json.Doc → Except Json.Complaint α) (a : Link ν) :
    (call node url request reader).run a = (.error (barredFault url), a) := by
  unfold call barredFault
  simp only [ExceptT.run_mk]
  by_cases hscheme : url.requested.hasRequests = true
  · have hurl : url.requested.isRequestable = false := by
      rw [Bool.eq_false_iff]
      intro hurl
      exact h ⟨hscheme, hurl⟩
    rw [hscheme, hurl]
    rfl
  · rw [Bool.eq_false_iff.mpr hscheme]
    rfl

structure Sent where
  request : Request
  delivery : Delivery

/-- The request, if it has reached the node. -/
def Sent.arrived? (s : Sent) : Option Request :=
  match s.delivery with
  | .answered _ => some s.request
  | .lost _ => none

/-- The node is sent the requests one after the other, and goes from the first memory to the
last. -/
inductive Node.Serves (node : Node ν) : ν → List Sent → ν → Prop where
  | nothing (m : ν) : node.Serves m [] m
  | request {m n : ν} {sent : List Sent} (r : Request)
      (rest : node.Serves (node.deliver r m).2 sent n) :
      node.Serves m (⟨r, (node.deliver r m).1⟩ :: sent) n

theorem Node.Serves.append {node : Node ν} {m n o : ν} {as bs : List Sent}
    (ha : node.Serves m as n) (hb : node.Serves n bs o) : node.Serves m (as ++ bs) o := by
  induction ha with
  | nothing => exact hb
  | request r _ ih => exact .request r (ih hb)

/-- Between two links exactly these requests are sent, and those that arrive are recorded. -/
structure Link.Sends (node : Node ν) (a : Link ν) (sent : List Sent) (b : Link ν) : Prop where
  memory : node.Serves a.memory sent b.memory
  requests : b.requests.toList = a.requests.toList ++ sent.filterMap Sent.arrived?

namespace Link.Sends

variable {node : Node ν} {a b c : Link ν}

theorem nothing (a : Link ν) : a.Sends node [] a := ⟨.nothing _, by simp⟩

theorem append {as bs : List Sent} (ha : a.Sends node as b) (hb : b.Sends node bs c) :
    a.Sends node (as ++ bs) c where
  memory := ha.memory.append hb.memory
  requests := by
    rw [hb.requests, ha.requests, List.append_assoc, List.filterMap_append]

theorem answered {r : Request} {body : String} {m : ν}
    (h : node.deliver r a.memory = (.answered body, m)) :
    a.Sends node [⟨r, .answered body⟩] ⟨m, a.requests.push r⟩ where
  memory := by
    have hserves := Node.Serves.request r (.nothing (node.deliver r a.memory).2)
    rwa [h] at hserves
  requests := by rw [Array.toList_push]; rfl

theorem lost {r : Request} {reason : String} {m : ν}
    (h : node.deliver r a.memory = (.lost reason, m)) :
    a.Sends node [⟨r, .lost reason⟩] ⟨m, a.requests⟩ where
  memory := by
    have hserves := Node.Serves.request r (.nothing (node.deliver r a.memory).2)
    rwa [h] at hserves
  requests := by simp [Sent.arrived?]

end Link.Sends

/-- From every link, what the exchange sends and what comes of it satisfy `P`. -/
def Exchange.Satisfies (node : Node ν) (x : Exchange ν ε α)
    (P : List Sent → Except ε α → Prop) : Prop :=
  ∀ a, ∃ sent, a.Sends node sent (x.run a).2 ∧ P sent (x.run a).1

namespace Exchange

variable {node : Node ν} {x : Exchange ν ε α} {P Q : List Sent → Except ε α → Prop}

theorem Satisfies.mono (h : x.Satisfies node P) (hPQ : ∀ sent r, P sent r → Q sent r) :
    x.Satisfies node Q := by
  intro a
  obtain ⟨sent, hsends, hP⟩ := h a
  exact ⟨sent, hsends, hPQ _ _ hP⟩

theorem satisfies_pure {v : α} (h : P [] (.ok v)) :
    (pure v : Exchange ν ε α).Satisfies node P :=
  fun a => ⟨[], .nothing a, h⟩

theorem satisfies_throw {e : ε} (h : P [] (.error e)) :
    (throw e : Exchange ν ε α).Satisfies node P :=
  fun a => ⟨[], .nothing a, h⟩

theorem Satisfies.bind {f : α → Exchange ν ε β} {R : α → List Sent → Except ε β → Prop}
    {S : List Sent → Except ε β → Prop} (hx : x.Satisfies node P)
    (hf : ∀ v, (f v).Satisfies node (R v))
    (herror : ∀ sent e, P sent (.error e) → S sent (.error e))
    (hok : ∀ before v after r, P before (.ok v) → R v after r → S (before ++ after) r) :
    (x >>= f).Satisfies node S := by
  intro a
  obtain ⟨before, hsends, hP⟩ := hx a
  rcases hrun : x.run a with ⟨e | v, b⟩
  · rw [hrun] at hsends hP
    rw [run_bind_of_error hrun]
    exact ⟨before, hsends, herror _ _ hP⟩
  · rw [hrun] at hsends hP
    rw [run_bind_of_ok hrun]
    obtain ⟨after, hafter, hR⟩ := hf v b
    exact ⟨before ++ after, hsends.append hafter, hok _ _ _ _ hP hR⟩

/-- A value that is only changed in form costs no further request. -/
theorem Satisfies.map {g : α → β} {S : List Sent → Except ε β → Prop}
    (hx : x.Satisfies node P) (hS : ∀ sent r, P sent r → S sent (r.map g)) :
    (x >>= fun v => pure (g v)).Satisfies node S := by
  refine hx.bind (R := fun v sent r => sent = [] ∧ r = .ok (g v))
    (fun v => satisfies_pure ⟨rfl, rfl⟩) (fun sent e h => hS sent (.error e) h)
    fun before v after r h hpure => ?_
  obtain ⟨rfl, rfl⟩ := hpure
  rw [List.append_nil]
  exact hS before (.ok v) h

end Exchange

/-- Each request that is sent is an allowed one, whether it arrives or not. -/
def AllRequests (Allowed : Request → Prop) (sent : List Sent) : Prop :=
  ∀ s ∈ sent, Allowed s.request

theorem allRequests_nil {Allowed : Request → Prop} : AllRequests Allowed [] :=
  fun _ h => absurd h List.not_mem_nil

theorem AllRequests.append {Allowed : Request → Prop} {as bs : List Sent}
    (ha : AllRequests Allowed as) (hb : AllRequests Allowed bs) : AllRequests Allowed (as ++ bs) :=
  fun s hs => (List.mem_append.mp hs).elim (ha s) (hb s)

theorem Exchange.allRequests_bind {node : Node ν} {x : Exchange ν ε α} {f : α → Exchange ν ε β}
    {Allowed : Request → Prop} (hx : x.Satisfies node fun sent _ => AllRequests Allowed sent)
    (hf : ∀ v, (f v).Satisfies node fun sent _ => AllRequests Allowed sent) :
    (x >>= f).Satisfies node fun sent _ => AllRequests Allowed sent :=
  hx.bind hf (fun _ _ h => h) fun _ _ _ _ h rest => h.append rest

/-- What a question sends over a URL, and what comes of it: the value that is decoded from the
answer, or the fault in the way of it. -/
inductive Asked (url : Url) (request : Request)
    (reader : (depth : Nat) → Json.Doc → Except Json.Complaint α) (wrap : String → ε) :
    List Sent → Except ε α → Prop where
  | barred (barred : ¬ url.CarriesRequests) :
      Asked url request reader wrap [] (.error (wrap (barredFault url).message))
  | lost (carried : url.CarriesRequests) (reason : String) :
      Asked url request reader wrap [⟨request, .lost reason⟩]
        (.error (wrap (Fault.unreachable url.requested.text reason).message))
  | refused (carried : url.CarriesRequests) {body : String} {f : Fault}
      (undecodable : decodeBody reader body = .error f) :
      Asked url request reader wrap [⟨request, .answered body⟩] (.error (wrap f.message))
  | answered (carried : url.CarriesRequests) {body : String} {v : α}
      (decoded : decodeBody reader body = .ok v) :
      Asked url request reader wrap [⟨request, .answered body⟩] (.ok v)

section Asked

variable {url : Url} {request : Request}
  {reader : (depth : Nat) → Json.Doc → Except Json.Complaint α} {wrap : String → ε}
  {sent : List Sent} {r : Except ε α}

theorem Asked.of_ok {v : α} (h : Asked url request reader wrap sent (.ok v)) :
    ∃ body, sent = [⟨request, .answered body⟩] ∧ decodeBody reader body = .ok v := by
  cases h with
  | answered _ decoded => exact ⟨_, rfl, decoded⟩

theorem Asked.error {e : ε} (h : Asked url request reader wrap sent r) (hr : r = .error e) :
    ∃ words, e = wrap words := by
  cases h with
  | answered => cases hr
  | barred | lost | refused =>
    cases hr
    exact ⟨_, rfl⟩

theorem Asked.allRequests (h : Asked url request reader wrap sent r) {Allowed : Request → Prop}
    (hallowed : Allowed request) : AllRequests Allowed sent := by
  intro s hs
  cases h with
  | barred => exact absurd hs List.not_mem_nil
  | lost | refused | answered =>
    rw [List.mem_singleton.mp hs]
    exact hallowed

end Asked

/-- A question makes one request if the URL carries requests, and none if it does not. -/
theorem asked_of_call (node : Node ν) (url : Url) (request : Request)
    (reader : (depth : Nat) → Json.Doc → Except Json.Complaint α) (wrap : String → ε) :
    ((call node url request reader).orElse fun f => wrap f.message).Satisfies node
      (Asked url request reader wrap) := by
  intro a
  unfold Exchange.orElse
  rw [ExceptT.run_mk]
  by_cases hurl : url.CarriesRequests
  · rw [call_carried hurl]
    rcases hdeliver : node.deliver request a.memory with ⟨body | reason, m⟩
    · refine ⟨_, .answered hdeliver, ?_⟩
      dsimp only
      cases hbody : decodeBody reader body with
      | error f => exact .refused hurl hbody
      | ok v => exact .answered hurl hbody
    · exact ⟨_, .lost hdeliver, .lost hurl reason⟩
  · rw [call_barred hurl]
    exact ⟨[], .nothing a, .barred hurl⟩

theorem ask_answered {node : Node ν} {url : Url} (hurl : url.CarriesRequests) {request : Request}
    {a : Link ν} {body : String} {m : ν}
    (hdeliver : node.deliver request a.memory = (.answered body, m))
    {reader : (depth : Nat) → Json.Doc → Except Json.Complaint α} {v : α}
    (hbody : decodeBody reader body = .ok v) (wrap : Fault → δ) :
    ((call node url request reader).orElse wrap).run a =
      (.ok v, ⟨m, a.requests.push request⟩) := by
  unfold Exchange.orElse
  rw [ExceptT.run_mk, call_carried hurl, hdeliver]
  simp only [hbody]
  rfl

end Rpc

end Devnet
