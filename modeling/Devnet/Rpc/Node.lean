import Devnet.Rpc.Request
import Devnet.Rpc.Response
import Devnet.Url.Parser

namespace Devnet.Rpc

inductive Delivery where
  | answered (body : String)
  /-- The request does not reach the node, for a reason in words. -/
  | lost (reason : String)

structure Node (ν : Type) where
  deliver : Request → ν → Delivery × ν
  /-- The time on the node's clock. What a request takes is the time that it moves the clock on. -/
  clock : ν → Nat := fun _ => 0

/-- A node's memory and the requests that have reached it. -/
structure Link (ν : Type) where
  memory : ν
  requests : Array Request

/-- How long the requests from one link to a later one have taken. -/
def Node.elapsed {ν : Type} (node : Node ν) (before after : Link ν) : Nat :=
  node.clock after.memory - node.clock before.memory

inductive Fault where
  /-- No request can be sent over the scheme of the URL. -/
  | badScheme (url : String)
  /-- The URL does not fit a request. -/
  | badUrl (url : String)
  | unreachable (url reason : String)
  | refused (r : Refusal)
  /-- The text is not what was asked for. -/
  | undecodable (detail response : String)

def Fault.message : Fault → String
  | badScheme url => s!"builder error for url ({url}): URL scheme is not allowed"
  | badUrl url => s!"builder error for url ({url}): Parsed Url is not a valid Uri"
  | unreachable url reason => s!"error sending request for url ({url}): {reason}"
  | refused r => r.text
  | undecodable detail response => s!"Deserialization Error: {detail}. Response: {response}"

def decodeBody {α : Type} (reader : (depth : Nat) → Json.Doc → Except Json.Complaint α)
    (body : String) : Except Fault α :=
  match Json.readText readResponse body with
  | .error detail => .error (.undecodable detail body)
  | .ok .notification => .error (.undecodable "unexpected notification over HTTP transport" body)
  | .ok (.refused r) => .error (.refused r)
  | .ok (.success start stop) =>
    let result := slice body start stop
    (Json.readText reader result).mapError fun detail => .undecodable detail result

/-- An exchange with a node, up to the first fault. -/
abbrev Exchange (ν ε α : Type) := ExceptT ε (StateM (Link ν)) α

def call {ν α : Type} (node : Node ν) (url : Url) (request : Request)
    (reader : (depth : Nat) → Json.Doc → Except Json.Complaint α) : Exchange ν Fault α :=
  ExceptT.mk fun link =>
    let url := url.requested
    if !url.hasRequests then (.error (.badScheme url.text), link)
    else if !url.isRequestable then (.error (.badUrl url.text), link)
    else
      match node.deliver request link.memory with
      | (.answered body, memory) =>
        (decodeBody reader body, ⟨memory, link.requests.push request⟩)
      | (.lost reason, memory) =>
        (.error (.unreachable url.text reason), ⟨memory, link.requests⟩)

/-- An exchange whose faults count as errors of a kind. -/
def Exchange.orElse {ν ε δ α : Type} (wrap : ε → δ) (e : Exchange ν ε α) : Exchange ν δ α :=
  ExceptT.mk fun link =>
    let (r, link) := e.run link
    (r.mapError wrap, link)

end Devnet.Rpc
