import Devnet.Proofs.Rpc.ChainWidth
import Devnet.Proofs.Rpc.ResponseReading
import Devnet.Proofs.RunParts

namespace Devnet.Rpc

open Json (Blank Spells SpellsString blank_nil prints_natural spellsString_stringChars)

variable {ν : Type}

/-- The text is a response whose result is a text of the number. -/
inductive Tells (n : Nat) (body : String) : Prop where
  | response {answer : List Char} {s : String} (responds : Responds answer body.toList)
      (string : SpellsString answer s) (number : WritesQuantity s.toList n)

theorem Tells.decodeBody {n : Nat} {body : String} (h : Tells n body) (hn : n < 2 ^ 256) :
    Rpc.decodeBody readWord256 body = .ok (BitVec.ofNat 256 n) := by
  obtain ⟨responds, string, number⟩ := h
  exact responds.decodeBody (.string string) fun d hholds => number.readWord256 hn hholds

section Hears

variable {node : Node ν} {net : Network} {a b : Link ν} {body : String}

/-- Asked for its chain id over the network, the node answers with the text. -/
def Network.Hears (node : Node ν) (net : Network) (a : Link ν) (body : String) : Prop :=
  a.Sends node [⟨.chainId, .answered body⟩] ((net.chainId node).run a).2

/-- Narrowing the answer asks no more. -/
theorem Network.chainId_link {r : Except CheckError Word256}
    (hask : (net.ask node .chainId readWord256).run a = (r, b)) :
    ((net.chainId node).run a).2 = b := by
  unfold Network.chainId
  cases r with
  | error e => rw [run_bind_of_error hask]
  | ok n =>
    rw [run_bind_of_ok hask]
    cases narrow? n <;> rfl

/-- Just over a URL that carries requests an answer is heard. -/
theorem Network.hears_iff :
    net.Hears node a body ↔
      net.url.CarriesRequests ∧ ∃ m, node.deliver .chainId a.memory = (.answered body, m) := by
  constructor
  · rintro ⟨hmemory, hrequests⟩
    refine ⟨?_, ?_⟩
    · -- a URL that carries nothing leaves the link as it was, and no request is recorded
      by_contra hbarred
      have hask : (net.ask node .chainId readWord256).run a =
          (.error (.rpcCall (barredFault net.url).message), a) := by
        unfold Network.ask Exchange.orElse
        rw [ExceptT.run_mk, call_barred hbarred]
        rfl
      rw [Network.chainId_link hask] at hrequests
      simp [Sent.arrived?] at hrequests
    · generalize ((net.chainId node).run a).2.memory = n at hmemory
      generalize hsent : [Sent.mk .chainId (.answered body)] = sent at hmemory
      cases hmemory with
      | nothing => cases hsent
      | request r rest =>
        injection (List.cons.inj hsent).1 with hrequest hanswer
        subst hrequest
        exact ⟨_, Prod.ext hanswer.symm rfl⟩
  · rintro ⟨hurl, m, hdeliver⟩
    have hask : ∃ r, (net.ask node .chainId readWord256).run a =
        (r, ⟨m, a.requests.push .chainId⟩) := by
      unfold Network.ask Exchange.orElse
      rw [ExceptT.run_mk, call_carried hurl, hdeliver]
      exact ⟨_, rfl⟩
    obtain ⟨r, hask⟩ := hask
    rw [Network.Hears, Network.chainId_link hask]
    exact .answered hdeliver

/-- The number that is told is given as the chain id, if it fits. -/
theorem Network.Hears.chainId {n : Nat} (h : net.Hears node a body) (hbody : Tells n body)
    (hn : n < 2 ^ 256) :
    (∃ c, ((net.chainId node).run a).1 = .ok c ∧ c.toNat = n) ∨
      2 ^ 64 ≤ n ∧ ∃ words, ((net.chainId node).run a).1 = .error (.rpcCall words) := by
  obtain ⟨hurl, m, hdeliver⟩ := Network.hears_iff.mp h
  have hask := ask_answered hurl hdeliver (hbody.decodeBody hn)
    fun f => CheckError.rpcCall f.message
  have htold : (BitVec.ofNat 256 n).toNat = n := by
    rw [BitVec.toNat_ofNat, Nat.mod_eq_of_lt hn]
  have hchain := Network.chainId_of_ask hask
  rwa [htold] at hchain

/-- The first check is the verdict on the answer, if the declared chain id is right. -/
theorem checkChainIdentity_judged (node : Node ν) (net : Network) {target : Target}
    (hdeclared : target.chainId = target.expectedChainId) (s : Session (Link ν)) :
    ((checkChainIdentity (net.client node) target).run s).1 =
      judged (checkChainId .live target.expectedChainId) ((net.chainId node).run s.memory).1 := by
  obtain ⟨memory, now, made, hends, -⟩ := checkChainIdentity_ends (net.client node) target s
  generalize ((checkChainIdentity (net.client node) target).run s).1 = r at hends
  cases hends with
  | notDeclared wrong => exact absurd hdeclared wrong
  | asked declared reply =>
    obtain ⟨rfl, -⟩ := Prod.mk.inj reply
    rfl

end Hears

/-- A live chain id passes if it is the expected one. -/
theorem judged_live (expected live : UInt64) :
    judged (checkChainId .live expected) (.ok live) =
      if live.toNat = expected.toNat then .ok live
      else .error (.chainIdMismatch .live expected live) := by
  simp only [judged, checkChainId, UInt64.toNat_inj]
  split <;> rfl

/-- A node that tells `n`, over any network and for any target whose declared chain id is right:
the chain id is `n` if 64 bits hold it, and otherwise the call fails; and the first check passes
just if `n` is the expected chain id, not if only its last bits are. Else it fails with `n` as the
live chain id, or as the call has. -/
theorem checkChainIdentity_reported {node : Node ν} {net : Network} {target : Target}
    {s : Session (Link ν)} {body : String} {n : Nat}
    (hdeclared : target.chainId = target.expectedChainId) (hheard : net.Hears node s.memory body)
    (hbody : Tells n body) (hn : n < 2 ^ 256) :
    (n < 2 ^ 64 → ∃ c, ((net.chainId node).run s.memory).1 = .ok c ∧ c.toNat = n) ∧
    (2 ^ 64 ≤ n → ∃ words, ((net.chainId node).run s.memory).1 = .error (.rpcCall words)) ∧
    ((∃ live, ((checkChainIdentity (net.client node) target).run s).1 = .ok live) ↔
      n = target.expectedChainId.toNat) ∧
    (∀ k live, n ≠ target.expectedChainId.toNat →
      n % 2 ^ k = target.expectedChainId.toNat % 2 ^ k →
      ((checkChainIdentity (net.client node) target).run s).1 ≠ .ok live) ∧
    (n < 2 ^ 64 → n ≠ target.expectedChainId.toNat →
      ∃ c, ((checkChainIdentity (net.client node) target).run s).1 =
        .error (.chainIdMismatch .live target.expectedChainId c) ∧ c.toNat = n) ∧
    (2 ^ 64 ≤ n → ∃ words,
      ((checkChainIdentity (net.client node) target).run s).1 = .error (.rpcCall words)) := by
  have hjudged := checkChainIdentity_judged node net hdeclared s
  rcases hheard.chainId hbody hn with ⟨c, hc, rfl⟩ | ⟨hle, words, hwords⟩
  · have hlt := c.toNat_lt
    rw [hc, judged_live] at hjudged
    refine ⟨fun _ => ⟨c, hc, rfl⟩, fun hle => absurd hlt (Nat.not_lt.mpr hle), ?_, ?_, ?_,
      fun hle => absurd hlt (Nat.not_lt.mpr hle)⟩
    · rw [hjudged]
      constructor
      · rintro ⟨live, hlive⟩
        by_contra hne
        rw [if_neg hne] at hlive
        cases hlive
      · intro heq
        exact ⟨c, if_pos heq⟩
    · intro k live hne _ hlive
      rw [hjudged, if_neg hne] at hlive
      cases hlive
    · intro _ hne
      exact ⟨c, by rw [hjudged, if_neg hne], rfl⟩
  · -- the expected chain id is below 2 ^ 64, so no number beyond is equal to it
    have hlt := target.expectedChainId.toNat_lt
    rw [hwords, judged] at hjudged
    have hne : n ≠ target.expectedChainId.toNat := by omega
    refine ⟨fun hn => absurd hn (Nat.not_lt.mpr hle), fun _ => ⟨words, hwords⟩, ?_, ?_,
      fun hn => absurd hn (Nat.not_lt.mpr hle), fun _ => ⟨words, hjudged⟩⟩
    · rw [hjudged]
      constructor
      · rintro ⟨live, hlive⟩
        cases hlive
      · intro heq
        exact absurd heq hne
    · intro k live _ _ hlive
      rw [hjudged] at hlive
      cases hlive

/-- The expected chain id with one bit more, in capitals, and the members in another order. -/
def wrappedBody : String :=
  "\x7b\"result\": \"0x10000000000007A69\", \"id\":7,\"jsonrpc\":\"2.0\"\x7d"

theorem tells_wrappedBody : Tells 18446744073709582953 wrappedBody := by
  have hdigits : WritesQuantity "0x10000000000007A69".toList 18446744073709582953 :=
    @WritesQuantity.digits ['0', 'x'] "10000000000007A69".toList
      [1, 0, 0, 0, 0, 0, 0, 0, 0, 0, 0, 0, 0, 7, 10, 6, 9] (.inr rfl) rfl (by decide) (by decide)
  have hstring : SpellsString "\"0x10000000000007A69\"".toList "0x10000000000007A69" :=
    spellsString_stringChars "0x10000000000007A69"
  have hid : Spells ['7'] (.value (.number (some (.natural 7)))) := prints_natural 7
  have hblank : Blank [' '] := by simp [Blank, Json.isSpace]
  have hrows : WritesRows "\"0x10000000000007A69\"".toList true
      "\"result\": \"0x10000000000007A69\", \"id\":7,\"jsonrpc\":\"2.0\"\x7d".toList
      [.result, .id, .version] :=
    .row (.first blank_nil) blank_nil hblank .result <|
      .row (.next blank_nil hblank) blank_nil blank_nil (.id hid) <|
        .row (.next blank_nil blank_nil) blank_nil blank_nil .version (.close blank_nil)
  have hresponds : Responds "\"0x10000000000007A69\"".toList wrappedBody.toList :=
    .object blank_nil blank_nil hrows (by decide)
  exact .response hresponds hstring hdigits

/-- A chain id that agrees with the expected one in its last 64 bits is a failed call. -/
theorem wrappedChain_refused :
    (Target.ofNetwork .hardhat).chainId = (Target.ofNetwork .hardhat).expectedChainId ∧
    (connect (Node.constant wrappedBody) (.ofNetwork .hardhat) ⟨[]⟩).run (⟨(), #[]⟩ : Link Unit) =
      (.ok ⟨localUrl, .node⟩, ⟨(), #[]⟩) ∧
    (⟨localUrl, .node⟩ : Network).Hears (Node.constant wrappedBody) (⟨(), #[]⟩ : Link Unit)
      wrappedBody ∧
    Tells 18446744073709582953 wrappedBody ∧ 18446744073709582953 < 2 ^ 256 ∧
    18446744073709582953 % 2 ^ 64 = (Target.ofNetwork .hardhat).expectedChainId.toNat ∧
    ∃ words, ((checkChainIdentity ((⟨localUrl, .node⟩ : Network).client
      (Node.constant wrappedBody : Node Unit)) (.ofNetwork .hardhat)).run
        (.start ⟨(), #[]⟩)).1 = .error (.rpcCall words) := by
  have hheard : (⟨localUrl, .node⟩ : Network).Hears (Node.constant wrappedBody)
      (⟨(), #[]⟩ : Link Unit) wrappedBody :=
    Network.hears_iff.mpr ⟨localUrl_carriesRequests, (), rfl⟩
  refine ⟨rfl, connect_ofNetwork _ _ _ _, hheard, tells_wrappedBody, by decide, by decide, ?_⟩
  exact (checkChainIdentity_reported (s := .start ⟨(), #[]⟩) rfl hheard tells_wrappedBody
    (by decide)).2.2.2.2.2 (by decide)

end Devnet.Rpc
