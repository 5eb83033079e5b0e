import Devnet.Proofs.Rpc.SubmittedTransfer

namespace Devnet

/-- The sources are equal but for the texts of private keys. -/
inductive AccountSource.SameButKeys : AccountSource → AccountSource → Prop where
  | node : SameButKeys .node .node
  | keys {ks ls : List String} (count : ks.length = ls.length) : SameButKeys (.keys ks) (.keys ls)
  | env (names : List String) : SameButKeys (.env names) (.env names)

structure NetworkEntry.SameButKeys (e f : NetworkEntry) : Prop where
  chainId : e.chainId = f.chainId
  rpcUrl : e.rpcUrl = f.rpcUrl
  accounts : e.accounts.SameButKeys f.accounts

structure Target.SameButKeys (t u : Target) : Prop where
  network : t.network = u.network
  chainId : t.chainId = u.chainId
  rpcUrl : t.rpcUrl = u.rpcUrl
  accounts : t.accounts.SameButKeys u.accounts
  pollInterval : t.pollInterval = u.pollInterval

/-- The rows have the same names, and entries that are equal but for private keys. -/
def SameRows : List (String × NetworkEntry) → List (String × NetworkEntry) → Prop :=
  List.Forall₂ fun r s => r.1 = s.1 ∧ r.2.SameButKeys s.2

structure Config.SameButKeys (c d : Config) : Prop where
  networks : SameRows c.networks.rows d.networks.rows
  fixture : c.fixture = d.fixture
  receiptTimeoutSecs : c.receiptTimeoutSecs = d.receiptTimeoutSecs
  pollIntervalMs : c.pollIntervalMs = d.pollIntervalMs

theorem AccountSource.SameButKeys.refl (a : AccountSource) : a.SameButKeys a := by
  cases a with
  | node => exact .node
  | keys => exact .keys rfl
  | env names => exact .env names

theorem Target.SameButKeys.refl (t : Target) : t.SameButKeys t :=
  ⟨rfl, rfl, rfl, .refl t.accounts, rfl⟩

theorem AccountSource.SameButKeys.inspect_eq {a b : AccountSource} (h : a.SameButKeys b) :
    a.inspect = b.inspect := by
  cases h with
  | node => rfl
  | keys count => rw [inspect, inspect, count]
  | env names => rfl

theorem NetworkEntry.SameButKeys.inspect_eq {e f : NetworkEntry} (h : e.SameButKeys f) :
    e.inspect = f.inspect := by
  rw [inspect, inspect, h.chainId, h.rpcUrl, h.accounts.inspect_eq]

theorem Target.SameButKeys.inspect_eq {t u : Target} (h : t.SameButKeys u) :
    t.inspect = u.inspect := by
  rw [inspect, inspect, h.network, h.chainId, h.rpcUrl, h.accounts.inspect_eq, h.pollInterval]

theorem SameRows.inspect_eq {rows others : List (String × NetworkEntry)}
    (h : SameRows rows others) :
    rows.map (fun r => (r.1, r.2.inspect)) = others.map fun r => (r.1, r.2.inspect) := by
  induction h with
  | nil => rfl
  | cons hrs _ ih => rw [List.map_cons, List.map_cons, hrs.1, hrs.2.inspect_eq, ih]

theorem Config.SameButKeys.inspect_eq {c d : Config} (h : c.SameButKeys d) :
    c.inspect = d.inspect := by
  rw [inspect, inspect, h.networks.inspect_eq, h.fixture, h.receiptTimeoutSecs, h.pollIntervalMs]

theorem Target.SameButKeys.connectedLine_eq {t u : Target} (h : t.SameButKeys u) :
    Rpc.connectedLine t = Rpc.connectedLine u := by
  rw [Rpc.connectedLine, Rpc.connectedLine, h.network, h.rpcUrl, h.accounts.inspect_eq]

/-- Private keys are not shown: not when a source, an entry, a target or a configuration is
inspected, nor in what is logged about a connection, whatever the variables hold that keys are
taken from. -/
theorem private_keys_hidden :
    (∀ a b : AccountSource, a.SameButKeys b → a.inspect = b.inspect) ∧
    (∀ e f : NetworkEntry, e.SameButKeys f → e.inspect = f.inspect) ∧
    (∀ t u : Target, t.SameButKeys u → t.inspect = u.inspect) ∧
    (∀ c d : Config, c.SameButKeys d → c.inspect = d.inspect) ∧
    ∀ {ν : Type} (node : Rpc.Node ν) {t u : Target} {env env' : Environment}
      {a b a' b' : Rpc.Link ν} {m n : Rpc.Network}, t.SameButKeys u →
        (Rpc.connect node t env).run a = (.ok m, b) →
        (Rpc.connect node u env').run a' = (.ok n, b') →
        Rpc.connectLog t ((Rpc.connect node t env).run a).1 =
          Rpc.connectLog u ((Rpc.connect node u env').run a').1 := by
  refine ⟨fun _ _ h => h.inspect_eq, fun _ _ h => h.inspect_eq, fun _ _ h => h.inspect_eq,
    fun _ _ h => h.inspect_eq, ?_⟩
  intro ν node t u env env' a b a' b' m n hsame ht hu
  rw [ht, hu]
  exact congrArg (fun l => [l]) hsame.connectedLine_eq

/-- The first network, with a key that a variable holds. -/
def variableTarget : Target := { Target.ofNetwork .hardhat with accounts := .env ["KEY"] }

/-- An environment with that variable only. -/
def keyEnvironment (raw : String) : Environment :=
  ⟨[Environment.entry "KEY" (Text.encodeUtf8 raw)]⟩

theorem configuredKeys_of_variable {env : Environment} {raw : String} {key : PrivateKey}
    (htext : env.text? "KEY" = some raw) (hkey : PrivateKey.parse raw = .ok key) :
    Rpc.configuredKeys variableTarget env = .ok (some [key]) := by
  have hkeys : Keyring.ofTexts [raw] = .ok [key] := by
    rw [Keyring.ofTexts, List.mapM_cons, Keyring.readKey, hkey]
    rfl
  have htexts : variableTarget.accounts.privateKeys env = .ok (some [raw]) := by
    simp only [variableTarget, AccountSource.privateKeys, List.mapM_cons, htext]
    rfl
  simp only [Rpc.configuredKeys, htexts, hkeys, bind, Except.bind]
  rfl

def lowText : String := "0x0000000000000000000000000000000000000000000000000000000000000001"

def highText : String := "0x1000000000000000000000000000000000000000000000000000000000000000"

/-- One variable, two keys. -/
theorem private_keys_hidden_in_variables :
    Rpc.connectLog variableTarget ((Rpc.connect (.constant Rpc.chainBody) variableTarget
      (keyEnvironment lowText)).run (⟨(), #[]⟩ : Rpc.Link Unit)).1 =
    Rpc.connectLog variableTarget ((Rpc.connect (.constant Rpc.chainBody) variableTarget
      (keyEnvironment highText)).run (⟨(), #[]⟩ : Rpc.Link Unit)).1 := by
  have hlow : (keyEnvironment lowText).text? "KEY" = some lowText := by decide +kernel
  have hhigh : (keyEnvironment highText).text? "KEY" = some highText := by decide +kernel
  have hparse : PrivateKey.parse lowText = .ok Rpc.leastKey := rfl
  have hparse' : PrivateKey.parse highText = .ok ⟨2 ^ 252, by decide, by decide⟩ := rfl
  exact private_keys_hidden.2.2.2.2 _ (.refl variableTarget)
    (Rpc.connect_keys (fun _ => rfl) rfl (configuredKeys_of_variable hlow hparse) _)
    (Rpc.connect_keys (fun _ => rfl) rfl (configuredKeys_of_variable hhigh hparse') _)

end Devnet
