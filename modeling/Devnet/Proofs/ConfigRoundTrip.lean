import Devnet.Config.Load
import Devnet.Proofs.Json.Reading

namespace Devnet

namespace NameTable

variable {α : Type}

theorem insertRow_last {name : String} {v : α} {rows : List (String × α)}
    (h : ∀ r ∈ rows, r.1 < name) : insertRow name v rows = rows ++ [(name, v)] := by
  induction rows with
  | nil => rfl
  | cons r rows ih =>
    have hr := h r List.mem_cons_self
    have hnot : ¬ name < r.1 := fun hlt => Std.lt_irrefl (Std.lt_trans hr hlt)
    have hne : name ≠ r.1 := by
      intro heq
      rw [heq] at hr
      exact Std.lt_irrefl hr
    rw [insertRow, if_neg hnot, if_neg hne, ih fun s hs => h s (List.mem_cons_of_mem _ hs)]
    rfl

theorem rows_foldl_insert {rows : List (String × α)} (t : NameTable α)
    (h : (t.rows ++ rows).Pairwise fun a b => a.1 < b.1) :
    (rows.foldl (fun t r => insert r.1 r.2 t) t).rows = t.rows ++ rows := by
  induction rows generalizing t with
  | nil => simp
  | cons r rows ih =>
    have hlast : ∀ s ∈ t.rows, s.1 < r.1 :=
      fun s hs => (List.pairwise_append.mp h).2.2 s hs r List.mem_cons_self
    have hrows : (t.insert r.1 r.2).rows = t.rows ++ [r] := insertRow_last hlast
    rw [List.foldl_cons, ih (insert r.1 r.2 t) (by rw [hrows]; simpa using h), hrows]
    simp

theorem foldl_insert_rows (t : NameTable α) :
    t.rows.foldl (fun t r => insert r.1 r.2 t) empty = t := by
  apply NameTable.ext
  rw [rows_foldl_insert empty (by simpa [empty] using t.sorted)]
  rfl

end NameTable

open Json (Doc Prints Collects)

namespace AccountSource

theorem prints_texts (texts : List String) : Prints (.array (texts.map .string)) := by
  apply Json.prints_array
  intro v hv
  obtain ⟨s, -, rfl⟩ := List.mem_map.mp hv
  exact Json.prints_string s

theorem prints_toJson (a : AccountSource) : Prints a.toJson := by
  cases a with
  | node => exact Json.prints_object (by simpa using Json.prints_string "node")
  | keys privateKeys =>
    exact Json.prints_object
      (by simpa using ⟨Json.prints_string "keys", prints_texts privateKeys⟩)
  | env names =>
    exact Json.prints_object (by simpa using ⟨Json.prints_string "env", prints_texts names⟩)

theorem textsOf_array (texts : List String) :
    textsOf (.array (texts.map .string)) = .ok texts := by
  rw [textsOf]
  induction texts with
  | nil => rfl
  | cons s texts ih =>
    rw [List.map_cons, List.mapM_cons, ih]
    rfl

theorem listOf_single (name : String) (texts : List String) :
    listOf name [(name, .array (texts.map .string))] = .ok texts := by
  simp only [listOf, listOf.go, textsOf_array, if_true]
  rfl

theorem readMembers_of_listed {depth : Nat} {l : Listed} {tag : String} {texts : List String}
    {members : Json.Members} (htag : Kind.variants.lookup tag = some (.listed l))
    (h : members.Shows [(tagName, .string tag), (l.listName, .array (texts.map .string))]) :
    readMembers (depth + 1) none members =
      .ok (.listed l, [(l.listName, .array (texts.map .string))]) := by
  have hname : l.listName ≠ tagName := by cases l <;> decide
  obtain ⟨_, key, _, d, rest, rfl, hkey, hd, hrest⟩ := Json.Members.shows_cons h
  obtain ⟨_, key', _, d', rest', rfl, hkey', hd', hrest'⟩ := Json.Members.shows_cons hrest
  obtain ⟨stop, rfl⟩ := Json.Members.shows_nil hrest'
  obtain ⟨items, start, rfl, hitems⟩ := Doc.shows_array_iff.mp hd'
  have hread := Json.Items.read_of_shows_strings depth hitems
  have hkind := Doc.readVariant_of_shows hd htag
  simp only [readMembers, hkey, hkey', bind, Except.bind, hkind, Doc.read, hread]
  simp [hname, pure, Except.pure, Except.map]

theorem read_of_listed {depth : Nat} {l : Listed} {tag : String} {texts : List String} {d : Doc}
    (htag : Kind.variants.lookup tag = some (.listed l))
    (h : d.Shows (.object [(tagName, .string tag), (l.listName, .array (texts.map .string))])) :
    AccountSource.read (depth + 2) d = .ok (l.build texts) := by
  obtain ⟨members, start, rfl, hmembers⟩ := Doc.shows_object_iff.mp h
  simp only [AccountSource.read, Doc.enter, readMembers_of_listed htag hmembers, bind,
    Except.bind, ofMembers, listOf_single]
  rfl

theorem read_of_bare {depth : Nat} {d : Doc}
    (h : d.Shows (.object [(tagName, .string "node")])) :
    AccountSource.read (depth + 2) d = .ok .node := by
  obtain ⟨members, start, rfl, hmembers⟩ := Doc.shows_object_iff.mp h
  obtain ⟨_, key, _, d, rest, rfl, hkey, hd, hrest⟩ := Json.Members.shows_cons hmembers
  obtain ⟨stop, rfl⟩ := Json.Members.shows_nil hrest
  have hkind : d.readVariant Kind.variants = .ok .bare := Doc.readVariant_of_shows hd (by decide)
  simp only [AccountSource.read, Doc.enter, readMembers, hkey, hkind, bind, Except.bind]
  rfl

/-- A source is read back from every tree that shows it. -/
theorem read_of_shows (a : AccountSource) {depth : Nat} {d : Doc} (h : d.Shows a.toJson) :
    AccountSource.read (depth + 2) d = .ok a := by
  cases a with
  | node => exact read_of_bare h
  | keys privateKeys =>
    have htag : Kind.variants.lookup "keys" = some (.listed .keys) := by decide
    exact read_of_listed htag h
  | env names =>
    have htag : Kind.variants.lookup "env" = some (.listed .env) := by decide
    exact read_of_listed htag h

end AccountSource

namespace NetworkEntry

theorem prints_toJson (e : NetworkEntry) : Prints e.toJson :=
  Json.prints_object (by
    simpa using ⟨Json.prints_natural e.chainId, Json.prints_string e.rpcUrl,
      e.accounts.prints_toJson⟩)

theorem read_of_shows (e : NetworkEntry) {depth : Nat} {d : Doc} (h : d.Shows e.toJson) :
    NetworkEntry.read (depth + 3) d = .ok e := by
  have hcollects : Collects shape.fields (depth + 2) shape.empty
      [("chain_id", .natural e.chainId), ("rpc_url", .string e.rpcUrl),
        ("accounts", e.accounts.toJson)] ⟨some e.chainId, some e.rpcUrl, some e.accounts⟩ := by
    refine .field (f := chainIdField) rfl rfl
      (fun d hd => congrArg (Except.map _) (Doc.readNatural_of_shows hd)) ?_
    refine .field (f := rpcUrlField) rfl rfl
      (fun d hd => congrArg (Except.map _) (Doc.readString_of_shows hd _)) ?_
    refine .field (f := accountsField) rfl rfl
      (fun d hd => congrArg (Except.map _) (e.accounts.read_of_shows hd)) ?_
    exact .done _
  exact hcollects.readRecord rfl h

end NetworkEntry

namespace FixtureTexts

theorem prints_toJson (f : FixtureTexts) : Prints f.toJson :=
  Json.prints_object (by simpa using ⟨Json.prints_string f.whale, Json.prints_string f.user⟩)

theorem read_of_shows (f : FixtureTexts) {depth : Nat} {d : Doc} (h : d.Shows f.toJson) :
    FixtureTexts.read (depth + 1) d = .ok f := by
  have hcollects : Collects shape.fields depth shape.empty
      [("whale", .string f.whale), ("user", .string f.user)] ⟨some f.whale, some f.user⟩ := by
    refine .field (f := whaleField) rfl rfl
      (fun d hd => congrArg (Except.map _) (Doc.readString_of_shows hd _)) ?_
    refine .field (f := userField) rfl rfl
      (fun d hd => congrArg (Except.map _) (Doc.readString_of_shows hd _)) ?_
    exact .done _
  exact hcollects.readRecord rfl h

end FixtureTexts

namespace Config

theorem prints_toJson (c : Config) : Prints c.toJson := by
  refine Json.prints_object ?_
  have hnetworks : Prints (.object (c.networks.rows.map fun r => (r.1, r.2.toJson))) := by
    apply Json.prints_object
    intro m hm
    obtain ⟨r, -, rfl⟩ := List.mem_map.mp hm
    exact r.2.prints_toJson
  simpa using ⟨hnetworks, c.fixture.prints_toJson, Json.prints_natural c.receiptTimeoutSecs,
    Json.prints_natural c.pollIntervalMs⟩

theorem readNetworks_of_shows (t : NameTable NetworkEntry) {depth : Nat} {d : Doc}
    (h : d.Shows (.object (t.rows.map fun r => (r.1, r.2.toJson)))) :
    readNetworks (depth + 4) d = .ok t := by
  obtain ⟨members, start, rfl, hmembers⟩ := Doc.shows_object_iff.mp h
  have hrows := Json.Members.readTable_of_shows NetworkEntry.read NameTable.insert (depth + 3)
    (fun r _ d hd => r.2.read_of_shows hd) hmembers NameTable.empty
  rw [NameTable.foldl_insert_rows] at hrows
  exact hrows

theorem read_of_shows (c : Config) {depth : Nat} {d : Doc} (h : d.Shows c.toJson) :
    shape.read (depth + 5) d = .ok c := by
  have hcollects : Collects shape.fields (depth + 4) shape.empty
      [("networks", .object (c.networks.rows.map fun r => (r.1, r.2.toJson))),
        ("fixture", c.fixture.toJson), ("receipt_timeout_secs", .natural c.receiptTimeoutSecs),
        ("poll_interval_ms", .natural c.pollIntervalMs)]
      ⟨some c.networks, some c.fixture, some c.receiptTimeoutSecs, some c.pollIntervalMs⟩ := by
    refine .field (f := networksField) rfl rfl
      (fun d hd => congrArg (Except.map _) (readNetworks_of_shows c.networks hd)) ?_
    refine .field (f := fixtureField) rfl rfl
      (fun d hd => congrArg (Except.map _) (c.fixture.read_of_shows hd)) ?_
    refine .field (f := receiptTimeoutField) rfl rfl
      (fun d hd => congrArg (Except.map _) (Doc.readNatural_of_shows hd)) ?_
    refine .field (f := pollIntervalField) rfl rfl
      (fun d hd => congrArg (Except.map _) (Doc.readNatural_of_shows hd)) ?_
    exact .done _
  exact hcollects.readRecord rfl h

/-- Whatever its networks are called, a configuration is decoded from its own text. -/
theorem decode_text (c : Config) : decode c.toJson.text = .ok c :=
  Json.readText_of_prints c.prints_toJson fun _ h => c.read_of_shows h

theorem validate_of_known {c : Config} (hknown : ∀ name ∈ c.networks.names,
    ∃ k : KnownNetwork, k.name = name) (hpoll : c.pollIntervalMs ≠ 0) : c.validate = .ok c := by
  have hnone : c.unknownName? = none := by
    rw [unknownName?, List.find?_eq_none]
    intro name hname
    obtain ⟨k, hk⟩ := hknown name hname
    rw [KnownNetwork.ofName_eq_some_iff.mpr hk]
    simp
  rw [validate, hnone]
  exact if_neg hpoll

/-- A configuration with known networks only and an interval between polls is what its own text
is parsed to. -/
theorem parse_text {c : Config} (hknown : ∀ name ∈ c.networks.names,
    ∃ k : KnownNetwork, k.name = name) (hpoll : c.pollIntervalMs ≠ 0) :
    parse c.toJson.text = .ok c := by
  rw [parse, decode_text]
  exact validate_of_known hknown hpoll

theorem parse_text_builtIn :
    (∀ name ∈ builtIn.networks.names, ∃ k : KnownNetwork, k.name = name) ∧
    builtIn.pollIntervalMs ≠ 0 ∧ parse builtIn.toJson.text = .ok builtIn := by
  have hnames : builtIn.networks.names = [KnownNetwork.hardhat.name, KnownNetwork.kvtool.name] := by
    decide
  have hknown : ∀ name ∈ builtIn.networks.names, ∃ k : KnownNetwork, k.name = name := by
    rw [hnames]
    intro name hname
    simp only [List.mem_cons, List.not_mem_nil, or_false] at hname
    rcases hname with rfl | rfl <;> exact ⟨_, rfl⟩
  have hpoll : builtIn.pollIntervalMs ≠ 0 := by decide
  exact ⟨hknown, hpoll, parse_text hknown hpoll⟩

end Config

end Devnet
