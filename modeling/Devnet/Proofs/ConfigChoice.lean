import Devnet.Config.Load
import Devnet.Proofs.Utf8Reading

namespace Devnet

/-- What reading a file comes to: its text, or what stands in the way of it. -/
inductive Files.Reads (files : Files) (path : FilePath) : Except FileFault String → Prop where
  | unreachable {fault : FileFault} (stands : files.lookup path = .error fault) :
      Reads files path (.error fault)
  | directory (stands : files.lookup path = .ok .directory) :
      Reads files path (.error .isDirectory)
  | binary {bytes : List UInt8} (stands : files.lookup path = .ok (.file bytes))
      (noText : ∀ s : String, bytes ≠ Text.encodeUtf8 s) : Reads files path (.error .notText)
  | text {s : String} (stands : files.lookup path = .ok (.file (Text.encodeUtf8 s))) :
      Reads files path (.ok s)

theorem Text.decodeUtf8_eq_none_iff {bytes : List UInt8} :
    decodeUtf8? bytes = none ↔ ∀ s : String, bytes ≠ encodeUtf8 s := by
  rw [Option.eq_none_iff_forall_ne_some]
  simp only [ne_eq, decodeUtf8_eq_some_iff]

theorem Files.readText_reads (files : Files) (path : FilePath) :
    files.Reads path (files.readText path) := by
  unfold readText
  cases hlookup : files.lookup path with
  | error fault => exact .unreachable hlookup
  | ok content =>
    cases content with
    | directory => exact .directory hlookup
    | file bytes =>
      cases hbytes : Text.decodeUtf8? bytes with
      | none =>
        simp only [bind, Except.bind, hbytes]
        exact .binary hlookup (Text.decodeUtf8_eq_none_iff.mp hbytes)
      | some s =>
        simp only [bind, Except.bind, hbytes]
        rw [Text.decodeUtf8_eq_some_iff.mp hbytes] at hlookup
        exact .text hlookup

theorem Environment.text_eq_some_iff {env : Environment} {name text : String} :
    env.text? name = some text ↔ env.get? name = some (Text.encodeUtf8 text) := by
  rw [Environment.text?, Option.bind_eq_bind, Option.bind_eq_some_iff]
  simp only [Text.decodeUtf8_eq_some_iff, exists_eq_right]

namespace Config

/-- What loading a file comes to: what its text is parsed to, or a fault with the path before it. -/
inductive Loads (files : Files) (path : FilePath) : Except CheckError Config → Prop where
  | unreadable {fault : FileFault} (reads : files.Reads path (.error fault)) :
      Loads files path
        (.error (.configUnreadable s!"{Text.decodeUtf8Lossy path}: {fault.message}"))
  | parsed {raw : String} (reads : files.Reads path (.ok raw)) : Loads files path (parse raw)

theorem load_loads (files : Files) (path : FilePath) : Loads files path (load files path).1 := by
  have hreads := files.readText_reads path
  unfold load
  cases htext : files.readText path with
  | error fault => exact .unreadable (htext ▸ hreads)
  | ok raw => exact .parsed (htext ▸ hreads)

/-- The variable for it holds no text, or is not set. -/
def Unnamed (env : Environment) : Prop :=
  ∀ name : String, env.get? Defaults.configVariable ≠ some (Text.encodeUtf8 name)

/-- What is taken for the configuration, and what is noted of it. -/
inductive Taken (files : Files) (env : Environment) :
    Except CheckError Config × List LogLine → Prop where
  | named {name : String}
      (named : env.get? Defaults.configVariable = some (Text.encodeUtf8 name)) :
      Taken files env (load files (Text.encodeUtf8 name))
  | usual {content : FileContent} (unnamed : Unnamed env)
      (stands : files.lookup usualPath = .ok content) : Taken files env (load files usualPath)
  | builtIn {log : List LogLine} (unnamed : Unnamed env)
      (absent : ∀ content, files.lookup usualPath ≠ .ok content) :
      Taken files env (.ok builtIn, log)

theorem loadUsual_taken {files : Files} {env : Environment} (unnamed : Unnamed env)
    (log : List LogLine) :
    Taken files env
      (if files.exists? usualPath then load files usualPath else (.ok builtIn, log)) := by
  cases hlookup : files.lookup usualPath with
  | ok content =>
    have hexists : files.exists? usualPath = true := by rw [Files.exists?, hlookup]; rfl
    rw [if_pos hexists]
    exact .usual unnamed hlookup
  | error fault =>
    have habsent : ¬ files.exists? usualPath = true := by
      rw [Files.exists?, hlookup]
      exact Bool.false_ne_true
    rw [if_neg habsent]
    exact .builtIn unnamed fun content h => by cases hlookup.symm.trans h

/-- A configuration is taken from where it is named, else from the usual place, else from nowhere;
and what is loaded from a place is what stands there, or the fault that stands in its way. -/
theorem loadDefault_taken (files : Files) (env : Environment) :
    Taken files env (loadDefault files env) ∧
      ∀ path, Loads files path (load files path).1 := by
  refine ⟨?_, load_loads files⟩
  unfold loadDefault
  cases hname : env.text? Defaults.configVariable with
  | some name => exact .named (Environment.text_eq_some_iff.mp hname)
  | none =>
    refine loadUsual_taken (fun name hset => ?_) _
    rw [Environment.text_eq_some_iff.mpr hset] at hname
    contradiction

/-- A name that is no text is passed over, although the file of that name is not there. -/
theorem loadDefault_of_no_text :
    let env : Environment := ⟨[Environment.entry Defaults.configVariable [0xFF]]⟩
    let files : Files := (FileTree.directory []).toFiles
    env.get? Defaults.configVariable = some [0xFF] ∧
      (load files [0xFF]).1 =
        .error (.configUnreadable "\uFFFD: No such file or directory (os error 2)") ∧
      (loadDefault files env).1 = .ok builtIn := by
  intro env files
  have hget : env.get? Defaults.configVariable = some [0xFF] := by decide
  have hfirst : Text.firstChar 0xFF [] = (none, []) := rfl
  have hbyte : Text.decodeEach [0xFF] = [none] := by
    rw [Text.decodeEach, hfirst, Text.decodeEach]
  have htext : env.text? Defaults.configVariable = none := by
    rw [Environment.text?, hget, Option.bind_eq_bind, Option.bind_some, Text.decodeUtf8?, hbyte]
    rfl
  refine ⟨hget, ?_, ?_⟩
  · have hshown : Text.decodeUtf8Lossy [0xFF] = "\uFFFD" := by
      rw [Text.decodeUtf8Lossy, hbyte]
      rfl
    rw [load, hshown]
    rfl
  · rw [loadDefault, htext]
    rfl

end Config

end Devnet
