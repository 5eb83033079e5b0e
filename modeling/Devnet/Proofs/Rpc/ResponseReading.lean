import Devnet.Proofs.Json.OrderFree
import Devnet.Proofs.Rpc.ResultPlace
import Devnet.Rpc.Node

namespace Devnet

namespace Json

/-- A member is scanned up to its value, which may be of any kind. -/
theorem scanMembers_key {first : Bool} {sep body b c : List Char} {ps : List Piece}
    (separates : Separates first sep) (key : SpellsPieces body ps) (before : Blank b)
    (after : Blank c) (fuel i : Nat) (r : List Char) :
    ∃ lead place, ∀ d a,
      scanDoc (fuel + 1) ⟨i + byteLength (sep ++ '"' :: (body ++ (b ++ ':' :: c))), r⟩ =
        (d, some a) →
      scanMembers (fuel + 3) first ⟨i, sep ++ '"' :: (body ++ (b ++ ':' :: (c ++ r)))⟩ =
        (.member lead ⟨i + sep.length + 1, ps, .closed⟩ place d
          (scanMembers (fuel + 1) false a).1, (scanMembers (fuel + 1) false a).2) := by
  obtain ⟨lead, hlead⟩ := scanMembers_separates separates
  refine ⟨i + lead, i + sep.length + 1 + byteLength body + b.length, fun d a hd => ?_⟩
  have hquote : '"'.utf8Size = 1 := rfl
  have hcolon : ':'.utf8Size = 1 := rfl
  have hplace : i + byteLength (sep ++ '"' :: (body ++ (b ++ ':' :: c))) =
      i + sep.length + 1 + byteLength body + b.length + 1 + c.length := by
    simp only [byteLength_append, byteLength_cons, separates.byteLength_eq, before.byteLength_eq,
      after.byteLength_eq, hquote, hcolon]
    omega
  rw [hplace] at hd
  rw [hlead]
  simp only [scanMember, key.scan_at, skipSpace_blank before (by decide : isSpace ':' = false),
    scanDoc_append after, hd]

end Json

namespace Rpc

open Json

theorem readPlain_plain (s : String) (place start stop : Nat) :
    readPlain (.string ⟨place, s.toList.map .plain, .closed⟩ start stop) = .ok s := by
  have htext : StringLiteral.text ⟨place, s.toList.map .plain, .closed⟩ = .ok s :=
    text_of_spelled (decode_plain s.toList)
  simp only [readPlain, htext, bind, Except.bind]
  rw [if_pos (by simp)]
  rfl

theorem memberName_plain (name : String) (place after : Nat) :
    memberName ⟨place, name.toList.map .plain, .closed⟩ after = .ok name := by
  rw [memberName, readPlain_plain]
  rfl

/-- What a response with a result is made of. -/
inductive Row where
  | version
  | id
  | result
  deriving DecidableEq

namespace Row

def all : List Row := [version, id, result]

def name : Row → String
  | version => "jsonrpc"
  | id => "id"
  | result => "result"

/-- How the value of a member is written in a response with this result. -/
inductive Writes (answer : List Char) : Row → List Char → Prop where
  | version : Writes answer .version (inQuotes "2.0")
  | id {cs : List Char} {k : UInt64} (natural : Spells cs (.value (.number (some (.natural k))))) :
      Writes answer .id cs
  | result : Writes answer .result answer

/-- The tree of a value that the reader takes for this member; a result is where its text says. -/
def Fits (text : String) (answer : List Char) : Row → Doc → Prop
  | version, d => readPlain d = .ok "2.0"
  | id, d => ∃ k, d.readNatural = .ok k
  | result, d => d.skip = .ok () ∧
      slice text d.start (docStop d) = String.ofList answer

theorem plain_name (row : Row) : Plain row.name.toList := by
  cases row <;> decide

end Row

/-- The rest of an object with these members, up to and with its closing brace. -/
inductive WritesRows (answer : List Char) : (first : Bool) → List Char → List Row → Prop where
  | close {first : Bool} {b : List Char} (blank : Blank b) :
      WritesRows answer first (b ++ ['\x7d']) []
  | row {first : Bool} {sep b c cs ds : List Char} {row : Row} {rows : List Row}
      (separates : Separates first sep) (before : Blank b) (after : Blank c)
      (value : row.Writes answer cs) (rest : WritesRows answer false ds rows) :
      WritesRows answer first (sep ++ (inQuotes row.name ++ (b ++ ':' :: (c ++ (cs ++ ds)))))
        (row :: rows)

/-- A response that brings the result: an object with its members in some order. -/
inductive Responds (answer : List Char) : List Char → Prop where
  | object {before cs after : List Char} {rows : List Row} (before_blank : Blank before)
      (after_blank : Blank after) (members : WritesRows answer true cs rows)
      (order : rows.Perm Row.all) : Responds answer (before ++ '\x7b' :: (cs ++ after))

namespace Envelope

def has (e : Envelope) : Row → Bool
  | .version => e.hasVersion
  | .id => e.id.isSome
  | .result => e.result.isSome

/-- Nothing has been read but parts of a response with a result, and the result is where its text
says. -/
structure Keeps (text : String) (answer : List Char) (e : Envelope) : Prop where
  error : e.error = none
  method : e.hasMethod = false
  params : e.hasParams = false
  result : ∀ start stop, e.result = some (start, stop) →
    slice text start stop = String.ofList answer

variable {text : String} {answer : List Char} {e : Envelope} {row : Row}

theorem memberComplaint_row (h : e.has row = false) : memberComplaint? row.name e = none := by
  cases row <;> simp_all [has, memberComplaint?, memberNames, Row.name]

/-- A member that the envelope lacks is read into it. -/
theorem Keeps.member (h : e.Keeps text answer) {d : Doc} (hd : row.Fits text answer d)
    (depth : Nat) :
    ∃ e', envelopeMember depth row.name e d = .ok e' ∧ e'.Keeps text answer ∧
      ∀ r, e'.has r = (e.has r || r == row) := by
  obtain ⟨herror, hmethod, hparams, hresult⟩ := h
  cases row with
  | version =>
    have hversion : readPlain d = .ok "2.0" := hd
    refine ⟨{ e with hasVersion := true }, ?_, ⟨herror, hmethod, hparams, hresult⟩, ?_⟩
    · simp only [envelopeMember, Row.name, hversion, bind, Except.bind]
      rfl
    · rintro (_ | _ | _) <;> simp [has]
  | id =>
    obtain ⟨k, hk⟩ := hd
    refine ⟨{ e with id := some k }, ?_, ⟨herror, hmethod, hparams, hresult⟩, ?_⟩
    · simp only [envelopeMember, Row.name, hk, bind, Except.bind]
      rfl
    · rintro (_ | _ | _) <;> simp [has]
  | result =>
    obtain ⟨hskip, hslice⟩ := hd
    refine ⟨{ e with result := some (d.start, docStop d) }, ?_, ⟨herror, hmethod, hparams, ?_⟩, ?_⟩
    · simp only [envelopeMember, Row.name, hskip, bind, Except.bind]
      rfl
    · rintro start stop h
      cases h
      exact hslice
    · rintro (_ | _ | _) <;> simp [has]

/-- With every member read, the envelope is the response. -/
theorem Keeps.response (h : e.Keeps text answer) (hall : ∀ row, e.has row = true) (stop : Nat) :
    ∃ start last, e.response stop = .ok (.success start last) ∧
      slice text start last = String.ofList answer := by
  have hversion : e.hasVersion = true := hall .version
  obtain ⟨k, hid⟩ := Option.isSome_iff_exists.mp (hall .id)
  obtain ⟨⟨start, last⟩, hresult⟩ := Option.isSome_iff_exists.mp (hall .result)
  refine ⟨start, last, ?_, h.result start last hresult⟩
  simp only [Envelope.response, hversion, hid, hresult, h.error, h.method, h.params]
  rfl

end Envelope

/-- The members are read into every envelope that lacks these rows, and then it has them. -/
def FillsIn (text : String) (answer : List Char) (rows : List Row) (members : Members) : Prop :=
  ∀ (depth : Nat) (e : Envelope), e.Keeps text answer → (∀ row ∈ rows, e.has row = false) →
    ∃ e' stop, readEnvelope depth e members = .ok (e', stop) ∧ e'.Keeps text answer ∧
      ∀ row, e'.has row = (e.has row || rows.contains row)

theorem fillsIn_close (text : String) (answer : List Char) (stop : Nat) :
    FillsIn text answer [] (.close stop) :=
  fun _ e hkeeps _ => ⟨e, stop, rfl, hkeeps, by simp⟩

theorem FillsIn.member {text : String} {answer : List Char} {rows : List Row} {rest : Members}
    (h : FillsIn text answer rows rest) {row : Row} (hnew : row ∉ rows) {d : Doc}
    (hd : row.Fits text answer d) (lead place after : Nat) :
    FillsIn text answer (row :: rows)
      (.member lead ⟨place, row.name.toList.map .plain, .closed⟩ after d rest) := by
  intro depth e hkeeps hlacks
  obtain ⟨hlack, hlacks⟩ := List.forall_mem_cons.mp hlacks
  obtain ⟨e₁, hmember, hkeeps₁, hhas₁⟩ := hkeeps.member hd depth
  have hlacks₁ : ∀ r ∈ rows, e₁.has r = false := by
    intro r hr
    have hne : r ≠ row := fun heq => hnew (heq ▸ hr)
    rw [hhas₁, hlacks r hr, Bool.false_or, beq_eq_false_iff_ne]
    exact hne
  obtain ⟨e', stop, hread, hkeeps', hhas⟩ := h depth e₁ hkeeps₁ hlacks₁
  refine ⟨e', stop, ?_, hkeeps', fun r => ?_⟩
  · simp only [readEnvelope, memberName_plain, bind, Except.bind,
      Envelope.memberComplaint_row hlack, hmember, Except.mapError]
    exact hread
  · rw [hhas, hhas₁, List.contains_cons, Bool.or_assoc]

section Reading

variable {text : String} {answer : List Char} {v : Written}

theorem plain_version : Plain "2.0".toList := by decide

theorem Row.Writes.spells {row : Row} {cs : List Char} (h : row.Writes answer cs)
    (value : Spells answer (.value v)) : ∃ w, Spells cs (.value w) := by
  cases h with
  | version => exact ⟨_, .string plain_version.spellsString⟩
  | id natural => exact ⟨_, natural⟩
  | result => exact ⟨_, value⟩

/-- The members of a response are members of an object. -/
theorem WritesRows.spells {first : Bool} {ds : List Char} {rows : List Row}
    (h : WritesRows answer first ds rows) (value : Spells answer (.value v)) :
    ∃ ms, Spells ds (.members first ms) := by
  induction h with
  | close blank => exact ⟨[], .noMembers blank⟩
  | @row _ _ _ _ _ _ row _ separates before after writes _ ih =>
    obtain ⟨w, hw⟩ := writes.spells value
    obtain ⟨ms, hms⟩ := ih
    exact ⟨_, .member separates row.plain_name.spellsString before after hw hms⟩

/-- The value of a member is scanned as what the reader takes for it. -/
theorem Row.Writes.scans {row : Row} {cs : List Char} (h : row.Writes answer cs)
    (value : Spells answer (.value v)) {fuel i : Nat} {r : List Char}
    (hfuel : 3 * cs.length ≤ fuel) (hr : EndsNumber r)
    (hfront : Cursor.Reaches ⟨0, text.toList⟩ ⟨i, cs ++ r⟩) :
    ∃ d j, scanDoc fuel ⟨i, cs ++ r⟩ = (d, some ⟨j, r⟩) ∧ row.Fits text answer d := by
  cases h with
  | version =>
    obtain ⟨fuel, rfl, -⟩ := exists_succ_of_fuel hfuel
    rw [inQuotes, List.cons_append, scanDoc, skipSpace_solid (by decide)]
    simp only [stringDoc, plain_version.spellsPieces.scan_at]
    exact ⟨_, _, rfl, readPlain_plain "2.0" _ _ _⟩
  | id natural =>
    obtain ⟨d, j, hscan, hholds⟩ := natural.scans fuel i r hfuel hr
    exact ⟨d, j, hscan, _, Doc.readNatural_of_shows hholds⟩
  | result =>
    obtain ⟨d, j, hscan, hholds, hslice⟩ := slice_of_spells value hfuel hr hfront
    exact ⟨d, j, hscan, Doc.skip_of_holds hholds, hslice⟩

theorem WritesRows.fillsIn {first : Bool} {ds : List Char} {rows : List Row}
    (h : WritesRows answer first ds rows) (value : Spells answer (.value v)) (hrows : rows.Nodup)
    {fuel i : Nat} {r : List Char} (hfuel : 3 * ds.length ≤ fuel)
    (hfront : Cursor.Reaches ⟨0, text.toList⟩ ⟨i, ds ++ r⟩) :
    ∃ members j, scanMembers fuel first ⟨i, ds ++ r⟩ = (members, some ⟨j, r⟩) ∧
      FillsIn text answer rows members := by
  induction h generalizing fuel i with
  | @close first b blank =>
    rw [List.length_append] at hfuel
    obtain ⟨fuel, rfl, -⟩ := exists_succ_of_fuel hfuel
    rw [List.append_assoc, List.singleton_append, scanMembers_close first blank]
    exact ⟨_, _, rfl, fillsIn_close text answer _⟩
  | @row first sep b c cs ds row rows separates before after writes rest ih =>
    -- the value is scanned where its key ends, and the rest of the members where the value ends
    obtain ⟨hnew, hrest⟩ := List.nodup_cons.mp hrows
    obtain ⟨ms, hms⟩ := rest.spells value
    have hpos := hms.length_pos
    have htext : sep ++ (inQuotes row.name ++ (b ++ ':' :: (c ++ (cs ++ ds)))) ++ r =
        sep ++ '"' :: (row.name.toList ++ ['"'] ++ (b ++ ':' :: (c ++ (cs ++ (ds ++ r))))) := by
      simp [inQuotes]
    rw [htext] at hfront ⊢
    simp only [List.length_append, inQuotes, List.length_cons] at hfuel
    obtain ⟨fuel, rfl⟩ : ∃ f, fuel = f + 3 := ⟨fuel - 3, by omega⟩
    have hfirst : 3 * cs.length ≤ fuel + 1 := by omega
    have hleft : 3 * ds.length ≤ fuel + 1 := by omega
    have hvalue := hfront.trans (b := ⟨i, _⟩) (c := ⟨_, cs ++ (ds ++ r)⟩)
      ⟨sep ++ '"' :: (row.name.toList ++ ['"'] ++ (b ++ ':' :: c)), by simp, rfl⟩
    obtain ⟨d, j, hd, hfits⟩ := writes.scans value hfirst (hms.members_endsNumber r) hvalue
    have hnext := hvalue.trans ((scannerStops _).doc _ _ _ hd).1
    obtain ⟨members, k, hmembers, hfills⟩ := ih hrest hleft hnext
    obtain ⟨lead, place, hkey⟩ := scanMembers_key separates row.plain_name.spellsPieces before
      after fuel i (cs ++ (ds ++ r))
    have hscan := hkey _ _ hd
    rw [hmembers] at hscan
    exact ⟨_, k, hscan, hfills.member hnew hfits _ _ _⟩

/-- A response is read as the place of its result. -/
theorem Responds.read {body : String} (h : Responds answer body.toList)
    (value : Spells answer (.value v)) :
    ∃ start stop, Json.readText readResponse body = .ok (.success start stop) ∧
      slice body start stop = String.ofList answer := by
  generalize hbody : body.toList = text at h
  cases h with
  | @object before cs after rows hbefore hafter hmembers horder =>
    have hnodup : rows.Nodup := horder.nodup_iff.mpr (by decide)
    have hmem (row : Row) : rows.contains row = true := by
      rw [List.contains_iff_mem, horder.mem_iff]
      cases row <;> decide
    have hfront : Cursor.Reaches ⟨0, body.toList⟩ ⟨0 + before.length + 1, cs ++ after⟩ := by
      rw [hbody]
      refine .trans ⟨before, rfl, ?_⟩ (.step (x := '\x7b') rfl (0 + before.length) _)
      rw [hbefore.byteLength_eq]
    have hfuel : 3 * cs.length ≤ 3 * (before ++ '\x7b' :: (cs ++ after)).length + 2 := by
      simp only [List.length_append, List.length_cons]
      omega
    obtain ⟨members, j, hscan, hfills⟩ := hmembers.fillsIn value hnodup hfuel hfront
    obtain ⟨e, stop, hread, hkeeps, hhas⟩ := hfills 126 ⟨false, none, none, none, false, false⟩
      ⟨rfl, rfl, rfl, by simp⟩ (by rintro (_ | _ | _) - <;> rfl)
    have hall (row : Row) : e.has row = true := by rw [hhas, hmem, Bool.or_true]
    obtain ⟨start, last, hresponse, hslice⟩ := hkeeps.response hall stop
    refine ⟨start, last, readText_eq_ok_iff.mpr ⟨.object members (0 + before.length), ?_, ?_⟩,
      hslice⟩
    · rw [Source.ofText, hbody, Source.ofChars, scanDoc_append hbefore, scanDoc,
        skipSpace_solid (by decide)]
      simp only [hscan, hafter.skipSpace j]
      rfl
    · simp only [readResponse, depthLimit, Doc.enter, hread, bind, Except.bind, hresponse]

/-- From a response the result is read by every reader that reads it from its trees. -/
theorem Responds.decodeBody {body : String} (h : Responds answer body.toList)
    (value : Spells answer (.value v)) {α : Type}
    {reader : (depth : Nat) → Doc → Except Complaint α} {a : α}
    (hreader : ∀ d : Doc, d.Holds v → reader depthLimit d = .ok a) :
    Rpc.decodeBody reader body = .ok a := by
  obtain ⟨start, stop, hresponse, hslice⟩ := h.read value
  obtain ⟨d, hsource, hholds⟩ := value.source blank_nil blank_nil
  rw [List.nil_append, List.append_nil] at hsource
  have hresult : Json.readText reader (slice body start stop) = .ok a := by
    rw [hslice]
    refine readText_eq_ok_iff.mpr ⟨d, ?_, hreader d hholds⟩
    rw [Source.ofText, String.toList_ofList, hsource]
  simp only [Rpc.decodeBody, hresponse, hresult]
  rfl

end Reading

end Rpc

end Devnet
