import Devnet.Proofs.Rpc.QuantityReading
import Devnet.Rpc.Record
import Devnet.Rpc.Request

namespace Devnet.Rpc

open Json (Complaint Doc Prints Collects RecordShape)
open Text (SpellsHex)

/-- What a request of a method with parameters of one kind says. -/
structure Received (α : Type) where
  method : String
  params : List α

def receivedShape {α : Type} (reader : (depth : Nat) → Doc → Except Complaint α) :
    RecordShape (Collected (Received α)) (Received α) :=
  shapeOf "Request" ["jsonrpc", "id", "method", "params"]
    [checked "jsonrpc" readText, checked "id" fun _ d => d.readNatural,
      stored "method" readText fun v r => { r with method := v },
      stored "params" (readList reader) fun v r => { r with params := v }]
    ⟨"", []⟩

/-- A draft as its members tell it. -/
def draftShape : RecordShape (Collected Draft) Draft :=
  shapeOf "TransactionRequest" ["from", "to", "value"]
    [checked "type" readWord64,
      stored "from" readAddress fun v r => { r with intent.source := v },
      stored "to" readAddress fun v r => { r with intent.target := v },
      stored "gas" readWord256 fun v r => { r with gas := some v },
      stored "gasPrice" readWord256 fun v r => { r with gasPrice := some v },
      stored "value" readWord256 fun v r => { r with intent.value := v },
      stored "nonce" readWord256 fun v r => { r with nonce := some v }]
    (.ofIntent ⟨⟨0⟩, ⟨0⟩, 0⟩)

/-- The bytes that pairs of digits spell. -/
def bytesOf? : List Nat → Option (List UInt8)
  | [] => some []
  | [_] => none
  | d :: e :: ds => (bytesOf? ds).map (UInt8.ofNat (16 * d + e) :: ·)

def marked? : List Char → Option (List UInt8)
  | '0' :: 'x' :: cs => cs.mapM Text.hexValue? >>= bytesOf?
  | _ => none

/-- Bytes of any number, marked with `0x`. -/
def readRaw (_depth : Nat) (d : Doc) : Except Complaint (List UInt8) := do
  let s ← d.readString "a string"
  match marked? s.toList with
  | some bytes => return bytes
  | none => throw (d.refusal "bytes")

theorem readText_of_shows {s : String} {depth : Nat} {d : Doc} (h : d.Shows (.string s)) :
    readText depth d = .ok s := Doc.readString_of_shows h _

/-- The kind of a draft is zero. -/
theorem readType_of_shows {depth : Nat} {d : Doc} (h : d.Shows (.string "0x00")) :
    readWord64 depth d = .ok 0 := by
  have hdigits : SpellsHex ['0', '0'] [0, 0] := rfl
  rw [readWord64, readNumber,
    @readBytes_of_shows (.upTo 8) ['0', 'x'] _ _ (.inr rfl) hdigits rfl d h]
  rfl

theorem readList_of_shows {α : Type} {reader : (depth : Nat) → Doc → Except Complaint α}
    {depth : Nat} {v : Json} {a : α} (hread : ∀ d : Doc, d.Shows v → reader depth d = .ok a)
    {d : Doc} (h : d.Shows (.array [v])) : readList reader (depth + 1) d = .ok [a] := by
  obtain ⟨items, start, rfl, hitems⟩ := Doc.shows_array_iff.mp h
  obtain ⟨lead, d, rest, rfl, hd, hrest⟩ := Json.Items.shows_cons hitems
  obtain ⟨stop, rfl⟩ := Json.Items.shows_nil hrest
  simp only [readList, Doc.enter, readItems, hread d hd, Except.mapError, bind, Except.bind]
  rfl

/-- A field whose value is read stores it. -/
theorem Collects.stored {α β : Type} {fields : List (Json.FieldReader (Collected α))}
    {depth : Nat} {c t : Collected α} {name : String} {v : Json} {ms : List (String × Json)}
    {reader : (depth : Nat) → Doc → Except Complaint β} {store : β → α → α} {b : β}
    (known : Json.fieldOf? fields name = some (Rpc.stored name reader store))
    (unset : c.seen.contains name = false) (read : ∀ d : Doc, d.Shows v → reader depth d = .ok b)
    (rest : Collects fields depth ⟨name :: c.seen, store b c.value⟩ ms t) :
    Collects fields depth c ((name, v) :: ms) t :=
  .field known unset (fun d hd => congrArg (Except.map _) (read d hd)) rest

/-- A request with one parameter is read from its text. -/
theorem read_request {α : Type} {reader : (depth : Nat) → Doc → Except Complaint α} {r : Request}
    {v : Json} {a : α} (hparams : r.params? = some [v]) (hprints : Prints v)
    (hread : ∀ (depth : Nat) (d : Doc), d.Shows v → reader (depth + 1) d = .ok a) (id : UInt64) :
    Json.readText (receivedShape reader).read (r.toJson id).text = .ok ⟨r.method, [a]⟩ := by
  have hjson : r.toJson id = .object [("jsonrpc", .string "2.0"), ("id", .natural id),
      ("method", .string r.method), ("params", .array [v])] := by
    rw [Request.toJson, hparams]
    rfl
  have hcollects (depth : Nat) : Collects (receivedShape reader).fields (depth + 2)
      (receivedShape reader).empty [("jsonrpc", .string "2.0"), ("id", .natural id),
        ("method", .string r.method), ("params", .array [v])]
      ⟨["params", "method", "id", "jsonrpc"], r.method, [a]⟩ := by
    refine Collects.stored rfl rfl (fun d hd => readText_of_shows hd) ?_
    refine Collects.stored rfl rfl (fun d hd => Doc.readNatural_of_shows hd) ?_
    refine Collects.stored rfl rfl (fun d hd => readText_of_shows hd) ?_
    refine Collects.stored rfl rfl (fun d hd => readList_of_shows (hread depth) hd) ?_
    exact .done _
  rw [hjson]
  refine Json.readText_of_prints (Json.prints_object ?_) fun d h => ?_
  · simpa using ⟨Json.prints_string "2.0", Json.prints_natural id, Json.prints_string r.method,
      Json.prints_array (by simpa using hprints)⟩
  · exact (hcollects 124).readRecord rfl h

theorem prints_quantity (n : Nat) : Prints (quantity n) := Json.prints_string _

/-- The node reads the whole draft that it is to submit. -/
theorem read_sendTransaction (intent : TransferIntent) (gasPrice gas : Word256) (id : UInt64) :
    let draft := { Draft.ofIntent intent with gasPrice := some gasPrice, gas := some gas }
    Json.readText (receivedShape draftShape.read).read
      ((Request.sendTransaction draft).toJson id).text = .ok ⟨"eth_sendTransaction", [draft]⟩ := by
  intro draft
  have hjson : draft.toJson = .object [("type", .string "0x00"),
      ("from", .string intent.source.text), ("to", .string intent.target.text),
      ("gas", quantity gas.toNat), ("gasPrice", quantity gasPrice.toNat),
      ("value", quantity intent.value.toNat)] := rfl
  have hcollects (depth : Nat) : Collects draftShape.fields depth draftShape.empty
      [("type", .string "0x00"), ("from", .string intent.source.text),
        ("to", .string intent.target.text), ("gas", quantity gas.toNat),
        ("gasPrice", quantity gasPrice.toNat), ("value", quantity intent.value.toNat)]
      ⟨["value", "gasPrice", "gas", "to", "from", "type"], draft⟩ := by
    refine Collects.stored rfl rfl (fun d hd => readType_of_shows hd) ?_
    refine Collects.stored rfl rfl (fun d hd => readAddress_of_shows _ hd) ?_
    refine Collects.stored rfl rfl (fun d hd => readAddress_of_shows _ hd) ?_
    refine Collects.stored rfl rfl (fun d hd => readWord256_of_shows _ hd) ?_
    refine Collects.stored rfl rfl (fun d hd => readWord256_of_shows _ hd) ?_
    refine Collects.stored rfl rfl (fun d hd => readWord256_of_shows _ hd) ?_
    exact .done _
  have hread (depth : Nat) (d : Doc) (h : d.Shows draft.toJson) :
      draftShape.read (depth + 1) d = .ok draft := by
    rw [hjson] at h
    exact (hcollects depth).readRecord rfl h
  refine read_request rfl ?_ hread id
  rw [hjson]
  apply Json.prints_object
  simp [Json.prints_string, prints_quantity]

theorem spellsHex_hexBytes (bytes : List UInt8) :
    ∃ ds, SpellsHex (Text.hexBytes bytes) ds ∧ bytesOf? ds = some bytes := by
  induction bytes with
  | nil => exact ⟨[], rfl, rfl⟩
  | cons b bytes ih =>
    obtain ⟨ds, hdigits, hvalue⟩ := ih
    have hlt : b.toNat < 256 := b.toNat_lt
    have hhigh := Text.hexValue_digitChar (Nat.mod_lt (b.toNat / 16) (by decide : 0 < 16))
    have hlow := Text.hexValue_digitChar (Nat.mod_lt b.toNat (by decide : 0 < 16))
    have hbyte : UInt8.ofNat (16 * (b.toNat / 16 % 16) + b.toNat % 16) = b := by
      rw [show 16 * (b.toNat / 16 % 16) + b.toNat % 16 = b.toNat by omega, UInt8.ofNat_toNat]
    refine ⟨b.toNat / 16 % 16 :: b.toNat % 16 :: ds, ?_, ?_⟩
    · rw [SpellsHex] at hdigits ⊢
      change ((Text.hexFixed 2 b.toNat) ++ Text.hexBytes bytes).mapM Text.hexValue? = _
      simp [Text.hexFixed, hhigh, hlow, hdigits]
    · rw [bytesOf?, hvalue, hbyte]
      rfl

/-- Bytes are read back from every tree that shows their text. -/
theorem readRaw_of_shows (bytes : List UInt8) {depth : Nat} {d : Doc}
    (h : d.Shows (.string (String.ofList ('0' :: 'x' :: Text.hexBytes bytes)))) :
    readRaw depth d = .ok bytes := by
  obtain ⟨ds, hdigits, hvalue⟩ := spellsHex_hexBytes bytes
  rw [SpellsHex] at hdigits
  have hmarked : marked? ('0' :: 'x' :: Text.hexBytes bytes) = some bytes := by
    rw [marked?, hdigits]
    exact hvalue
  simp only [readRaw, Doc.readString_of_shows h, bind, Except.bind, String.toList_ofList, hmarked]
  rfl

/-- The node reads the bytes that are submitted. -/
theorem read_sendRawTransaction (bytes : List UInt8) (id : UInt64) :
    Json.readText (receivedShape readRaw).read
      ((Request.sendRawTransaction bytes).toJson id).text =
        .ok ⟨"eth_sendRawTransaction", [bytes]⟩ :=
  read_request rfl (Json.prints_string _) (fun _ _ h => readRaw_of_shows bytes h) id

end Devnet.Rpc
