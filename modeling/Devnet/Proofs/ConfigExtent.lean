import Devnet.Proofs.ConfigResolution
import Devnet.Proofs.Json.Continuation

namespace Devnet

open Json (AcceptsWhole Blank Complaint Doc Items Members)

namespace AccountSource

theorem readMembers_moved {depth : Nat} {tag : Option Kind} {members : Members}
    {r : Kind × List (String × Json)} (h : readMembers depth tag members = .ok r) :
    members.Whole ∧ ∀ n, readMembers depth tag (members.moved n) = .ok r := by
  cases members with
  | close =>
    cases tag with
    | none => cases h
    | some kind => exact ⟨trivial, fun _ => h⟩
  | broken => cases tag <;> cases h
  | stray => cases tag <;> cases h
  | keyOnly lead key after b =>
    rw [readMembers] at h
    obtain ⟨name, -, h⟩ := bind_eq_ok_iff.mp h
    split at h <;> contradiction
  | member lead key after d rest =>
    rw [readMembers] at h
    obtain ⟨name, hname, h⟩ := bind_eq_ok_iff.mp h
    obtain ⟨hkey, hkeymoved⟩ := Json.StringLiteral.text_moved hname
    by_cases htag : name = tagName
    · rw [if_pos htag] at h
      by_cases hset : tag.isSome
      · rw [if_pos hset] at h
        contradiction
      · rw [if_neg hset] at h
        obtain ⟨kind, hkind, h⟩ := bind_eq_ok_iff.mp h
        obtain ⟨hd, hdmoved⟩ := Doc.readVariant_acceptsWhole Kind.variants d kind hkind
        obtain ⟨hrest, hrestmoved⟩ := readMembers_moved h
        refine ⟨⟨hkey, hd, hrest⟩, fun n => ?_⟩
        rw [Members.moved, readMembers]
        refine bind_eq_ok_iff.mpr ⟨name, hkeymoved n, ?_⟩
        rw [if_pos htag, if_neg hset]
        exact bind_eq_ok_iff.mpr ⟨kind, hdmoved n, hrestmoved n⟩
    · rw [if_neg htag] at h
      obtain ⟨v, hv, h⟩ := bind_eq_ok_iff.mp h
      obtain ⟨s, hs, h⟩ := bind_eq_ok_iff.mp h
      obtain ⟨hd, hdmoved⟩ := Doc.read_acceptsWhole depth d v hv
      obtain ⟨hrest, hrestmoved⟩ := readMembers_moved hs
      refine ⟨⟨hkey, hd, hrest⟩, fun n => ?_⟩
      rw [Members.moved, readMembers]
      refine bind_eq_ok_iff.mpr ⟨name, hkeymoved n, ?_⟩
      rw [if_neg htag]
      exact bind_eq_ok_iff.mpr ⟨v, hdmoved n, bind_eq_ok_iff.mpr ⟨s, hrestmoved n, h⟩⟩

theorem readItems_moved {depth : Nat} {items : Items} {r : Kind × List Json}
    (h : readItems depth items = .ok r) :
    items.Whole ∧ ∀ n, readItems depth (items.moved n) = .ok r := by
  match items, h with
  | .item _ d rest, h =>
    rw [readItems] at h
    obtain ⟨kind, hkind, h⟩ := bind_eq_ok_iff.mp h
    obtain ⟨vs, hvs, h⟩ := bind_eq_ok_iff.mp h
    obtain ⟨hd, hdmoved⟩ := Doc.readVariant_acceptsWhole Kind.variants d kind hkind
    obtain ⟨hrest, hrestmoved⟩ := Items.read_moved hvs
    refine ⟨⟨hd, hrest⟩, fun n => ?_⟩
    rw [Items.moved, readItems]
    exact bind_eq_ok_iff.mpr ⟨kind, hdmoved n, bind_eq_ok_iff.mpr ⟨vs, hrestmoved n, h⟩⟩

theorem read_acceptsWhole (depth : Nat) : AcceptsWhole (AccountSource.read depth) := by
  intro d a h
  match d, h with
  | .object members _, h =>
    obtain ⟨k, rfl, h⟩ := Json.Doc.enter_eq_ok_iff.mp h
    obtain ⟨⟨kind, ms⟩, hms, h⟩ := bind_eq_ok_iff.mp h
    obtain ⟨hwhole, hmoved⟩ := readMembers_moved hms
    refine ⟨hwhole, fun n => ?_⟩
    rw [Doc.moved, AccountSource.read]
    exact bind_eq_ok_iff.mpr ⟨(kind, ms), hmoved n, h⟩
  | .array items _, h =>
    obtain ⟨k, rfl, h⟩ := Json.Doc.enter_eq_ok_iff.mp h
    obtain ⟨⟨kind, vs⟩, hvs, h⟩ := bind_eq_ok_iff.mp h
    obtain ⟨hwhole, hmoved⟩ := readItems_moved hvs
    refine ⟨hwhole, fun n => ?_⟩
    rw [Doc.moved, AccountSource.read]
    exact bind_eq_ok_iff.mpr ⟨(kind, vs), hmoved n, h⟩

end AccountSource

namespace NetworkEntry

theorem read_acceptsWhole (depth : Nat) : AcceptsWhole (NetworkEntry.read depth) := by
  apply Json.RecordShape.read_acceptsWhole
  intro f hf depth s
  simp only [shape, List.mem_cons, List.not_mem_nil, or_false] at hf
  rcases hf with rfl | rfl | rfl
  · exact Doc.readNatural_acceptsWhole.map _
  · exact (Doc.readString_acceptsWhole _).map _
  · exact (AccountSource.read_acceptsWhole depth).map _

end NetworkEntry

namespace FixtureTexts

theorem read_acceptsWhole (depth : Nat) : AcceptsWhole (FixtureTexts.read depth) := by
  apply Json.RecordShape.read_acceptsWhole
  intro f hf depth s
  simp only [shape, List.mem_cons, List.not_mem_nil, or_false] at hf
  rcases hf with rfl | rfl <;> exact (Doc.readString_acceptsWhole _).map _

end FixtureTexts

namespace Config

theorem readNetworks_acceptsWhole (depth : Nat) : AcceptsWhole (readNetworks depth) := by
  intro d t h
  match d, h with
  | .object members _, h =>
    obtain ⟨k, rfl, h⟩ := Json.Doc.enter_eq_ok_iff.mp h
    obtain ⟨hwhole, hmoved⟩ := Members.readTable_moved (NetworkEntry.read_acceptsWhole k) h
    refine ⟨hwhole, fun n => ?_⟩
    rw [Doc.moved, readNetworks]
    exact hmoved n

theorem read_acceptsWhole (depth : Nat) : AcceptsWhole (shape.read depth) := by
  apply Json.RecordShape.read_acceptsWhole
  intro f hf depth s
  simp only [shape, List.mem_cons, List.not_mem_nil, or_false] at hf
  rcases hf with rfl | rfl | rfl | rfl
  · exact (readNetworks_acceptsWhole depth).map _
  · exact (FixtureTexts.read_acceptsWhole depth).map _
  · exact Doc.readNatural_acceptsWhole.map _
  · exact Doc.readNatural_acceptsWhole.map _

/-- Numbers are no configurations, so that the end of one always shows. -/
theorem endsItself_of_read {depth : Nat} {d : Doc} {c : Config} (h : shape.read depth d = .ok c) :
    d.EndsItself := by
  cases d with
  | number => cases h
  | _ => trivial

/-- Nothing but spaces, tabs, line feeds and carriage returns. -/
def Padding (s : String) : Prop := ∀ x ∈ s.toList, x ∈ [' ', '\t', '\n', '\r']

theorem padding_iff {s : String} : Padding s ↔ Blank s.toList := by
  refine forall₂_congr fun x _ => ?_
  simp only [Json.isSpace, Bool.or_eq_true, decide_eq_true_eq, List.mem_cons, List.not_mem_nil,
    or_false]
  tauto

theorem decode_padded {raw before after : String} {c : Config} (h : decode raw = .ok c)
    (hbefore : Padding before) (hafter : Padding after) :
    decode (before ++ (raw ++ after)) = .ok c :=
  Json.readText_between_blanks (read_acceptsWhole _) (fun _ _ => endsItself_of_read) h
    (padding_iff.mp hbefore) (padding_iff.mp hafter)

theorem padding_of_decode {raw tail : String} {c e : Config} (h : decode raw = .ok c)
    (hmore : decode (raw ++ tail) = .ok e) : Padding tail :=
  padding_iff.mpr
    (Json.blank_of_readText (read_acceptsWhole _) (fun _ _ => endsItself_of_read) h hmore)

theorem malformed_of_not_decoded {raw : String} (h : ∀ c, decode raw ≠ .ok c) :
    ∃ detail, parse raw = .error (.configMalformed detail) := by
  cases hdecode : decode raw with
  | error detail => exact ⟨detail, parse_of_decode_error hdecode⟩
  | ok c => exact absurd hdecode (h c)

/-- A text that is parsed is malformed when it is cut before its last character that is no blank,
and when it is continued by anything but blanks; with blanks around it, it is parsed alike. -/
theorem parse_extent {raw : String} {c : Config} (h : parse raw = .ok c) :
    (∀ start rest : String, raw = start ++ rest → ¬ Padding rest →
      ∃ detail, parse start = .error (.configMalformed detail)) ∧
    (∀ tail : String, ¬ Padding tail →
      ∃ detail, parse (raw ++ tail) = .error (.configMalformed detail)) ∧
    ∀ before after : String, Padding before → Padding after →
      parse (before ++ raw ++ after) = .ok c := by
  obtain ⟨hdecode, hvalid⟩ := decode_of_parse h
  refine ⟨fun start rest hraw hrest => ?_, fun tail htail => ?_,
    fun before after hbefore hafter => ?_⟩
  · refine malformed_of_not_decoded fun e he => hrest ?_
    rw [hraw] at hdecode
    exact padding_of_decode he hdecode
  · exact malformed_of_not_decoded fun e he => htail (padding_of_decode hdecode he)
  · rw [String.append_assoc, parse_of_decode_ok (decode_padded hdecode hbefore hafter), hvalid]

/-- The text of the built-in configuration, with line ends around it and with a brace too many. -/
theorem parse_extent_builtIn :
    parse builtIn.toJson.text = .ok builtIn ∧
    parse ("\n" ++ builtIn.toJson.text ++ "\r\n") = .ok builtIn ∧
    ∃ detail, parse (builtIn.toJson.text ++ "\x7d") = .error (.configMalformed detail) := by
  have hparse : parse builtIn.toJson.text = .ok builtIn := by
    rw [parse_of_decode_ok builtIn.decode_text]
    rfl
  obtain ⟨-, hcontinued, hpadded⟩ := parse_extent hparse
  refine ⟨hparse, hpadded _ _ ?_ ?_, hcontinued _ ?_⟩ <;> simp [Padding]

end Config

end Devnet
