import EnumCodec.Proofs.Conversion.Resolved
import EnumCodec.Proofs.Converter.PythonRunning
import Mathlib.Data.List.Find

/-!
# EnumCodec.Proofs.Converter.RoundTrip

**Encoding and decoding again.** The converter of a resolved conversion encodes each member as the text
that it stands for. With regard to case it decodes that text to the first member that stands for it.
Without regard to case it decodes every spelling of the text to the member, exactly if lowering the
escaped literals of the members is lowering what they spell.
-/

namespace EnumCodec.PythonConverter

open Reading

variable {providers : List LabelProvider} {declarations : ModuleDeclarations}
  {declaration : EnumDeclaration} {conversion : Conversion} {layout : Layout}

/-! ### Decoding by the first match -/

section

variable {α : Type} {name raw : α → String} {members : List α}

theorem find?_of_nodup (distinct : (members.map name).Nodup) {member : α} (h : member ∈ members) :
    members.find? (name · = name member) = some member := by
  induction members with
  | nil => cases h
  | cons first members ih =>
      obtain ⟨fresh, others⟩ := List.nodup_cons.1 distinct
      rw [List.find?_cons]
      rcases List.mem_cons.1 h with rfl | h
      · rw [decide_eq_true rfl]
      · have other : name first ≠ name member := fun same =>
          fresh (same ▸ List.mem_map_of_mem h)
        rw [decide_eq_false other]
        exact ih others h

/-- A search for what a member has ends at the first member that has it. -/
theorem find?_of_mem (raw : α → String) {member : α} (h : member ∈ members) :
    ∃ before first after, members = before ++ first :: after ∧ raw first = raw member ∧
      (∀ other ∈ before, raw other ≠ raw member) ∧
      members.find? (raw · = raw member) = some first := by
  have isSome : (members.find? (raw · = raw member)).isSome := by
    rw [List.find?_isSome]
    exact ⟨member, h, decide_eq_true rfl⟩
  obtain ⟨first, found⟩ := Option.isSome_iff_exists.1 isSome
  obtain ⟨same, before, after, split, earlier⟩ := List.find?_eq_some_iff_append.1 found
  exact ⟨before, first, after, split, of_decide_eq_true same,
    fun other ho => by simpa using earlier other ho, found⟩

/-- A search for what no member has finds nothing. -/
theorem find?_of_forall_ne {value : String} (h : ∀ member ∈ members, raw member ≠ value) :
    members.find? (raw · = value) = none :=
  List.find?_eq_none.2 fun member hm => by simpa using h member hm

variable {literal : α → String} {encode decode : String → Except Refusal String}

/-- If all literals are right, the search finds every member by the lowercase form of its text. -/
theorem find?_literal_eq (literals : ∀ member ∈ members, literal member = Text.lowercase (raw member))
    (value : String) :
    members.find? (literal · = value) =
      members.find? fun member => Text.lowercase (raw member) = value :=
  List.find?_congr fun member hm => by rw [literals member hm]

/-- Decoding by literals is right without regard to case, exactly if each literal is the lowercase form
of the text of its member. -/
theorem decode_insensitive_iff (distinct : (members.map name).Nodup)
    (lowered : (members.map fun member => Text.lowercase (raw member)).Nodup)
    (encoded : ∀ member ∈ members, encode (name member) = .ok (raw member))
    (decoded : ∀ input, decode input =
      resultOf name (members.find? (literal · = Text.lowercase input))) :
    ((∀ member ∈ members, ∀ input, Text.lowercase input = Text.lowercase (raw member) →
        decode input = .ok (name member)) ∧
      (∀ member ∈ members, (encode (name member)).bind decode = .ok (name member)) ∧
      (∀ input, (∀ member ∈ members, Text.lowercase input ≠ Text.lowercase (raw member)) →
        decode input = .error .valueError)) ↔
      ∀ member ∈ members, literal member = Text.lowercase (raw member) := by
  refine ⟨fun law member hm => ?_, fun literals => ?_⟩
  · -- the text itself is decoded by the branch of its member and by no other one
    have result := law.1 member hm (raw member) rfl
    rw [decoded] at result
    cases found : members.find? (literal · = Text.lowercase (raw member)) with
    | none =>
        rw [found] at result
        cases result
    | some other =>
        rw [found] at result
        have named : name other = name member := Except.ok.inj result
        have here := find?_of_nodup distinct (List.mem_of_find?_eq_some found)
        rw [named, find?_of_nodup distinct hm] at here
        obtain rfl := Option.some.inj here
        simpa using List.find?_some found
  · have spelled : ∀ member ∈ members, ∀ input,
        Text.lowercase input = Text.lowercase (raw member) → decode input = .ok (name member) := by
      intro member hm input same
      rw [decoded, same, find?_literal_eq literals, find?_of_nodup lowered hm]
      rfl
    refine ⟨spelled, fun member hm => ?_, fun input other => ?_⟩
    · rw [encoded member hm]
      exact spelled member hm (raw member) rfl
    · rw [decoded, find?_literal_eq literals,
        find?_of_forall_ne fun member hm => (other member hm).symm]
      rfl

end

/-! ### What the methods give -/

/-- The literal of a branch that compares the lowered text stands for the lowercase form of the escaped
text, read back. -/
def loweredLiteral (text : String) : String :=
  String.ofList (Text.lowercaseEscapedAfter [] text.toList)

theorem meaning?_lowercase_escape (text : String) :
    meaning? (Text.lowercase (Text.escape text)) = some (loweredLiteral text) := by
  rw [meaning?, Text.lowercase, String.toList_ofList, Text.toList_escape, Text.lowercaseChars,
    (Text.Spells.lowercaseAfter [] text.toList).bodyText_eq]
  rfl

/-- Lowering before and after escaping agree unless an escape deceives a sigma. -/
theorem loweredLiteral_eq_iff (text : String) :
    loweredLiteral text = Text.lowercase text ↔ ¬ Text.HasFalseFinal text.toList := by
  rw [← Text.bodyText_lowercase_iff, Text.lowercaseChars,
    (Text.Spells.lowercaseAfter [] text.toList).bodyText_eq, Option.some.injEq, loweredLiteral,
    Text.lowercase, ← String.toList_inj, String.toList_ofList, String.toList_ofList]

example : loweredLiteral "\nΣ" = "\nς" ∧ Text.lowercase "\nΣ" = "\nσ" := by decide +kernel

/-! ### An enum with labels -/

/-- The description that labels a member. -/
def labelled (label : String × String) : Member where
  name := label.1
  attributes :=
    [{ name := "Description", qualifiedName := "Description", args := [.text label.2] }]

/-- An enum whose members have labels, with the markers that ask for its converter. -/
def lampEnum (caseSensitive : Bool) (labels : List (String × String)) : EnumDeclaration where
  name := "Lamp"
  members := labels.map labelled
  attributes := [
    { name := "EnumJsonConverter", qualifiedName := "EnumJsonConverter", args := [.text "Lamp"],
      keywords := [("CaseSensitive", .bool caseSensitive)] },
    { name := "JsonConverter", qualifiedName := "JsonConverter", args := [.text "LampConverter"] }]

/-- The conversion of that enum. -/
def lampConversion (caseSensitive : Bool) (labels : List (String × String)) : Conversion where
  options := { caseSensitive }
  members := labels.map fun label => ⟨label.1, some (Text.escape label.2)⟩
  target := { converterName := "LampConverter", enumFullName := "Lamp", enumName := "Lamp" }

theorem lampEnum_isWellNamed (caseSensitive : Bool) {labels : List (String × String)}
    (h : ∀ label ∈ labels, Text.IsDottedName label.1) :
    (lampEnum caseSensitive labels).IsWellNamed where
  name := show Text.IsDottedName "Lamp" by decide
  module := Or.inl rfl
  members := List.forall_mem_map.2 h
  refs := by simp [lampEnum]

/-- Labels of which two are equal. -/
def lampLabels : List (String × String) :=
  [("ON", "on\\"), ("OFF", "\"off\""), ("DIM", "on\\")]

/-! ### The round trips -/

section

variable (h : (resolve providers declarations declaration).1 = some conversion)
  (enums : ∀ enum ∈ declarations.enums, enum.IsWellNamed) (own : declaration.IsWellNamed)
  (whole : layout.IsUnbroken .python)
include h enums own whole

theorem encode_text (identifier : String) :
    encode (enumName conversion.target) (text layout conversion) identifier =
      resultOf (Member.rawText providers conversion.options)
        ((servedMembers declarations declaration).find? fun member => member.name = identifier) := by
  have names := resolve_isWellNamed h enums own
  rw [encode, readEncoding_text whole names (resolve_hasEscapedLabels h),
    resolve_visibleMembers h names]
  exact runEncode_eq Member.name (Member.rawText providers conversion.options) identifier _

theorem decode_text_of_sensitive (sensitive : conversion.options.caseSensitive = true)
    (input : String) :
    decode (enumName conversion.target) (text layout conversion) input =
      resultOf Member.name ((servedMembers declarations declaration).find? fun member =>
        member.rawText providers conversion.options = input) := by
  have names := resolve_isWellNamed h enums own
  rw [decode, readDecoding_text whole names (resolve_hasEscapedLabels h), decodeSteps,
    if_pos sensitive, resolve_visibleMembers h names, List.map_map]
  exact runDecode_eq Member.name input none .text (fun member _ => meaning?_escape _) rfl

theorem decode_text_of_insensitive (insensitive : conversion.options.caseSensitive = false)
    (input : String) :
    decode (enumName conversion.target) (text layout conversion) input =
      resultOf Member.name ((servedMembers declarations declaration).find? fun member =>
        loweredLiteral (member.rawText providers conversion.options) = Text.lowercase input) := by
  have names := resolve_isWellNamed h enums own
  rw [decode, readDecoding_text whole names (resolve_hasEscapedLabels h), decodeSteps,
    if_neg (by rw [insensitive]; decide), resolve_visibleMembers h names, List.map_map, runDecode]
  exact runDecode_eq Member.name input (some (Text.lowercase input)) .key
    (fun member _ => meaning?_lowercase_escape _) rfl

/-- **Encoding gives the text of the member.** -/
theorem encode_member (distinct : ((servedMembers declarations declaration).map Member.name).Nodup)
    {member : Member} (hm : member ∈ servedMembers declarations declaration) :
    encode (enumName conversion.target) (text layout conversion) member.name =
      .ok (member.rawText providers conversion.options) := by
  rw [encode_text h enums own whole, find?_of_nodup distinct hm]
  rfl

end

end EnumCodec.PythonConverter
