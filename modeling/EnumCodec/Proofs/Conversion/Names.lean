import EnumCodec.Conversion.Resolution
import EnumCodec.Conversion.Wording
import EnumCodec.Proofs.Text.DottedName
import EnumCodec.Proofs.Text.LowercaseSpelling

/-!
# EnumCodec.Proofs.Conversion.Names

**The names and the texts of a conversion.** The names are dotted names and the labels are escaped, so
each visible text is the escaped form of some text: no name and no label ends the literal or the line
that it stands on.
-/

namespace EnumCodec

open Text (CodeText IsDottedName IsOptionalName PlainText isPlain)

/-- The first character of a plain text may be lowered. -/
theorem Text.PlainText.lowerFirst {text : String} (h : PlainText text) :
    PlainText (Text.lowerFirst text) := by
  unfold PlainText Text.lowerFirst at *
  rw [String.toList_ofList]
  cases split : text.toList with
  | nil => simp [lowerFirstChars]
  | cons first rest =>
      intro c hc
      rw [lowerFirstChars, List.mem_append] at hc
      rcases hc with hc | hc
      · rw [lowercaseChars, lowercaseAfter_cons, lowercaseAfter, List.append_nil] at hc
        exact isPlain_of_mem_lowerPiece (h first (split ▸ List.mem_cons_self)) hc
      · exact h c (split ▸ List.mem_cons_of_mem first hc)

/-- The text that a member stands for as it is shown, given its label and its identifier before they
are escaped. -/
def rawText (options : Options) (label : Option CodeText) (identifier : String) : String :=
  (label.map (·.shown)).getD
    (if options.camelCase then Text.lowerFirst identifier else identifier)

/-- The escaped form of what a member stands for is its visible text, because an identifier needs no
escape. -/
theorem visibleText_eq_escape {options : Options} {identifier : String} {label : Option CodeText}
    (h : PlainText identifier) :
    MemberDescriptor.visibleText options ⟨identifier, label.map CodeText.escape⟩ =
      Text.escape (rawText options label identifier) := by
  cases label with
  | some label => exact label.shown_escape
  | none =>
      simp only [MemberDescriptor.visibleText, Option.map_none, rawText, Option.getD_none]
      split
      · exact h.lowerFirst.escape_eq.symm
      · exact h.escape_eq.symm

namespace Conversion

/-- Every name in a conversion is a dotted name. The namespace of the converter, the module of the
enum and the name of the enum in it may be missing. -/
structure IsWellNamed (conversion : Conversion) : Prop where
  converterName : IsDottedName conversion.target.converterName
  converterNamespace : IsOptionalName conversion.target.converterNamespace
  enumFullName : IsDottedName conversion.target.enumFullName
  enumModule : IsOptionalName conversion.target.enumModule
  enumName : IsOptionalName conversion.target.enumName
  identifiers : ∀ member ∈ conversion.members, IsDottedName member.identifier

/-- Every label in a conversion is shown as the escaped form of a text. -/
def HasEscapedLabels (conversion : Conversion) : Prop :=
  ∀ member ∈ conversion.members, ∀ label, member.label = some label →
    ∃ text, label.shown = Text.escape text

/-- The text of a member is the escaped form of a text. -/
theorem visibleMembers_isEscaped {conversion : Conversion}
    (identifiers : ∀ member ∈ conversion.members, IsDottedName member.identifier)
    (labels : conversion.HasEscapedLabels) {member : VisibleMember}
    (h : member ∈ conversion.visibleMembers) : ∃ text, member.text = Text.escape text := by
  obtain ⟨⟨identifier, label⟩, hm, rfl⟩ := List.mem_map.1 h
  cases label with
  | some label => exact labels _ hm label rfl
  | none =>
    have shown : MemberDescriptor.visibleText conversion.options
        ⟨identifier, (none : Option CodeText).map CodeText.escape⟩ =
          Text.escape (rawText conversion.options none identifier) :=
      visibleText_eq_escape (identifiers _ hm).plain
    exact ⟨_, shown⟩

/-- **What is shown is plain or escaped.** -/
theorem visibleMembers_spec {conversion : Conversion} (names : conversion.IsWellNamed)
    (labels : conversion.HasEscapedLabels) {member : VisibleMember}
    (h : member ∈ conversion.visibleMembers) :
    PlainText member.identifier ∧ ∃ text, member.text = Text.escape text := by
  refine ⟨?_, visibleMembers_isEscaped names.identifiers labels h⟩
  obtain ⟨declared, hm, rfl⟩ := List.mem_map.1 h
  exact (names.identifiers declared hm).plain

end Conversion

/-! ### Conversions of declarations -/

/-- The names of an enum and of its members are dotted names, and so are the types that its attributes
refer to. A module may be without a name. -/
structure EnumDeclaration.IsWellNamed (enum : EnumDeclaration) : Prop where
  name : IsDottedName enum.name
  module : IsOptionalName enum.module
  members : ∀ member ∈ enum.members, IsDottedName member.name
  refs : ∀ marker ∈ enum.attributes, ∀ ref, Value.ref ref ∈ marker.args → ref.name ≠ "" →
    IsDottedName ref.name ∧ IsOptionalName ref.namespacePath

theorem EnumDeclaration.IsWellNamed.fullName {enum : EnumDeclaration} (h : enum.IsWellNamed) :
    IsDottedName enum.fullName := by
  unfold EnumDeclaration.fullName
  split
  · exact h.name
  · rename_i named
    exact (h.module.resolve_left named).join h.name

/-- The type that a text names has a dotted name. -/
theorem converterType?_isDottedName {value : Value} {converter : TypeRef}
    (refs : ∀ ref, value = .ref ref → ref.name ≠ "" →
      IsDottedName ref.name ∧ IsOptionalName ref.namespacePath)
    (h : converterType? value = some converter) :
    IsDottedName converter.name ∧ IsOptionalName converter.namespacePath := by
  unfold converterType? at h
  split at h
  · rename_i ref
    split at h
    · cases h
    · rename_i named
      obtain rfl := Option.some.inj h
      exact refs ref rfl named
  · rename_i text
    simp only at h
    split at h
    · rename_i identifiers
      obtain rfl := Option.some.inj h
      generalize hparts : Text.splitDots (Text.trimBlank text.toList) = parts at identifiers
      have dotted : ∀ piece ∈ parts.map String.ofList, IsDottedName piece := by
        intro piece hp
        obtain ⟨part, hpart, rfl⟩ := List.mem_map.1 hp
        exact Text.isDottedName_of_isIdentifier (List.all_eq_true.1 identifiers part hpart)
      have nonempty : parts.map String.ofList ≠ [] := by
        simpa [← hparts] using Text.splitDots_ne_nil _
      constructor
      · rw [List.getLastD_eq_getLast?, List.getLast?_eq_some_getLast nonempty]
        exact dotted _ (List.getLast_mem nonempty)
      · exact Text.isOptionalName_joinDots fun piece hp =>
          dotted piece ((List.dropLast_sublist _).subset hp)
    · cases h
  · cases h

end EnumCodec
