import EnumCodec.Proofs.Conversion.Names

/-!
# EnumCodec.Proofs.Conversion.Resolved

**What a resolved conversion says about its enum.** A conversion serves the members of one declared
enum: each of them is shown by the escaped form of the text that it stands for, and the names of the
conversion are as good as those of the declarations.
-/

namespace EnumCodec

open Text (IsDottedName)

variable {providers : List LabelProvider} {declarations : ModuleDeclarations}
  {declaration : EnumDeclaration} {conversion : Conversion}

/-- The enum and the converter that a declaration asks for. -/
def requested? (declarations : ModuleDeclarations) (declaration : EnumDeclaration) :
    Option (EnumDeclaration × TypeRef) :=
  match findMarker declaration.attributes .enumJsonConverter with
  | none => none
  | some request => (resolveTarget declarations declaration request).toOption

/-- The members that a converter serves. -/
def servedMembers (declarations : ModuleDeclarations) (declaration : EnumDeclaration) :
    List Member :=
  match requested? declarations declaration with
  | none => []
  | some (enum, _) => enum.members.filter (·.hasValue)

/-- The text that a member of an enum stands for, as it is shown. -/
def Member.rawText (providers : List LabelProvider) (options : Options) (member : Member) : String :=
  EnumCodec.rawText options (memberLabel? providers member.attributes) member.name

/-- The fields of a resolved conversion. -/
theorem resolve_spec (h : (resolve providers declarations declaration).1 = some conversion) :
    ∃ enum converter, requested? declarations declaration = some (enum, converter) ∧
      conversion.members = (servedMembers declarations declaration).map (describeMember providers) ∧
      conversion.target = {
        converterName := converter.name
        converterNamespace := converter.namespacePath
        enumFullName := enum.fullName
        enumIsPublic := declaration.isPublic
        enumModule := enum.module
        enumName := enum.name } := by
  unfold resolve at h
  split at h
  · cases h
  · rename_i request found
    split at h
    · cases h
    · rename_i enum converter target
      obtain rfl := Option.some.inj h
      have asked : requested? declarations declaration = some (enum, converter) := by
        simp [requested?, found, target, Except.toOption]
      exact ⟨enum, converter, asked, by simp [servedMembers, asked], rfl⟩

theorem resolve_members (h : (resolve providers declarations declaration).1 = some conversion) :
    conversion.members =
      (servedMembers declarations declaration).map (describeMember providers) := by
  obtain ⟨-, -, -, members, -⟩ := resolve_spec h
  exact members

/-- The enum is declared, and the converter is what a marker of the declaration names. -/
theorem requested?_spec {enum : EnumDeclaration} {converter : TypeRef}
    (h : requested? declarations declaration = some (enum, converter)) :
    enum ∈ declarations.enums ∧ ∃ marker ∈ declaration.attributes, ∃ value ∈ marker.args,
      converterType? value = some converter := by
  unfold requested? at h
  split at h
  · cases h
  · rename_i request _
    simp only [resolveTarget, bind, Except.bind] at h
    split at h
    · cases h
    split at h
    rotate_left
    · cases h
    rename_i found declared
    split at h
    rotate_left
    · cases h
    rename_i value argument
    split at h
    rotate_left
    · cases h
    rename_i type named
    obtain ⟨rfl, rfl⟩ := Prod.mk.inj (Option.some.inj h)
    obtain ⟨marker, hmarker, args⟩ := Option.map_eq_some_iff.1 argument
    exact ⟨List.mem_of_find?_eq_some declared, marker, List.mem_of_find?_eq_some hmarker, value,
      args ▸ List.mem_singleton_self value, named⟩

/-- **Well-named declarations have well-named conversions.** -/
theorem resolve_isWellNamed (h : (resolve providers declarations declaration).1 = some conversion)
    (enums : ∀ enum ∈ declarations.enums, enum.IsWellNamed) (own : declaration.IsWellNamed) :
    conversion.IsWellNamed := by
  obtain ⟨enum, converter, asked, members, target⟩ := resolve_spec h
  obtain ⟨declared, marker, hmarker, value, hvalue, hconverter⟩ := requested?_spec asked
  have named := enums enum declared
  have types := converterType?_isDottedName
    (fun ref href => own.refs marker hmarker ref (href ▸ hvalue)) hconverter
  constructor
  · rw [target]
    exact types.1
  · rw [target]
    exact types.2
  · rw [target]
    exact named.fullName
  · rw [target]
    exact named.module
  · rw [target]
    exact Or.inr named.name
  · rw [members]
    intro member hm
    obtain ⟨source, hs, rfl⟩ := List.mem_map.1 hm
    simp only [servedMembers, asked] at hs
    exact named.members source (List.mem_filter.1 hs).1

theorem resolve_hasEscapedLabels
    (h : (resolve providers declarations declaration).1 = some conversion) :
    conversion.HasEscapedLabels := by
  intro member hm label hl
  rw [resolve_members h] at hm
  obtain ⟨source, -, rfl⟩ := List.mem_map.1 hm
  obtain ⟨text, -, rfl⟩ := Option.map_eq_some_iff.1 hl
  exact ⟨text.shown, text.shown_escape⟩

/-- **Each member is shown by the escaped form of what it stands for.** -/
theorem resolve_visibleMembers
    (h : (resolve providers declarations declaration).1 = some conversion)
    (names : conversion.IsWellNamed) :
    conversion.visibleMembers = (servedMembers declarations declaration).map fun member =>
      ⟨member.name, Text.escape (member.rawText providers conversion.options)⟩ := by
  have identifiers := names.identifiers
  rw [resolve_members h] at identifiers
  rw [Conversion.visibleMembers, resolve_members h, List.map_map]
  refine List.map_congr_left fun member hm => ?_
  have plain := (identifiers _ (List.mem_map_of_mem hm)).plain
  exact congrArg (VisibleMember.mk member.name) (visibleText_eq_escape plain)

end EnumCodec
