import EnumCodec.Proofs.Declaration.Names

/-!
# EnumCodec.Proofs.Conversion.Naming

**Types named by a text and by a reference.** A text is taken apart at every dot, a reference has been
cut at its last dot, and a reference into the module itself goes by its short name too. Still both lead
to the same enum and to the same converter, so a declaration is resolved alike however its markers name
the types.
-/

namespace EnumCodec

open Activity (result_map_eq_ok result_map_eq_error)
open Text (IsDottedName isIdentifier isIdentifierPart isBlank trimBlank)

/-! ### Dotted names -/

namespace Text

/-- The code points of white space. -/
def blankCodes : List Nat :=
  List.range' 9 5 ++ List.range' 28 5 ++ [0x85, 0xA0, 0x1680] ++ List.range' 0x2000 11 ++
    [0x2028, 0x2029, 0x202F, 0x205F, 0x3000]

theorem mem_blankCodes {c : Char} (blank : isBlank c = true) : c.toNat ∈ blankCodes := by
  simp only [isBlank, Bool.or_eq_true, Bool.and_eq_true, decide_eq_true_eq, beq_iff_eq] at blank
  simp only [blankCodes, List.mem_append, List.mem_range'_1, List.mem_cons, List.not_mem_nil, or_false]
  omega

/-- White space is no part of an identifier. -/
theorem not_isBlank_of_isIdentifierPart {c : Char} (part : isIdentifierPart c = true) :
    isBlank c = false := by
  have none : ∀ code ∈ blankCodes, isIdentifierPart (Char.ofNat code) = false := by decide +kernel
  by_contra blank
  have outside := none c.toNat (mem_blankCodes (by simpa using blank))
  rw [Char.ofNat_toNat, part] at outside
  cases outside

/-- A text without white space stays as it is. -/
theorem trimBlank_eq_self {text : List Char} (solid : ∀ c ∈ text, isBlank c = false) :
    trimBlank text = text := by
  have kept {chars : List Char} (solid : ∀ c ∈ chars, isBlank c = false) :
      chars.dropWhile isBlank = chars := by
    cases chars with
    | nil => rfl
    | cons c rest => rw [List.dropWhile_cons, if_neg (by simp [solid c List.mem_cons_self])]
  rw [trimBlank, kept solid, kept fun c mem => solid c (List.mem_reverse.1 mem), List.reverse_reverse]

/-- A dotted name has no white space around it. -/
theorem IsDottedName.trimBlank {name : String} (dotted : IsDottedName name) :
    trimBlank name.toList = name.toList := by
  refine trimBlank_eq_self fun c mem => ?_
  obtain rfl | ⟨piece, found, inside⟩ := mem_splitDots mem
  · rfl
  · exact not_isBlank_of_isIdentifierPart
      (isIdentifierPart_of_mem (List.all_eq_true.1 dotted piece found) inside)

end Text

/-- The reference that a dotted name is: what stands behind its last dot, in the namespace before it. -/
def TypeRef.ofDotted (name : String) : TypeRef where
  name := (Text.splitLastDot name).2
  namespacePath := (Text.splitLastDot name).1

namespace TypeRef

variable {name : String}

theorem ofDotted_fits (dotted : IsDottedName name) :
    Declaration.RefFits IsDottedName (.ofDotted name) :=
  Declaration.isKind_dottedName.splitLastDot dotted

/-- The parts of a name make it up again. -/
theorem fullName_ofDotted (dotted : IsDottedName name) : (ofDotted name).fullName = name := by
  obtain ⟨front, last, pieces⟩ := (List.eq_nil_or_concat (Text.dotPieces name)).resolve_left
    (by simpa [Text.dotPieces] using Text.splitDots_ne_nil name.toList)
  rw [List.concat_eq_append] at pieces
  have whole : Text.joinDots (front ++ [last]) = name := pieces ▸ Text.joinDots_dotPieces name
  have said : ∀ piece ∈ front, piece ≠ "" := fun piece mem =>
    (Declaration.isDottedName_of_mem dotted (pieces ▸ List.mem_append_left [last] mem)).ne_empty
  have parts : ofDotted name = ⟨last, Text.joinDots front⟩ := by
    simp [ofDotted, Text.splitLastDot, pieces]
  rw [parts, fullName]
  dsimp only
  split
  · next bare =>
    rw [(Text.joinDots_eq_empty_iff said).1 bare] at whole
    simpa [Text.joinDots] using whole
  · next spaced =>
    rw [← Text.joinDots_append_singleton ?_ last, whole]
    rintro rfl
    exact spaced rfl

end TypeRef

/-! ### Enums and converters -/

/-- **A text and a reference denote the same enum** of a module whose enums know it. A short name that a
reference into the module goes by besides its full one belongs to no other enum. -/
theorem ModuleDeclarations.find?_ref {declarations : ModuleDeclarations} {ref : TypeRef}
    (own : ∀ enum ∈ declarations.enums, enum.module = declarations.module)
    (named : ref.name ≠ "") (undotted : '.' ∉ ref.name.toList) :
    declarations.find? (.ref ref) = declarations.find? (.text ref.fullName) := by
  refine List.find?_congr fun enum mem => ?_
  by_cases bare : ref.namespacePath = ""
  · simp [goesBy, denotedNames, TypeRef.fullName, bare, named]
  · have full : ref.fullName = ref.namespacePath ++ "." ++ ref.name := if_neg bare
    have filled : ref.fullName ≠ "" := by simp [full]
    by_cases inside : ref.namespacePath = declarations.module
    · have whole : enum.fullName = ref.namespacePath ++ "." ++ enum.name := by
        rw [EnumDeclaration.fullName, own enum mem, ← inside, if_neg bare]
      have called : enum.name = ref.name ↔ enum.fullName = ref.fullName := by
        rw [whole, full, String.append_right_inj]
      -- A full name has a dot behind the module, so it is the short name of no reference.
      have other : enum.fullName ≠ ref.name := fun same => undotted (by simp [← same, whole])
      simp [goesBy, denotedNames, filled, inside, called, other]
    · simp [goesBy, denotedNames, filled, bare, inside]

/-- **A text and a reference name the same converter.** -/
theorem converterType?_text {name : String} (dotted : IsDottedName name) :
    converterType? (.text name) = converterType? (.ref (.ofDotted name)) := by
  have named := (TypeRef.ofDotted_fits dotted).name.ne_empty
  have identifiers : (Text.splitDots name.toList).all isIdentifier = true := dotted
  simp only [converterType?, dotted.trimBlank]
  rw [if_pos identifiers, if_neg named]
  rfl

/-! ### Declarations that name types alike -/

/-- The other value is the same, or the reference that a text names. -/
inductive Value.NamesAlike : Value → Value → Prop
  | same (value : Value) : NamesAlike value value
  | reference {name : String} (dotted : IsDottedName name) :
    NamesAlike (.text name) (.ref (.ofDotted name))

/-- The attributes differ only in how their arguments name types. -/
structure Attribute.NamesAlike (marker other : Attribute) : Prop where
  name : other.name = marker.name
  qualifiedName : other.qualifiedName = marker.qualifiedName
  keywords : other.keywords = marker.keywords
  args : List.Forall₂ Value.NamesAlike marker.args other.args

/-- An enum without its attributes. -/
def EnumDeclaration.bare (enum : EnumDeclaration) : EnumDeclaration :=
  { enum with attributes := [] }

/-- Enums that are the same without their attributes are the same but for these. -/
theorem EnumDeclaration.eq_of_bare {enum other : EnumDeclaration} (same : other.bare = enum.bare) :
    other = { enum with attributes := other.attributes } := by
  cases enum
  cases other
  simpa [bare] using same

/-- The enums differ only in how their attributes name types. -/
structure EnumDeclaration.NamesAlike (enum other : EnumDeclaration) : Prop where
  bare : other.bare = enum.bare
  attributes : List.Forall₂ Attribute.NamesAlike enum.attributes other.attributes

/-- The modules differ only in how the attributes of their enums name types. -/
structure ModuleDeclarations.NamesAlike (declarations other : ModuleDeclarations) : Prop where
  module : other.module = declarations.module
  enums : List.Forall₂ EnumDeclaration.NamesAlike declarations.enums other.enums

section

variable {declarations declarations' : ModuleDeclarations} {declaration declaration' : EnumDeclaration}
  {value value' : Value} {providers : List LabelProvider}

theorem converterType?_namesAlike (alike : value.NamesAlike value') :
    converterType? value' = converterType? value := by
  cases alike with
  | same => rfl
  | reference dotted => exact (converterType?_text dotted).symm

theorem map_bare_eq {enums others : List EnumDeclaration}
    (alike : List.Forall₂ EnumDeclaration.NamesAlike enums others) :
    others.map (·.bare) = enums.map (·.bare) := by
  induction alike with
  | nil => rfl
  | cons here _ ih => rw [List.map_cons, List.map_cons, here.bare, ih]

/-- What is found does not depend on attributes. -/
theorem find?_map_bare (declarations : ModuleDeclarations) (target : Value) :
    (declarations.find? target).map (·.bare) =
      ModuleDeclarations.find? ⟨declarations.module, declarations.enums.map (·.bare)⟩ target := by
  simp only [ModuleDeclarations.find?, List.find?_map]
  rfl

/-- Alike arguments denote the same enum of alike modules, up to its attributes. -/
theorem find?_namesAlike (own : ∀ enum ∈ declarations.enums, enum.module = declarations.module)
    (trees : declarations.NamesAlike declarations') (alike : value.NamesAlike value') :
    (declarations'.find? value').map (·.bare) = (declarations.find? value).map (·.bare) := by
  have same : declarations.find? value' = declarations.find? value := by
    cases alike with
    | same => rfl
    | reference dotted =>
      have fits := TypeRef.ofDotted_fits dotted
      rw [ModuleDeclarations.find?_ref own fits.name.ne_empty fits.undotted,
        TypeRef.fullName_ofDotted dotted]
  rw [find?_map_bare, trees.module, map_bare_eq trees.enums, ← find?_map_bare, same]

theorem findMarker_namesAlike {markers others : List Attribute}
    (alike : List.Forall₂ Attribute.NamesAlike markers others) (kind : MarkerKind) :
    Option.Rel Attribute.NamesAlike (findMarker markers kind) (findMarker others kind) := by
  induction alike with
  | nil => exact .none
  | @cons marker other _ _ here _ ih =>
    have same : other.isMarker kind = marker.isMarker kind := by
      simp only [Attribute.isMarker, here.name, here.qualifiedName]
    simp only [findMarker, List.find?_cons, same]
    cases marker.isMarker kind with
    | true => exact .some here
    | false => exact ih

/-- Alike markers lead to the same enum, up to its attributes, and to the same converter. -/
theorem resolveTarget_namesAlike {request request' : Attribute}
    (own : ∀ enum ∈ declarations.enums, enum.module = declarations.module)
    (trees : declarations.NamesAlike declarations') (alike : declaration.NamesAlike declaration')
    (asked : request.NamesAlike request') :
    (resolveTarget declarations' declaration' request').map (fun found => (found.1.bare, found.2)) =
      (resolveTarget declarations declaration request).map (fun found => (found.1.bare, found.2)) := by
  have args := asked.args
  have marked := findMarker_namesAlike alike.attributes .jsonConverter
  unfold resolveTarget
  generalize request.args = first at args ⊢
  generalize request'.args = second at args ⊢
  generalize findMarker declaration.attributes .jsonConverter = marker at marked ⊢
  generalize findMarker declaration'.attributes .jsonConverter = other at marked ⊢
  -- The target is looked up before the converter is read, so both fail at the same point.
  cases args with
  | nil => rfl
  | @cons target target' _ _ denoted _ =>
    have found := find?_namesAlike own trees denoted
    cases here : declarations.find? target with
    | none =>
      have none : declarations'.find? target' = none := by simpa [here] using found
      simp only [here, none]
      rfl
    | some enum =>
      obtain ⟨enum', there, same⟩ : ∃ enum', declarations'.find? target' = some enum' ∧
          enum'.bare = enum.bare := by simpa [here] using found
      simp only [here, there]
      cases marked with
      | none => rfl
      | @some marker other named =>
        have args := named.args
        simp only [Option.map_some]
        generalize marker.args = values at args ⊢
        generalize other.args = values' at args ⊢
        cases args with
        | nil => rfl
        | cons type others =>
          cases others with
          | cons _ _ => rfl
          | nil =>
            dsimp only [bind, Except.bind]
            rw [converterType?_namesAlike type]
            split
            · simp [Except.map, same]
            · rfl

/-- **A declaration is resolved alike** however its markers name the types, to the last report. -/
theorem resolve_namesAlike (providers : List LabelProvider)
    (own : ∀ enum ∈ declarations.enums, enum.module = declarations.module)
    (trees : declarations.NamesAlike declarations') (alike : declaration.NamesAlike declaration') :
    resolve providers declarations' declaration' = resolve providers declarations declaration := by
  have asked := findMarker_namesAlike alike.attributes .enumJsonConverter
  unfold resolve
  generalize findMarker declaration.attributes .enumJsonConverter = request at asked ⊢
  generalize findMarker declaration'.attributes .enumJsonConverter = request' at asked ⊢
  cases asked with
  | none => rfl
  | @some request request' asked =>
    have target := resolveTarget_namesAlike own trees alike asked
    -- Apart from the two markers, only what is there without attributes is read.
    have fullName : declaration'.fullName = declaration.fullName := by
      rw [EnumDeclaration.eq_of_bare alike.bare]
      rfl
    have access : declaration'.isPublic = declaration.isPublic := by
      rw [EnumDeclaration.eq_of_bare alike.bare]
    have options : resolveOptions declaration' request'.keywords =
        resolveOptions declaration request.keywords := by
      simp only [resolveOptions, resolveFlag, resolvePropertyName, ignoredOption, fullName,
        asked.keywords]
    dsimp only
    rw [options, fullName, access]
    cases here : resolveTarget declarations declaration request with
    | error reason =>
      have there : resolveTarget declarations' declaration' request' = .error reason :=
        result_map_eq_error.1 (target.trans (by rw [here]; rfl))
      rw [there]
    | ok found =>
      obtain ⟨found', there, same⟩ := result_map_eq_ok.1 (target.trans (by rw [here]; rfl))
      obtain ⟨enum, converter⟩ := found
      obtain ⟨enum', converter'⟩ := found'
      simp only [Prod.mk.injEq] at same
      obtain ⟨bare, rfl⟩ := same
      rw [there, EnumDeclaration.eq_of_bare bare]
      rfl

end

end EnumCodec
