import EnumCodec.Proofs.Conversion.Resolved

/-!
# EnumCodec.Proofs.Conversion.TargetEnum

**The enum that a conversion describes.** A request names an enum, which need not be the class that it
stands on. From that class a conversion takes the options, the converter and whether it can be seen from
outside; all else it takes from the enum. So two requests with the same markers for one enum lead to
the same conversion as far as their classes can be seen equally.
-/

namespace EnumCodec

variable {providers : List LabelProvider} {declarations declarations' : ModuleDeclarations}
  {declaration other : EnumDeclaration} {request request' : Attribute} {enum : EnumDeclaration}
  {converter : TypeRef} {conversion : Conversion}

/-! ### What is asked for -/

/-- The enum that the first argument of a request denotes. -/
def requestedEnum? (declarations : ModuleDeclarations) (request : Attribute) :
    Option EnumDeclaration :=
  request.args.head?.bind declarations.find?

/-- The converter that the only argument of a marker names. -/
def designatedConverter? (declaration : EnumDeclaration) : Option TypeRef :=
  match (findMarker declaration.attributes .jsonConverter).map (·.args) with
  | some [value] => converterType? value
  | _ => none

theorem resolveTarget_eq_ok_iff :
    resolveTarget declarations declaration request = .ok (enum, converter) ↔
      requestedEnum? declarations request = some enum ∧
        designatedConverter? declaration = some converter := by
  unfold resolveTarget requestedEnum? designatedConverter?
  cases request.args with
  | nil => simp [bind, Except.bind]
  | cons target others =>
    cases found : declarations.find? target with
    | none => simp [bind, Except.bind, found]
    | some first =>
      cases (findMarker declaration.attributes .jsonConverter).map (·.args) with
      | none => simp [bind, Except.bind, found]
      | some values =>
        match values with
        | [] | _ :: _ :: _ => simp [bind, Except.bind, found]
        | [value] => cases named : converterType? value <;> simp [bind, Except.bind, found, named]

/-! ### The conversion -/

/-- The options do not depend on the class on which a request stands. -/
theorem resolveOptions_fst_eq (declaration other : EnumDeclaration)
    (keywords : List (String × Value)) :
    (resolveOptions declaration keywords).1 = (resolveOptions other keywords).1 := by
  have flag (key : String) (default : Bool) :
      (resolveFlag declaration keywords key default).1 =
        (resolveFlag other keywords key default).1 := by
    unfold resolveFlag
    split
    · rfl
    · split <;> rfl
  have name : (resolvePropertyName declaration keywords).1 =
      (resolvePropertyName other keywords).1 := by
    unfold resolvePropertyName
    split
    · rfl
    · rfl
    · split <;> rfl
  simp only [resolveOptions, flag, name]

/-- The conversion of an enum to which a request leads. -/
def conversionTo (providers : List LabelProvider) (request : Attribute) (isPublic : Bool)
    (enum : EnumDeclaration) (converter : TypeRef) : Conversion where
  options := (resolveOptions enum request.keywords).1
  members := (enum.members.filter (·.hasValue)).map (describeMember providers)
  target := {
    converterName := converter.name
    converterNamespace := converter.namespacePath
    enumFullName := enum.fullName
    enumIsPublic := isPublic
    enumModule := enum.module
    enumName := enum.name }

/-- **All that a resolution does.** There is a conversion if a request denotes an enum and a marker
names a converter, and then it is the one to which they lead. -/
theorem resolve_eq_some_iff :
    (resolve providers declarations declaration).1 = some conversion ↔
      ∃ request enum converter, findMarker declaration.attributes .enumJsonConverter = some request ∧
        requestedEnum? declarations request = some enum ∧
        designatedConverter? declaration = some converter ∧
        conversion = conversionTo providers request declaration.isPublic enum converter := by
  unfold resolve
  cases findMarker declaration.attributes .enumJsonConverter with
  | none => simp
  | some request =>
    dsimp only
    cases target : resolveTarget declarations declaration request with
    | error reason =>
      simp only [reduceCtorEq, false_iff, not_exists, not_and]
      rintro _ enum converter ⟨⟩ asked designated
      have found := resolveTarget_eq_ok_iff.2 ⟨asked, designated⟩
      rw [target] at found
      cases found
    | ok pair =>
      obtain ⟨enum, converter⟩ := pair
      obtain ⟨asked, designated⟩ := resolveTarget_eq_ok_iff.1 target
      have options := resolveOptions_fst_eq declaration enum request.keywords
      constructor
      · rintro ⟨⟩
        exact ⟨request, enum, converter, rfl, asked, designated, by rw [conversionTo, ← options]⟩
      · rintro ⟨_, enum', converter', ⟨⟩, asked', designated', rfl⟩
        rw [asked] at asked'
        rw [designated] at designated'
        cases asked'
        cases designated'
        rw [conversionTo, ← options]

/-- Two conversions of one enum differ if only one of them can be seen from outside. -/
theorem conversionTo_eq_iff {isPublic isPublic' : Bool} :
    conversionTo providers request isPublic' enum converter =
        conversionTo providers request isPublic enum converter ↔ isPublic' = isPublic := by
  simp [conversionTo]

/-- **A conversion describes the enum that the request denotes.** Its members are those of the enum that
have values, in order, and its names are those of the enum. Whether it can be seen from outside is decided
by the class on which the request stands, so it is what the enum says if the two agree. Another class
whose request has the same keywords and denotes the same enum, and which names the converter in the same
way, has a conversion too, and it is the same one if both classes can be seen equally. -/
theorem resolve_describes_requestedEnum
    (resolved : (resolve providers declarations declaration).1 = some conversion) :
    ∃ request enum, findMarker declaration.attributes .enumJsonConverter = some request ∧
      requestedEnum? declarations request = some enum ∧
      conversion.members = (enum.members.filter (·.hasValue)).map (describeMember providers) ∧
      conversion.members.map (·.identifier) = (enum.members.filter (·.hasValue)).map (·.name) ∧
      conversion.target.enumFullName = enum.fullName ∧
      conversion.target.enumModule = enum.module ∧
      conversion.target.enumName = enum.name ∧
      conversion.target.enumIsPublic = declaration.isPublic ∧
      ∀ declarations' other request',
        findMarker other.attributes .enumJsonConverter = some request' →
        request'.keywords = request.keywords →
        requestedEnum? declarations' request' = some enum →
        (findMarker other.attributes .jsonConverter).map (·.args) =
          (findMarker declaration.attributes .jsonConverter).map (·.args) →
        ∃ conversion', (resolve providers declarations' other).1 = some conversion' ∧
          (conversion' = conversion ↔ other.isPublic = declaration.isPublic) := by
  obtain ⟨request, enum, converter, found, asked, designated, rfl⟩ := resolve_eq_some_iff.1 resolved
  refine ⟨request, enum, found, asked, rfl, ?_, rfl, rfl, rfl, rfl, ?_⟩
  · simp [conversionTo, describeMember]
  · intro declarations' other request' found' keywords asked' marked
    have designated' : designatedConverter? other = some converter := by
      unfold designatedConverter?
      rw [marked]
      exact designated
    have same : conversionTo providers request' other.isPublic enum converter =
        conversionTo providers request other.isPublic enum converter := by
      simp only [conversionTo, keywords]
    exact ⟨_, resolve_eq_some_iff.2 ⟨request', enum, converter, found', asked', designated',
      same.symm⟩, conversionTo_eq_iff⟩

/-- A public enum, one of whose names has no value. -/
def pastelEnum : EnumDeclaration where
  name := "Pastel"
  members := [{ name := "MINT" }, { name := "_order_", hasValue := false }, { name := "PEACH" }]

/-- A request for a converter of the public enum. -/
def pastelRequest : Attribute :=
  { name := "EnumJsonConverter", qualifiedName := "EnumJsonConverter", args := [.text "Pastel"] }

/-- A hidden class on which the request stands. -/
def hiddenPalette : EnumDeclaration where
  name := "_Palette"
  isPublic := false
  attributes := [pastelRequest,
    { name := "JsonConverter", qualifiedName := "JsonConverter", args := [.text "PastelConverter"] }]

/-- The conversion describes the public enum, and is hidden as the class that asks for it is. -/
theorem resolve_describes_requestedEnum_hidden :
    ∃ conversion, (resolve LabelProvider.standard ⟨"", [pastelEnum, hiddenPalette]⟩ hiddenPalette).1 =
        some conversion ∧
      conversion.members.map (·.identifier) = ["MINT", "PEACH"] ∧
      conversion.target.enumName = "Pastel" ∧
      conversion.target.enumIsPublic ≠ pastelEnum.isPublic ∧
      ∃ conversion', (resolve LabelProvider.standard ⟨"", [pastelEnum, hiddenPalette]⟩
          { hiddenPalette with name := "Palette", isPublic := true }).1 = some conversion' ∧
        conversion' ≠ conversion := by
  have resolved : (resolve LabelProvider.standard ⟨"", [pastelEnum, hiddenPalette]⟩ hiddenPalette).1 =
      some (conversionTo LabelProvider.standard pastelRequest false pastelEnum
        { name := "PastelConverter" }) := by
    decide +kernel
  obtain ⟨request, enum, found, asked, -, identifiers, -, -, name, visible, others⟩ :=
    resolve_describes_requestedEnum resolved
  have first : request = pastelRequest := (Option.some.inj found).symm
  subst first
  have denoted : enum = pastelEnum := (Option.some.inj asked).symm
  subst denoted
  obtain ⟨conversion', resolved', same⟩ := others ⟨"", [pastelEnum, hiddenPalette]⟩
    { hiddenPalette with name := "Palette", isPublic := true } _ rfl rfl rfl rfl
  exact ⟨_, resolved, identifiers, name, fun agrees => absurd (visible.symm.trans agrees) (by decide),
    conversion', resolved', fun agrees => absurd (same.1 agrees) (by decide)⟩

end EnumCodec
