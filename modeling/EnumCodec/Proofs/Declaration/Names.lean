import EnumCodec.Proofs.Conversion.Resolved
import EnumCodec.Proofs.Declaration.Classes

/-!
# EnumCodec.Proofs.Declaration.Names

**The names of declared enums.** What the reading of declarations takes from a module as a name is put
together from identifiers of the source and from pieces of the module's own name. So the classes and
the members of an enum have identifiers for names, and a type that a decorator refers to has a name of
every kind that holds these identifiers and pieces.
-/

namespace EnumCodec

namespace Declaration

open Source
open Activity (result_bind_eq_ok result_map_eq_ok mem_of_mapM_eq_ok)
open Text (isIdentifier IsDottedName dotPieces joinDots)

/-! ### Kinds of names -/

/-- A kind of names that holds all dotted names, and is kept by dots between names and by taking the
pieces between the dots. -/
structure IsKind (kind : String → Prop) : Prop where
  dotted : ∀ {text}, IsDottedName text → kind text
  join : ∀ {text text'}, kind text → kind text' → kind (text ++ "." ++ text')
  piece : ∀ {text piece}, kind text → piece ∈ dotPieces text → kind piece

theorem isDottedName_of_mem {text piece : String} (dotted : IsDottedName text)
    (mem : piece ∈ dotPieces text) : IsDottedName piece := by
  obtain ⟨chars, found, rfl⟩ := List.mem_map.1 mem
  exact Text.isDottedName_of_isIdentifier (List.all_eq_true.1 dotted chars found)

theorem isKind_dottedName : IsKind IsDottedName :=
  ⟨id, Text.IsDottedName.join, isDottedName_of_mem⟩

section Kinds

variable {kind : String → Prop} (isKind : IsKind kind)

include isKind

theorem IsKind.identifier {text : String} (named : isIdentifier text.toList = true) : kind text :=
  isKind.dotted (by simpa using Text.isDottedName_of_isIdentifier named)

/-- Names joined by dots have the kind of the names. -/
theorem IsKind.joinDots_cons {piece : String} {pieces : List String} (first : kind piece)
    (others : ∀ other ∈ pieces, kind other) : kind (joinDots (piece :: pieces)) := by
  induction pieces generalizing piece with
  | nil => rwa [joinDots, String.intercalate_singleton]
  | cons second rest ih =>
    rw [joinDots, String.intercalate_cons_cons]
    exact isKind.join first (ih (others second List.mem_cons_self)
      fun other mem => others other (List.mem_cons_of_mem second mem))

/-- There may be no names to join. -/
theorem IsKind.joinDots {pieces : List String} (named : ∀ piece ∈ pieces, kind piece) :
    joinDots pieces = "" ∨ kind (joinDots pieces) := by
  cases pieces with
  | nil => exact Or.inl rfl
  | cons first rest =>
    exact Or.inr (isKind.joinDots_cons (named first List.mem_cons_self)
      fun other mem => named other (List.mem_cons_of_mem first mem))

/-- A reference to a name of the kind: the namespace has the kind unless it is missing, and so has
the short name, in which there is no dot. -/
structure RefFits (kind : String → Prop) (ref : TypeRef) : Prop where
  name : kind ref.name
  undotted : '.' ∉ ref.name.toList
  namespacePath : ref.namespacePath = "" ∨ kind ref.namespacePath

theorem IsKind.splitLastDot {text : String} (named : kind text) :
    RefFits kind ⟨(Text.splitLastDot text).2, (Text.splitLastDot text).1⟩ := by
  have pieces : ∀ piece ∈ dotPieces text, kind piece := fun _ => isKind.piece named
  have nonempty : dotPieces text ≠ [] := by
    simpa [dotPieces] using Text.splitDots_ne_nil text.toList
  have last : (Text.splitLastDot text).2 ∈ dotPieces text := by
    rw [Text.splitLastDot, List.getLastD_eq_getLast?, List.getLast?_eq_some_getLast nonempty]
    exact List.getLast_mem nonempty
  refine ⟨pieces _ last, ?_, ?_⟩
  · obtain ⟨chars, found, same⟩ := List.mem_map.1 last
    rw [← same, String.toList_ofList]
    exact Text.not_dot_of_mem_splitDots found
  · exact isKind.joinDots fun piece mem => pieces piece (List.mem_of_mem_dropLast mem)

end Kinds

/-! ### Imports -/

/-- What an identifier stands for has the kind. -/
def AliasesFit (kind : String → Prop) (aliases : Aliases) : Prop :=
  ∀ id value, isIdentifier id.toList = true → aliases.lookup id = some value → kind value

section Imports

variable {kind : String → Prop} {aliases : Aliases}

theorem AliasesFit.put {key value : String} (fit : AliasesFit kind aliases)
    (named : isIdentifier key.toList = true → kind value) :
    AliasesFit kind (Entries.put aliases key value) := by
  intro id found identifier same
  rw [Entries.lookup_put] at same
  split at same
  · rename_i here
    subst here
    cases same
    exact named identifier
  · exact fit id found identifier same

/-- The star of an import is bound as a name that no identifier is. -/
theorem not_isIdentifier_star : ¬ isIdentifier "*".toList = true := by
  decide +kernel

variable (isKind : IsKind kind)

include isKind

theorem bindModule_fit {imported : ImportedName} (fit : AliasesFit kind aliases)
    (named : IsNamed imported) : AliasesFit kind (bindModule aliases imported) := by
  unfold bindModule
  rcases named with dotted | rfl
  · split
    · exact fit.put fun _ => isKind.dotted dotted
    · refine fit.put fun _ => isKind.piece (isKind.dotted dotted) ?_
      exact List.mem_map.2 ⟨_, Text.firstPiece_mem imported.name, String.ofList_toList⟩
  · exact fit.put fun star => absurd star not_isIdentifier_star

theorem bindFrom_fit {base : String} {imported : ImportedName} (fit : AliasesFit kind aliases)
    (module : base = "" ∨ kind base) (named : IsNamed imported) :
    AliasesFit kind (bindFrom base aliases imported) := by
  unfold bindFrom
  rcases named with dotted | rfl
  · refine fit.put fun _ => ?_
    split
    · exact isKind.dotted dotted
    · rename_i based
      exact isKind.join (module.resolve_left based) (isKind.dotted dotted)
  · exact fit.put fun star => absurd star not_isIdentifier_star

/-- The module that an import names is put together from the name of the module itself. -/
theorem absoluteModule_fits {here : String} {module : Option String} (level : Nat)
    (own : here = "" ∨ kind here) (named : ∀ name, module = some name → IsDottedName name) :
    absoluteModule here module level = "" ∨ kind (absoluteModule here module level) := by
  unfold absoluteModule
  split
  · cases module with
    | none => exact Or.inl rfl
    | some name => exact Or.inr (isKind.dotted (named name rfl))
  · have package : ∀ piece ∈ (if here = "" then [] else dotPieces here).take
        ((if here = "" then [] else dotPieces here).length - level), kind piece := by
      intro piece mem
      have mem := List.mem_of_mem_take mem
      split at mem
      · cases mem
      · rename_i based
        exact isKind.piece (own.resolve_left based) mem
    dsimp only
    split
    · rename_i name
      refine isKind.joinDots fun piece mem => ?_
      rcases List.mem_append.1 mem with mem | mem
      · exact package piece mem
      · rw [List.mem_singleton.1 mem]
        exact isKind.dotted (named name rfl)
    · exact isKind.joinDots package

theorem bindImports_fit {here : String} {statement : Stmt} (own : here = "" ∨ kind here)
    (fit : AliasesFit kind aliases) (named : IsNamed statement) :
    AliasesFit kind (bindImports here aliases statement) := by
  unfold bindImports
  split
  · rename_i names
    have each : IsNamed names := isNamed_importModules.1 named
    exact List.foldlRecOn names bindModule fit fun _ fit imported mem =>
      bindModule_fit isKind fit (each imported mem)
  · rename_i module names level
    obtain ⟨dotted, each⟩ := isNamed_importFrom.1 named
    have base := absoluteModule_fits isKind level own dotted
    exact List.foldlRecOn names _ fit fun _ fit imported mem =>
      bindFrom_fit isKind fit base (each imported mem)
  · exact fit

theorem importedAliases_fit {here : String} {tree : Module} (own : here = "" ∨ kind here)
    (named : IsNamed tree) : AliasesFit kind (importedAliases here tree) :=
  List.foldlRecOn tree _ (fun _ _ _ => nofun) fun _ fit statement mem =>
    bindImports_fit isKind own fit (named statement mem)

/-! ### References -/

theorem resolveName_kind {e : Expr} {text : String} (fit : AliasesFit kind aliases)
    (spells : e.Spells) (found : resolveName aliases e = some text) : kind text := by
  fun_induction resolveName aliases e generalizing text with
  | case1 id =>
    cases found
    cases known : aliases.lookup id with
    | none => exact isKind.identifier spells
    | some value => exact fit id value spells known
  | case2 => cases found
  | case3 object attr base named other ih =>
    cases found
    exact isKind.join (ih spells.1 named) (isKind.identifier spells.2)
  | case4 => cases found
  | case5 => cases found

/-! ### Attributes -/

/-- The references among the arguments of an attribute have names of the kind. -/
def RefsFit (kind : String → Prop) (marker : Attribute) : Prop :=
  ∀ ref, Value.ref ref ∈ marker.args → RefFits kind ref

omit isKind in
theorem unsignedNumber_ne_ref {e : Expr} {value : Value} (found : unsignedNumber e = .ok value)
    (ref : TypeRef) : value ≠ .ref ref ∧ negated value ≠ .ref ref := by
  unfold unsignedNumber at found
  split at found <;> cases found <;> exact ⟨nofun, nofun⟩

omit isKind in
theorem signedNumber_ne_ref {e : Expr} {value : Value}
    (found : Declaration.signedNumber e = .ok value) (ref : TypeRef) : value ≠ .ref ref := by
  unfold Declaration.signedNumber at found
  split at found
  · exact (unsignedNumber_ne_ref found ref).1
  · obtain ⟨number, unsigned, rfl⟩ := result_map_eq_ok.1 found
    exact (unsignedNumber_ne_ref unsigned ref).2
  · exact (unsignedNumber_ne_ref found ref).1

omit isKind in
theorem joinImaginary_ne_ref {minus : Bool} {left right value : Value}
    (found : joinImaginary minus left right = .ok value) (ref : TypeRef) : value ≠ .ref ref := by
  unfold joinImaginary at found
  rintro rfl
  split at found
  · dsimp only at found
    split at found
    · split at found <;> cases found
    · cases found
    · cases found
  · cases found

omit isKind in
/-- No literal is a reference. -/
theorem literalValue_ne_ref {e : Expr} {value : Value} (found : literalValue e = .ok value)
    (ref : TypeRef) : value ≠ .ref ref := by
  unfold literalValue at found
  split at found
  case h_12 | h_13 =>
    obtain ⟨left, -, found⟩ := result_bind_eq_ok.1 found
    obtain ⟨right, -, found⟩ := result_bind_eq_ok.1 found
    exact joinImaginary_ne_ref found ref
  case h_14 => exact signedNumber_ne_ref found ref
  case h_7 | h_8 | h_9 | h_10 =>
    obtain ⟨items, -, rfl⟩ := result_map_eq_ok.1 found
    exact nofun
  all_goals
    cases found
    exact nofun

omit isKind in
theorem literal?_ne_ref {e : Expr} {value : Option Value} (found : literal? e = .ok value)
    (ref : TypeRef) : value.getD .none ≠ .ref ref := by
  unfold literal? at found
  split at found
  · rename_i literal same
    cases found
    exact literalValue_ne_ref same ref
  · cases found
    exact nofun
  · cases found

theorem argumentValue_fits {e : Expr} {ref : TypeRef} (fit : AliasesFit kind aliases)
    (spells : e.Spells) (found : argumentValue aliases e = .ok (.ref ref)) : RefFits kind ref := by
  unfold argumentValue at found
  cases known : resolveName aliases e with
  | none =>
    simp only [known] at found
    split at found
    · cases found
    · cases found
    · obtain ⟨value, literal, same⟩ := result_map_eq_ok.1 found
      exact absurd same (literal?_ne_ref literal ref)
  | some name =>
    have refers := isKind.splitLastDot (resolveName_kind isKind fit spells known)
    simp only [known] at found
    split at found
    · cases found
      exact refers
    · cases found
      exact refers
    · obtain ⟨value, literal, same⟩ := result_map_eq_ok.1 found
      exact absurd same (literal?_ne_ref literal ref)

theorem attributeOf_fits {e : Expr} {marker : Attribute} (fit : AliasesFit kind aliases)
    (named : IsNamed e) (found : attributeOf aliases e = .ok marker) : RefsFit kind marker := by
  intro ref mem
  unfold attributeOf at found
  dsimp only at found
  split at found
  · rename_i callee args keywords
    obtain ⟨values, read, found⟩ := result_bind_eq_ok.1 found
    obtain ⟨entries, -, found⟩ := result_bind_eq_ok.1 found
    cases found
    obtain ⟨arg, there, value⟩ := mem_of_mapM_eq_ok read mem
    exact argumentValue_fits isKind fit (named.2 arg there) value
  · cases found
    cases mem

end Imports

/-! ### Members and enums -/

/-- The names of an enum and of its members are identifiers, and a member that has a value is not one
of the names that the class keeps to itself. -/
structure Fits (kind : String → Prop) (module : String) (enum : EnumDeclaration) : Prop where
  name : IsDottedName enum.name
  module : enum.module = module
  members : ∀ member ∈ enum.members, isIdentifier member.name.toList = true ∧
    (member.hasValue = true → isReserved member.name = false)
  refs : ∀ marker ∈ enum.attributes, RefsFit kind marker

theorem membersOf_fit {aliases : Aliases} {ignored : List String} {statement : Stmt}
    {members : List Member} (named : IsNamed statement)
    (found : membersOf aliases ignored statement = .ok members) :
    ∀ member ∈ members, isIdentifier member.name.toList = true ∧
      (member.hasValue = true → isReserved member.name = false) := by
  unfold membersOf at found
  split at found
  · rename_i line targets value
    have spelled : IsNamed targets := isNamed_assign.1 named
    cases found
    intro member mem
    obtain ⟨target, there, same⟩ := List.mem_filterMap.1 mem
    split at same
    · rename_i id
      cases same
      refine ⟨(spelled _ there).1, fun counts => ?_⟩
      simp only [isMember, Bool.and_eq_true, Bool.not_eq_true'] at counts
      exact counts.1.1
    · cases same
  · rename_i line id annotation value
    obtain ⟨attributes, -, found⟩ := result_bind_eq_ok.1 found
    cases found
    intro member mem
    rw [List.mem_singleton.1 mem]
    refine ⟨(isNamed_annotated.1 named).1, fun counts => ?_⟩
    dsimp only at counts
    split at counts
    · simp only [isMember, Bool.and_eq_true, Bool.not_eq_true'] at counts
      exact counts.1.1
    · cases counts
  · cases found
    exact nofun

section Enums

variable {kind : String → Prop} {around : Surroundings}

theorem enumOf_fits (isKind : IsKind kind) (fit : AliasesFit kind around.aliases) {path : List String}
    {line : Nat} {decorators : List Expr} {body : List Stmt}
    {enum : EnumDeclaration} (nonempty : path ≠ [])
    (scope : ∀ name ∈ path, isIdentifier name.toList = true) (marked : IsNamed decorators)
    (named : IsNamed body) (found : enumOf around path line decorators body = .ok enum) :
    Fits kind around.module enum := by
  obtain ⟨attributes, marks, found⟩ := result_bind_eq_ok.1 found
  obtain ⟨ignored, -, found⟩ := result_bind_eq_ok.1 found
  obtain ⟨members, each, found⟩ := result_bind_eq_ok.1 found
  cases found
  constructor
  · cases path with
    | nil => exact absurd rfl nonempty
    | cons first rest =>
      have dotted : ∀ name ∈ first :: rest, IsDottedName name :=
        fun name mem => isKind_dottedName.identifier (scope name mem)
      exact isKind_dottedName.joinDots_cons (dotted first List.mem_cons_self)
        fun name mem => dotted name (List.mem_cons_of_mem first mem)
  · rfl
  · intro member mem
    obtain ⟨group, there, mem⟩ := List.mem_flatten.1 mem
    obtain ⟨statement, inside, read⟩ := mem_of_mapM_eq_ok each there
    exact membersOf_fit (named statement inside) read member mem
  · intro marker mem
    obtain ⟨decorator, there, read⟩ := mem_of_mapM_eq_ok marks mem
    exact attributeOf_fits isKind fit (marked decorator there) read

end Enums

/-- **The names of the enums that a module declares** are identifiers, and those that it refers to are
of every kind that the name of the module has. -/
theorem readDeclarations_fit {kind : String → Prop} (isKind : IsKind kind) {module : String}
    {tree : Module} {declarations : ModuleDeclarations} (own : module = "" ∨ kind module)
    (named : IsNamed tree) (read : readDeclarations module tree = .ok declarations) :
    ∀ enum ∈ declarations.enums, Fits kind module enum := by
  intro enum mem
  obtain ⟨exports, -, declared, there, made⟩ := exists_class_of_mem read mem
  obtain ⟨nonempty, path, marked, -, within⟩ := named_of_mem_classesOf (by simp) named there
  exact enumOf_fits isKind (importedAliases_fit isKind own named) nonempty path marked within made

/-! ### Conversions -/

end Declaration

open Declaration
open Text (isIdentifier IsDottedName)

/-- The names of a conversion of an enum that a module declares. -/
structure Conversion.IsDeclared (kind : String → Prop) (module : String)
    (conversion : Conversion) : Prop where
  converter : RefFits kind
    ⟨conversion.target.converterName, conversion.target.converterNamespace⟩
  enumModule : conversion.target.enumModule = module
  enumName : IsDottedName conversion.target.enumName
  enumFullName : conversion.target.enumFullName =
    if module = "" then conversion.target.enumName else module ++ "." ++ conversion.target.enumName
  identifiers : ∀ member ∈ conversion.members, isIdentifier member.identifier.toList = true ∧
    isReserved member.identifier = false

/-- The type that an argument names has names of the kind. -/
theorem converterType?_fits {kind : String → Prop} (isKind : IsKind kind) {value : Value}
    {converter : TypeRef} (refs : ∀ ref, value = .ref ref → RefFits kind ref)
    (found : converterType? value = some converter) : RefFits kind converter := by
  unfold converterType? at found
  split at found
  · split at found
    · cases found
    · cases found
      exact refs _ rfl
  · rename_i text
    dsimp only at found
    split at found
    · rename_i identifiers
      cases found
      -- the text is taken apart at its last dot as a resolved name is
      have dotted : IsDottedName (String.ofList (Text.trimBlank text.toList)) := by
        rwa [IsDottedName, String.toList_ofList]
      have parts := isKind.splitLastDot (isKind.dotted dotted)
      rwa [Text.splitLastDot, Text.dotPieces, String.toList_ofList] at parts
    · cases found
  · cases found

theorem resolve_isDeclared {kind : String → Prop} (isKind : IsKind kind)
    {providers : List LabelProvider} {declarations : ModuleDeclarations} {module : String}
    {declaration : EnumDeclaration} {conversion : Conversion}
    (fit : ∀ enum ∈ declarations.enums, Fits kind module enum)
    (mem : declaration ∈ declarations.enums)
    (found : (resolve providers declarations declaration).1 = some conversion) :
    conversion.IsDeclared kind module := by
  obtain ⟨enum, converter, asked, members, target⟩ := resolve_spec found
  obtain ⟨declared, marker, there, value, argument, type⟩ := requested?_spec asked
  have named := fit enum declared
  have own := fit declaration mem
  constructor
  · rw [target]
    exact converterType?_fits isKind
      (fun ref same => own.refs marker there ref (same ▸ argument)) type
  · rw [target]
    exact named.module
  · rw [target]
    exact named.name
  · rw [target]
    dsimp only
    rw [EnumDeclaration.fullName, named.module]
  · rw [members]
    intro member mem
    obtain ⟨source, served, rfl⟩ := List.mem_map.1 mem
    simp only [servedMembers, asked] at served
    obtain ⟨inside, counts⟩ := List.mem_filter.1 served
    obtain ⟨identifier, free⟩ := named.members source inside
    exact ⟨identifier, free counts⟩

end EnumCodec
