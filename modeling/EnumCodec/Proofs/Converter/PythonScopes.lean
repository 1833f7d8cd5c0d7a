import EnumCodec.Entries
import EnumCodec.Proofs.Converter.PythonTree
import EnumCodec.Proofs.Source.Scopes

/-!
# EnumCodec.Proofs.Converter.PythonScopes

**What the names in a converter stand for.** A converter in Python mixes names of its own with those of
the enum and of the class, which come from the source. Each dotted name that its methods look up is
meant to stand for something; whether all of them do depends on the two names from the source alone.
-/

namespace EnumCodec.PythonConverter

open Source
open Text (dotPieces firstPiece)

/-! ### What is meant -/

/-- The name that the enum is imported by. -/
def enumId (target : Target) : String :=
  nameOf (firstPiece (enumName target))

/-- The name of the class. -/
def classId (target : Target) : String :=
  nameOf target.converterName

/-- What is meant by the enum: that which the import names. -/
def enumMeaning (target : Target) : Meaning :=
  .imported (some (Text.joinDots ((dotPieces target.enumModule).map nameOf))) (enumId target)

/-- A dotted name, with what is meant by it. -/
abbrev Use := Expr × Meaning

/-- A name of the language. -/
def builtinUse (id : String) : Use :=
  (.name id, .builtin)

/-- A variable of the method. -/
def ownUse (id : String) : Use :=
  (.name id, .own)

/-- An attribute of the class. -/
def classUse (attr : String) : Use :=
  (.attribute (.name "cls") attr, .own)

/-- A function for documents. -/
def jsonUse (attr : String) : Use :=
  (.attribute (.name "json") attr, .module "json")

/-- What the branches for the members compare or return. -/
def memberUses (compared : String) (conversion : Conversion) : List Use :=
  conversion.visibleMembers.flatMap fun member =>
    [ownUse compared, (reference (memberName conversion member), enumMeaning conversion.target)]

/-- The dotted names of the method with a name, in their order, with what is meant by each. -/
def uses (conversion : Conversion) : String → List Use
  | "encode" => memberUses "value" conversion ++
    [builtinUse "ValueError", ownUse "value", classUse "PROPERTY_NAME"]
  | "decode" =>
    (if conversion.options.caseSensitive then []
      else [(.attribute (.name "text") "lower", .own)]) ++
    (memberUses (decodedName conversion.options) conversion ++
    [builtinUse "ValueError", ownUse "text", classUse "PROPERTY_NAME", classUse "VALUES"])
  | "dumps" => [jsonUse "dumps", classUse "encode", ownUse "value"]
  | "loads" => [jsonUse "loads", ownUse "data", builtinUse "isinstance", ownUse "text",
    builtinUse "str", builtinUse "ValueError", classUse "PROPERTY_NAME", builtinUse "type",
    ownUse "text", classUse "decode", ownUse "text"]
  | "default" => [builtinUse "isinstance", ownUse "obj",
    (reference (enumName conversion.target), enumMeaning conversion.target), classUse "encode",
    ownUse "obj", builtinUse "TypeError", builtinUse "type", ownUse "obj"]
  | _ => []

/-- The method of the module is what it is meant to be: each of its dotted names, and each decorator,
stands for what is meant by it. -/
structure IsMeant (module : Module) (conversion : Conversion) (method : Method) : Prop where
  names : ∀ use ∈ uses conversion method.name, method.Denotes module use.1 use.2
  decorators : ∀ decorator ∈ method.decorators,
    method.decoratorMeaning? decorator = some .builtin

/-! ### What the names from the source may be -/

/-- A dotted name that begins with the name of the enum can stand for it where there are some
variables: the name is that of no class, no list of exports, no variable and no constant, and the class
keeps none of its pieces to itself. -/
structure CanRefer (target : Target) (taken : List String) (name : String) : Prop where
  unbound : enumId target ≠ classId target
  free : enumId target ∉ "__all__" :: "__class__" :: "__debug__" :: taken
  shared : ∀ piece ∈ dotPieces name, privateName (classId target) (nameOf piece) = nameOf piece

/-- Neither the enum nor the class has the name. -/
def IsFree (target : Target) (id : String) : Prop :=
  id ≠ enumId target ∧ id ≠ classId target

/-- The names of the language and of modules that a converter uses, and a constant that no import and
no class may have as its name. -/
def fixedNames (layout : Layout) : List String :=
  "__debug__" :: "ValueError" ::
    if layout.jsonHelpers then ["json", "isinstance", "str", "type", "TypeError"] else []

/-- The names of the enum and of the class get in the way of nothing. -/
structure NamesApart (layout : Layout) (conversion : Conversion) : Prop where
  encode : ∀ member ∈ conversion.visibleMembers,
    CanRefer conversion.target ["cls", "value"] (memberName conversion member)
  decode : ∀ member ∈ conversion.visibleMembers,
    CanRefer conversion.target
      ("cls" :: "text" :: if conversion.options.caseSensitive then [] else ["key"])
      (memberName conversion member)
  default : layout.jsonHelpers = true →
    CanRefer conversion.target ["cls", "obj"] (enumName conversion.target)
  fixed : ∀ id ∈ fixedNames layout, IsFree conversion.target id
  decorator : "classmethod" ≠ enumId conversion.target

/-! ### The bindings of the module -/

/-- What the module binds before the enum. -/
def fixedScope (layout : Layout) : List (String × Meaning) :=
  ("annotations", .imported (some "__future__") "annotations") ::
    if layout.jsonHelpers then
      [("json", .module "json"), ("Any", .imported (some "typing") "Any")]
    else []

/-- What the module binds before the class. -/
def outerScope (layout : Layout) (target : Target) : List (String × Meaning) :=
  fixedScope layout ++ [(enumId target, enumMeaning target), ("__all__", .made)]

section

variable {layout : Layout} {conversion : Conversion} (noted : NotedLines)

theorem bindingsOf_tree (inModule : conversion.target.enumModule ≠ "") :
    bindingsOf (tree noted layout conversion) =
      outerScope layout conversion.target ++ [(classId conversion.target, .made)] := by
  unfold tree outerScope fixedScope exportStmt
  rw [if_neg inModule]
  cases layout.jsonHelpers <;> cases conversion.target.enumIsPublic <;> rfl

/-- The last binding of a name is the class, the list of exports, the enum, or what stands before. -/
theorem globalMeaning_tree (inModule : conversion.target.enumModule ≠ "") (id : String) :
    globalMeaning (tree noted layout conversion) id =
      if id = classId conversion.target ∨ id = "__all__" then .made
      else if id = enumId conversion.target then enumMeaning conversion.target
      else ((fixedScope layout).reverse.lookup id).getD .builtin := by
  rw [globalMeaning, bindingsOf_tree noted inModule, outerScope]
  simp only [List.append_assoc, List.cons_append, List.nil_append, List.reverse_append,
    List.reverse_cons, List.reverse_nil, Entries.lookup_cons_eq]
  by_cases converter : id = classId conversion.target
  · rw [if_pos converter, if_pos (Or.inl converter)]
    rfl
  · rw [if_neg converter]
    by_cases exported : id = "__all__"
    · rw [if_pos exported, if_pos (Or.inr exported)]
      rfl
    · rw [if_neg exported, if_neg (not_or.2 ⟨converter, exported⟩)]
      split <;> rfl

theorem fixedScope_lookup (layout : Layout) (id : String) :
    ((fixedScope layout).reverse.lookup id).getD .builtin =
      if id = "annotations" then .imported (some "__future__") id
      else if id = "json" ∧ layout.jsonHelpers = true then .module "json"
      else if id = "Any" ∧ layout.jsonHelpers = true then .imported (some "typing") id
      else .builtin := by
  by_cases future : id = "annotations"
  · subst future
    unfold fixedScope
    cases layout.jsonHelpers <;> rfl
  · rw [if_neg future]
    by_cases json : id = "json"
    · subst json
      unfold fixedScope
      cases layout.jsonHelpers <;> rfl
    · rw [if_neg fun h => json h.1]
      by_cases any : id = "Any"
      · subst any
        unfold fixedScope
        cases layout.jsonHelpers <;> rfl
      · rw [if_neg fun h => any h.1, Entries.lookup_eq_none_iff _ _ |>.2]
        · rfl
        · unfold fixedScope
          cases layout.jsonHelpers <;> simp [future, json, any]

/-- A name stands for the enum if it is the imported one and nothing is bound to it later. -/
theorem globalMeaning_eq_enum_iff (inModule : conversion.target.enumModule ≠ "") (id : String) :
    globalMeaning (tree noted layout conversion) id = enumMeaning conversion.target ↔
      id ≠ classId conversion.target ∧ id ≠ "__all__" ∧ id = enumId conversion.target := by
  rw [globalMeaning_tree noted inModule, fixedScope_lookup]
  split
  · rename_i bound
    refine iff_of_false nofun ?_
    rintro ⟨class_, exports, -⟩
    exact bound.elim class_ exports
  · rename_i free
    obtain ⟨class_, exports⟩ := not_or.1 free
    split
    · rename_i same
      exact iff_of_true rfl ⟨class_, exports, same⟩
    · rename_i other
      refine iff_of_false (fun means => other ?_) fun h => other h.2.2
      -- every other import names what it binds, so it could be meant under the same name only
      unfold enumMeaning at means
      repeat' split at means
      all_goals simp only [Meaning.imported.injEq, reduceCtorEq] at means
      all_goals exact means.2

/-- A name of the language is free if neither the enum nor the class has it. -/
theorem globalMeaning_eq_builtin_iff (inModule : conversion.target.enumModule ≠ "") {id : String}
    (other : id ∉ ["annotations", "json", "Any", "__all__"]) :
    globalMeaning (tree noted layout conversion) id = .builtin ↔
      IsFree conversion.target id := by
  simp only [List.mem_cons, List.not_mem_nil, or_false, not_or] at other
  obtain ⟨future, json, any, exports⟩ := other
  rw [globalMeaning_tree noted inModule, fixedScope_lookup]
  unfold IsFree
  by_cases converter : id = classId conversion.target
  · simp [converter]
  · by_cases enum : id = enumId conversion.target
    · simp [converter, exports, ← enum, enumMeaning]
    · simp [converter, exports, enum, future, json, any]

theorem globalMeaning_eq_json_iff (inModule : conversion.target.enumModule ≠ "")
    (helpers : layout.jsonHelpers = true) :
    globalMeaning (tree noted layout conversion) "json" = .module "json" ↔
      IsFree conversion.target "json" := by
  rw [globalMeaning_tree noted inModule, fixedScope_lookup]
  unfold IsFree
  by_cases converter : "json" = classId conversion.target
  · simp [converter]
  · by_cases enum : "json" = enumId conversion.target
    · simp [converter, ← enum, enumMeaning]
    · simp [converter, enum, helpers]

/-! ### The methods -/

/-- A method of the class, behind those statements of it that bind some names. -/
def methodOf (layout : Layout) (target : Target) (bound : List String) (name parameter : String)
    (body : List Stmt) : Method where
  owner := classId target
  scope := outerScope layout target ++ bound.map (·, .made)
  name := name
  decorators := [.name "classmethod"]
  parameters := ["cls", parameter]
  body := body

/-- The methods for whole documents. -/
def helperMethods (layout : Layout) (target : Target) (line : Nat) : List Method :=
  if layout.jsonHelpers then
    [methodOf layout target ["PROPERTY_NAME", "VALUES", "encode", "decode"] "dumps" "value" dumpsStmts,
      methodOf layout target ["PROPERTY_NAME", "VALUES", "encode", "decode", "dumps"] "loads" "data"
        (loadsStmts line),
      methodOf layout target ["PROPERTY_NAME", "VALUES", "encode", "decode", "dumps", "loads"]
        "default" "obj" (defaultStmts (enumName target))]
  else []

/-- **The methods of a converter.** -/
theorem methods_tree (inModule : conversion.target.enumModule ≠ "") :
    methods (tree noted layout conversion) =
      methodOf layout conversion.target ["PROPERTY_NAME", "VALUES"] "encode" "value"
          (encodeStmts conversion) ::
        methodOf layout conversion.target ["PROPERTY_NAME", "VALUES", "encode"] "decode" "text"
          (decodeStmts noted.lowered conversion) ::
        helperMethods layout conversion.target noted.loaded := by
  have first : methods (tree noted layout conversion) =
      methodsOf (classId conversion.target) (outerScope layout conversion.target)
        (valueStmts noted.propertyName noted.values conversion ++
          methodStmts noted.lowered noted.loaded layout conversion) := by
    unfold tree outerScope fixedScope exportStmt
    rw [if_neg inModule]
    cases layout.jsonHelpers <;> cases conversion.target.enumIsPublic <;>
      exact List.append_nil _
  rw [first]
  have shared : ∀ id ∈ ["PROPERTY_NAME", "VALUES", "encode", "decode", "dumps", "loads"],
      privateName (classId conversion.target) id = id := by
    simp only [List.forall_mem_cons]
    and_intros
    all_goals first | exact privateName_eq_self rfl _ | exact List.forall_mem_nil _
  unfold methodStmts helperStmts helperMethods methodOf
  cases layout.jsonHelpers <;>
    simp [methodsOf, valueStmts, classMethod, describeStmt, bindings, Expr.boundName?, shared]

/-! ### The bodies of the methods -/

theorem places_reference (name : String) : places (reference name) = [reference name] := by
  obtain ⟨word, words, pieces⟩ := dotPieces_eq_cons name
  rw [reference, pieces]
  exact places_of_path? (path?_referenceExpr word words)

/-- The branches for the members look up what they compare, and the members. -/
theorem stmtPlaces_encodeStmt (member : VisibleMember) :
    stmtPlaces (encodeStmt conversion member) =
      [.name "value", reference (memberName conversion member)] := by
  simp [encodeStmt, stmtPlaces, bodyPlaces, places, placesOfOperands, places_reference, textExpr]

theorem stmtPlaces_decodeStmt (member : VisibleMember) :
    stmtPlaces (decodeStmt conversion member) =
      [.name (decodedName conversion.options), reference (memberName conversion member)] := by
  simp [decodeStmt, stmtPlaces, bodyPlaces, places, placesOfOperands, places_reference, textExpr]

theorem map_memberUses (compared : String) :
    (memberUses compared conversion).map Prod.fst = conversion.visibleMembers.flatMap fun member =>
      [.name compared, reference (memberName conversion member)] := by
  rw [memberUses, List.map_flatMap]
  rfl

theorem bodyPlaces_encodeStmts :
    bodyPlaces (encodeStmts conversion) = (uses conversion "encode").map Prod.fst := by
  rw [uses, List.map_append, map_memberUses, encodeStmts, bodyPlaces, bodyPlaces_append,
    bodyPlaces_map]
  simp only [stmtPlaces_encodeStmt]
  rfl

theorem bodyPlaces_decodeStmts (line : Nat) :
    bodyPlaces (decodeStmts line conversion) = (uses conversion "decode").map Prod.fst := by
  rw [uses, List.map_append, List.map_append, map_memberUses, decodeStmts, bodyPlaces,
    bodyPlaces_append, bodyPlaces_append, bodyPlaces_map]
  simp only [stmtPlaces_decodeStmt]
  cases conversion.options.caseSensitive <;> rfl

theorem bodyPlaces_defaultStmts :
    bodyPlaces (defaultStmts (enumName conversion.target)) =
      (uses conversion "default").map Prod.fst := by
  simp [uses, defaultStmts, bodyPlaces, stmtPlaces, places, placesOf, placesOfKeywords,
    places_reference, describeStmt, textExpr, raiseStmt, typeNameExpr, Expr.path?, builtinUse, ownUse,
    classUse]

theorem bindingsOf_encodeStmts : bindingsOf (encodeStmts conversion) = [] := by
  rw [encodeStmts, bindingsOf, bindingsOf_append, bindingsOf_map_eq_nil fun _ => rfl]
  rfl

theorem bindingsOf_decodeStmts (line : Nat) :
    bindingsOf (decodeStmts line conversion) =
      if conversion.options.caseSensitive then [] else [("key", .made)] := by
  rw [decodeStmts, bindingsOf, bindingsOf_append, bindingsOf_append,
    bindingsOf_map_eq_nil fun _ => rfl]
  cases conversion.options.caseSensitive <;> rfl

end

/-! ### Meanings in the methods -/

section

variable {layout : Layout} {conversion : Conversion} {noted : NotedLines} {method : Method}
  (inModule : conversion.target.enumModule ≠ "")

/-- A variable of the method stands for itself, and so do its attributes. -/
theorem denotes_own {module : Module} {place : Expr} {id : String} {attrs : List String}
    (path : place.path? = some (id, attrs)) (own : id ∈ method.variables)
    (shared : ∀ name ∈ id :: attrs, ['_', '_'].isPrefixOf name.toList = false) :
    method.Denotes module place .own := by
  rw [Method.denotes_iff path, Method.meaning_eq module method (shared id List.mem_cons_self),
    if_pos own]
  exact ⟨rfl, fun attr mem => privateName_eq_self (shared attr (List.mem_cons_of_mem id mem)) _⟩

include inModule

theorem denotes_builtin_iff {id : String} (other : id ∉ method.variables)
    (shared : ['_', '_'].isPrefixOf id.toList = false)
    (fixed : id ∉ ["annotations", "json", "Any", "__all__"]) :
    method.Denotes (tree noted layout conversion) (.name id) .builtin ↔
      IsFree conversion.target id := by
  rw [Method.denotes_iff rfl, Method.meaning_eq _ method shared, if_neg other,
    globalMeaning_eq_builtin_iff noted inModule fixed]
  simp

theorem denotes_json_iff (helpers : layout.jsonHelpers = true) {attr : String}
    (other : "json" ∉ method.variables) (shared : ['_', '_'].isPrefixOf attr.toList = false) :
    method.Denotes (tree noted layout conversion) (.attribute (.name "json") attr)
        (.module "json") ↔
      IsFree conversion.target "json" := by
  rw [Method.denotes_iff rfl, Method.meaning_eq _ method rfl, if_neg other,
    globalMeaning_eq_json_iff noted inModule helpers]
  simp [privateName_eq_self shared]

theorem meaning_eq_enum_iff (owner : method.owner = classId conversion.target) :
    method.meaning (tree noted layout conversion) (enumId conversion.target) =
        enumMeaning conversion.target ↔
      enumId conversion.target ≠ classId conversion.target ∧
      enumId conversion.target ∉ "__all__" :: "__class__" :: "__debug__" :: method.variables ∧
      privateName (classId conversion.target) (enumId conversion.target) =
        enumId conversion.target := by
  simp only [List.mem_cons, not_or]
  rw [Method.meaning, owner]
  constructor
  · intro means
    split at means
    · cases means
    · rename_i variable_
      split at means
      · cases means
      · rename_i surrounding
        split at means
        · cases means
        · rename_i constant
          obtain ⟨class_, exports, same⟩ :=
            (globalMeaning_eq_enum_iff noted inModule _).1 means
          rw [same] at class_ exports surrounding constant variable_
          exact ⟨class_, ⟨exports, surrounding, constant, variable_⟩, same⟩
  · rintro ⟨class_, ⟨exports, surrounding, constant, variable_⟩, same⟩
    simp only [same, if_neg variable_, if_neg surrounding, if_neg constant]
    exact (globalMeaning_eq_enum_iff noted inModule _).2 ⟨class_, exports, rfl⟩

/-- **A dotted name that begins with the enum** stands for it under the conditions above. -/
theorem denotes_enum_iff (owner : method.owner = classId conversion.target) {name : String}
    (begins : firstPiece name = firstPiece (enumName conversion.target)) :
    method.Denotes (tree noted layout conversion) (reference name)
        (enumMeaning conversion.target) ↔
      CanRefer conversion.target method.variables name := by
  obtain ⟨word, words, pieces⟩ := dotPieces_eq_cons name
  have same : nameOf word = enumId conversion.target := by
    rw [enumId, ← begins, firstPiece, pieces]
    rfl
  rw [reference, pieces, Method.denotes_iff (path?_referenceExpr word words), same,
    meaning_eq_enum_iff inModule owner, owner, List.forall_mem_map]
  constructor
  · rintro ⟨⟨unbound, free, own⟩, attrs⟩
    refine ⟨unbound, free, ?_⟩
    rw [pieces, List.forall_mem_cons, same]
    exact ⟨own, attrs⟩
  · rintro ⟨unbound, free, shared⟩
    rw [pieces, List.forall_mem_cons, same] at shared
    exact ⟨⟨unbound, free, shared.1⟩, shared.2⟩

/-- The branches for the members are meant well if each member is. -/
theorem memberUses_iff (owner : method.owner = classId conversion.target) {compared : String}
    (own : compared ∈ method.variables)
    (shared : ['_', '_'].isPrefixOf compared.toList = false) :
    (∀ use ∈ memberUses compared conversion,
        method.Denotes (tree noted layout conversion) use.1 use.2) ↔
      ∀ member ∈ conversion.visibleMembers,
        CanRefer conversion.target method.variables (memberName conversion member) := by
  have each (member : VisibleMember) :
      (∀ use ∈ [ownUse compared,
          (reference (memberName conversion member), enumMeaning conversion.target)],
        method.Denotes (tree noted layout conversion) use.1 use.2) ↔
      CanRefer conversion.target method.variables (memberName conversion member) := by
    have begins : firstPiece (memberName conversion member) =
        firstPiece (enumName conversion.target) := by
      obtain ⟨word, words, pieces⟩ := dotPieces_eq_cons (enumName conversion.target)
      rw [memberName, firstPiece, Text.dotPieces_join, firstPiece, pieces]
      rfl
    rw [List.forall_mem_cons, List.forall_mem_singleton,
      denotes_enum_iff inModule owner begins]
    exact and_iff_right (denotes_own rfl own (by simpa using shared))
  simp only [memberUses, List.mem_flatMap]
  constructor
  · exact fun all member mem => (each member).1 fun use found => all use ⟨member, mem, found⟩
  · rintro all use ⟨member, mem, found⟩
    exact (each member).2 (all member mem) use found

/-- A name of the language in a method in which it is no variable. -/
theorem builtinUse_iff {taken : List String} (own : method.variables = taken) (id : String)
    (other : id ∉ taken) (shared : ['_', '_'].isPrefixOf id.toList = false)
    (fixed : id ∉ ["annotations", "json", "Any", "__all__"]) :
    method.Denotes (tree noted layout conversion) (builtinUse id).1 (builtinUse id).2 ↔
      IsFree conversion.target id :=
  denotes_builtin_iff inModule (own ▸ other) shared fixed

section

variable (owner : method.owner = classId conversion.target)
include owner

theorem encode_uses_iff (own : method.variables = ["cls", "value"]) :
    (∀ use ∈ uses conversion "encode",
        method.Denotes (tree noted layout conversion) use.1 use.2) ↔
      (∀ member ∈ conversion.visibleMembers,
        CanRefer conversion.target ["cls", "value"] (memberName conversion member)) ∧
      IsFree conversion.target "ValueError" := by
  have value : method.Denotes (tree noted layout conversion) (.name "value") .own :=
    denotes_own rfl (by simp [own]) (by decide)
  have property : method.Denotes (tree noted layout conversion)
      (.attribute (.name "cls") "PROPERTY_NAME") .own :=
    denotes_own rfl (by simp [own]) (by decide)
  rw [uses, List.forall_mem_append, memberUses_iff inModule owner (by simp [own]) rfl, own]
  simp only [List.forall_mem_cons, List.not_mem_nil, false_implies, implies_true, ownUse, classUse,
    value, property, and_true, builtinUse_iff inModule own "ValueError" (by decide) rfl (by decide)]

theorem decode_uses_iff (own : method.variables =
      "cls" :: "text" :: if conversion.options.caseSensitive then [] else ["key"]) :
    (∀ use ∈ uses conversion "decode",
        method.Denotes (tree noted layout conversion) use.1 use.2) ↔
      (∀ member ∈ conversion.visibleMembers,
        CanRefer conversion.target
          ("cls" :: "text" :: if conversion.options.caseSensitive then [] else ["key"])
          (memberName conversion member)) ∧
      IsFree conversion.target "ValueError" := by
  have text : method.Denotes (tree noted layout conversion) (.name "text") .own :=
    denotes_own rfl (by simp [own]) (by decide)
  have property : method.Denotes (tree noted layout conversion)
      (.attribute (.name "cls") "PROPERTY_NAME") .own :=
    denotes_own rfl (by simp [own]) (by decide)
  have values : method.Denotes (tree noted layout conversion)
      (.attribute (.name "cls") "VALUES") .own :=
    denotes_own rfl (by simp [own]) (by decide)
  have lowered : ∀ use ∈ (if conversion.options.caseSensitive then []
      else [((.attribute (.name "text") "lower" : Expr), Meaning.own)]),
      method.Denotes (tree noted layout conversion) use.1 use.2 := by
    intro use mem
    split at mem
    · cases mem
    · rw [List.mem_singleton.1 mem]
      exact denotes_own rfl (by simp [own]) (by decide)
  have compared : decodedName conversion.options ∈ method.variables ∧
      ['_', '_'].isPrefixOf (decodedName conversion.options).toList = false := by
    rw [own, decodedName]
    cases conversion.options.caseSensitive <;> decide
  have error : method.Denotes (tree noted layout conversion) (builtinUse "ValueError").1
      (builtinUse "ValueError").2 ↔ _ :=
    builtinUse_iff inModule own "ValueError" (by
      cases conversion.options.caseSensitive <;> decide) rfl (by decide)
  rw [uses, List.forall_mem_append, List.forall_mem_append,
    memberUses_iff inModule owner compared.1 compared.2, own, and_iff_right lowered]
  simp only [List.forall_mem_cons, List.not_mem_nil, false_implies, implies_true, ownUse, classUse,
    text, property, values, and_true, error]

theorem default_uses_iff (own : method.variables = ["cls", "obj"]) :
    (∀ use ∈ uses conversion "default",
        method.Denotes (tree noted layout conversion) use.1 use.2) ↔
      CanRefer conversion.target ["cls", "obj"] (enumName conversion.target) ∧
      ∀ id ∈ ["isinstance", "type", "TypeError"], IsFree conversion.target id := by
  have object : method.Denotes (tree noted layout conversion) (.name "obj") .own :=
    denotes_own rfl (by simp [own]) (by decide)
  have encode : method.Denotes (tree noted layout conversion)
      (.attribute (.name "cls") "encode") .own :=
    denotes_own rfl (by simp [own]) (by decide)
  simp only [uses, List.forall_mem_cons, List.not_mem_nil, false_implies, implies_true, ownUse,
    classUse, object, encode, denotes_enum_iff inModule owner rfl, own, and_true, true_and,
    builtinUse_iff inModule own "isinstance" (by decide) rfl (by decide),
    builtinUse_iff inModule own "type" (by decide) rfl (by decide),
    builtinUse_iff inModule own "TypeError" (by decide) rfl (by decide)]
  tauto

end

theorem dumps_uses_iff (helpers : layout.jsonHelpers = true)
    (own : method.variables = ["cls", "value"]) :
    (∀ use ∈ uses conversion "dumps",
        method.Denotes (tree noted layout conversion) use.1 use.2) ↔
      IsFree conversion.target "json" := by
  have value : method.Denotes (tree noted layout conversion) (.name "value") .own :=
    denotes_own rfl (by simp [own]) (by decide)
  have encode : method.Denotes (tree noted layout conversion)
      (.attribute (.name "cls") "encode") .own :=
    denotes_own rfl (by simp [own]) (by decide)
  have dumps : method.Denotes (tree noted layout conversion)
      (.attribute (.name "json") "dumps") (.module "json") ↔ _ :=
    denotes_json_iff inModule helpers (by simp [own]) rfl
  simp only [uses, List.forall_mem_cons, List.not_mem_nil, false_implies, implies_true, jsonUse,
    ownUse, classUse, value, encode, dumps, and_true]

theorem loads_uses_iff (helpers : layout.jsonHelpers = true)
    (own : method.variables = ["cls", "data", "text"]) :
    (∀ use ∈ uses conversion "loads",
        method.Denotes (tree noted layout conversion) use.1 use.2) ↔
      ∀ id ∈ ["json", "isinstance", "str", "ValueError", "type"], IsFree conversion.target id := by
  have data : method.Denotes (tree noted layout conversion) (.name "data") .own :=
    denotes_own rfl (by simp [own]) (by decide)
  have text : method.Denotes (tree noted layout conversion) (.name "text") .own :=
    denotes_own rfl (by simp [own]) (by decide)
  have property : method.Denotes (tree noted layout conversion)
      (.attribute (.name "cls") "PROPERTY_NAME") .own :=
    denotes_own rfl (by simp [own]) (by decide)
  have decode : method.Denotes (tree noted layout conversion)
      (.attribute (.name "cls") "decode") .own :=
    denotes_own rfl (by simp [own]) (by decide)
  have loads : method.Denotes (tree noted layout conversion)
      (.attribute (.name "json") "loads") (.module "json") ↔ _ :=
    denotes_json_iff inModule helpers (by simp [own]) rfl
  simp only [uses, List.forall_mem_cons, List.not_mem_nil, false_implies, implies_true, jsonUse,
    ownUse, classUse, data, text, property, decode, loads, and_true, true_and,
    builtinUse_iff inModule own "isinstance" (by decide) rfl (by decide),
    builtinUse_iff inModule own "str" (by decide) rfl (by decide),
    builtinUse_iff inModule own "ValueError" (by decide) rfl (by decide),
    builtinUse_iff inModule own "type" (by decide) rfl (by decide)]

end

/-! ### The five methods -/

section

variable {layout : Layout} {conversion : Conversion} {noted : NotedLines} {bound : List String}
  {name parameter : String} {body : List Stmt}

theorem variables_methodOf (layout : Layout) (target : Target) (bound : List String) (name : String)
    {locals : List String} (binds : (bindingsOf body).map Prod.fst = locals)
    (shared : (parameter :: locals).all fun id => !(['_', '_'].isPrefixOf id.toList)) :
    (methodOf layout target bound name parameter body).variables =
      "cls" :: parameter :: locals := by
  rw [Method.variables, methodOf, binds]
  refine (List.map_congr_left fun id mem => ?_).trans (List.map_id _)
  refine privateName_eq_self ?_ _
  rcases List.mem_cons.1 mem with rfl | mem
  · rfl
  · simpa using List.all_eq_true.1 shared id mem

theorem isMeant_methodOf_iff (free : "classmethod" ∉ bound) :
    IsMeant (tree noted layout conversion) conversion
        (methodOf layout conversion.target bound name parameter body) ↔
      "classmethod" ≠ enumId conversion.target ∧
      ∀ use ∈ uses conversion name,
        (methodOf layout conversion.target bound name parameter body).Denotes
          (tree noted layout conversion) use.1 use.2 := by
  have inner : (bound.map (·, Meaning.made)).reverse.lookup "classmethod" = none := by
    rw [Entries.lookup_eq_none_iff]
    simpa using free
  have meaning : (methodOf layout conversion.target bound name parameter body).decoratorMeaning?
      (.name "classmethod") =
        some (if "classmethod" = enumId conversion.target then enumMeaning conversion.target
          else .builtin) := by
    rw [Method.decoratorMeaning?, methodOf, privateName_eq_self rfl, List.reverse_append,
      List.lookup_append, inner, outerScope, List.reverse_append]
    simp only [List.reverse_cons, List.reverse_nil, List.nil_append, List.cons_append,
      Entries.lookup_cons_eq, Option.none_or]
    split
    · rename_i exports
      exact absurd exports (by decide)
    · split
      · rfl
      · exact congrArg some ((fixedScope_lookup layout "classmethod").trans (by simp))
  constructor
  · rintro ⟨names, decorators⟩
    refine ⟨fun same => ?_, names⟩
    have builtin := (decorators _ (List.mem_singleton.2 rfl)).symm.trans meaning
    rw [if_pos same] at builtin
    cases builtin
  · rintro ⟨other, names⟩
    refine ⟨names, fun decorator mem => ?_⟩
    rw [List.mem_singleton.1 mem, meaning, if_neg other]

variable (inModule : conversion.target.enumModule ≠ "")
include inModule

theorem bound_iff :
    (∀ binding ∈ bindingsOf (tree noted layout conversion), binding.1 ≠ "__debug__") ↔
      IsFree conversion.target "__debug__" := by
  have fixed : ∀ binding ∈ fixedScope layout, binding.1 ≠ "__debug__" := by
    unfold fixedScope
    cases layout.jsonHelpers <;> simp
  rw [bindingsOf_tree noted inModule, outerScope, List.forall_mem_append, List.forall_mem_append,
    and_iff_right fixed]
  simp [IsFree, ne_comm]

theorem isMeant_encode_iff (free : "classmethod" ∉ bound) :
    IsMeant (tree noted layout conversion) conversion
        (methodOf layout conversion.target bound "encode" "value" (encodeStmts conversion)) ↔
      "classmethod" ≠ enumId conversion.target ∧
      (∀ member ∈ conversion.visibleMembers,
        CanRefer conversion.target ["cls", "value"] (memberName conversion member)) ∧
      IsFree conversion.target "ValueError" := by
  rw [isMeant_methodOf_iff free]
  exact and_congr_right fun _ => encode_uses_iff inModule rfl
    (variables_methodOf layout _ bound _ (by rw [bindingsOf_encodeStmts]; rfl) rfl)

theorem isMeant_decode_iff (free : "classmethod" ∉ bound) (line : Nat) :
    IsMeant (tree noted layout conversion) conversion
        (methodOf layout conversion.target bound "decode" "text" (decodeStmts line conversion)) ↔
      "classmethod" ≠ enumId conversion.target ∧
      (∀ member ∈ conversion.visibleMembers,
        CanRefer conversion.target
          ("cls" :: "text" :: if conversion.options.caseSensitive then [] else ["key"])
          (memberName conversion member)) ∧
      IsFree conversion.target "ValueError" := by
  rw [isMeant_methodOf_iff free]
  refine and_congr_right fun _ => decode_uses_iff inModule rfl
    (variables_methodOf layout _ bound _ ?_ ?_)
  · rw [bindingsOf_decodeStmts]
    split <;> rfl
  · split <;> rfl

theorem isMeant_dumps_iff (helpers : layout.jsonHelpers = true) (free : "classmethod" ∉ bound) :
    IsMeant (tree noted layout conversion) conversion
        (methodOf layout conversion.target bound "dumps" "value" dumpsStmts) ↔
      "classmethod" ≠ enumId conversion.target ∧ IsFree conversion.target "json" := by
  rw [isMeant_methodOf_iff free]
  exact and_congr_right fun _ => dumps_uses_iff inModule helpers
    (variables_methodOf layout _ bound _ rfl rfl)

theorem isMeant_loads_iff (helpers : layout.jsonHelpers = true) (free : "classmethod" ∉ bound)
    (line : Nat) :
    IsMeant (tree noted layout conversion) conversion
        (methodOf layout conversion.target bound "loads" "data" (loadsStmts line)) ↔
      "classmethod" ≠ enumId conversion.target ∧
      ∀ id ∈ ["json", "isinstance", "str", "ValueError", "type"], IsFree conversion.target id := by
  rw [isMeant_methodOf_iff free]
  exact and_congr_right fun _ => loads_uses_iff inModule helpers
    (variables_methodOf layout _ bound _ rfl rfl)

theorem isMeant_default_iff (free : "classmethod" ∉ bound) :
    IsMeant (tree noted layout conversion) conversion
        (methodOf layout conversion.target bound "default" "obj"
          (defaultStmts (enumName conversion.target))) ↔
      "classmethod" ≠ enumId conversion.target ∧
      CanRefer conversion.target ["cls", "obj"] (enumName conversion.target) ∧
      ∀ id ∈ ["isinstance", "type", "TypeError"], IsFree conversion.target id := by
  rw [isMeant_methodOf_iff free]
  exact and_congr_right fun _ => default_uses_iff inModule rfl
    (variables_methodOf layout _ bound _ rfl rfl)

theorem helperMethods_iff (decorator : "classmethod" ≠ enumId conversion.target)
    (error : IsFree conversion.target "ValueError") (line : Nat) :
    (∀ method ∈ helperMethods layout conversion.target line,
        IsMeant (tree noted layout conversion) conversion method) ↔
      (layout.jsonHelpers = true →
        CanRefer conversion.target ["cls", "obj"] (enumName conversion.target) ∧
        ∀ id ∈ ["json", "isinstance", "str", "type", "TypeError"], IsFree conversion.target id) := by
  unfold helperMethods
  cases helpers : layout.jsonHelpers with
  | false => simp
  | true =>
    rw [if_pos rfl, List.forall_mem_cons, List.forall_mem_cons, List.forall_mem_singleton,
      isMeant_dumps_iff inModule helpers (by decide),
      isMeant_loads_iff inModule helpers (by decide), isMeant_default_iff inModule (by decide)]
    simp only [List.forall_mem_cons, List.not_mem_nil, false_implies, implies_true, and_true,
      forall_const]
    constructor
    · rintro ⟨⟨-, json⟩, ⟨-, -, isinstance, str, -, type⟩, -, refers, -, -, typeError⟩
      exact ⟨refers, json, isinstance, str, type, typeError⟩
    · rintro ⟨refers, json, isinstance, str, type, typeError⟩
      exact ⟨⟨decorator, json⟩, ⟨decorator, json, isinstance, str, error, type⟩, decorator, refers,
        isinstance, type, typeError⟩

/-- **Nothing else is looked up**: the dotted names of each method are those with a meaning. -/
theorem bodyPlaces_methods :
    ∀ method ∈ methods (tree noted layout conversion),
      bodyPlaces method.body = (uses conversion method.name).map Prod.fst := by
  rw [methods_tree noted inModule, List.forall_mem_cons, List.forall_mem_cons]
  refine ⟨bodyPlaces_encodeStmts, bodyPlaces_decodeStmts _, ?_⟩
  unfold helperMethods
  split
  · rw [List.forall_mem_cons, List.forall_mem_cons, List.forall_mem_singleton]
    exact ⟨rfl, rfl, bodyPlaces_defaultStmts⟩
  · exact nofun

/-- **The names of a converter stand for what is meant by them** if and only if those from the source
get in the way of nothing. -/
theorem isMeant_iff :
    ((∀ binding ∈ bindingsOf (tree noted layout conversion), binding.1 ≠ "__debug__") ∧
      ∀ method ∈ methods (tree noted layout conversion),
        IsMeant (tree noted layout conversion) conversion method) ↔
      NamesApart layout conversion := by
  rw [bound_iff inModule, methods_tree noted inModule, List.forall_mem_cons, List.forall_mem_cons,
    isMeant_encode_iff inModule (by decide), isMeant_decode_iff inModule (by decide)]
  constructor
  · rintro ⟨debug, ⟨decorator, encode, error⟩, ⟨-, decode, -⟩, helpers⟩
    rw [helperMethods_iff inModule decorator error] at helpers
    refine ⟨encode, decode, fun some => (helpers some).1, ?_, decorator⟩
    rw [fixedNames, List.forall_mem_cons, List.forall_mem_cons]
    refine ⟨debug, error, ?_⟩
    split
    · rename_i some
      exact (helpers some).2
    · exact nofun
  · rintro ⟨encode, decode, default, fixed, decorator⟩
    rw [fixedNames, List.forall_mem_cons, List.forall_mem_cons] at fixed
    obtain ⟨debug, error, others⟩ := fixed
    refine ⟨debug, ⟨decorator, encode, error⟩, ⟨decorator, decode, error⟩, ?_⟩
    rw [helperMethods_iff inModule decorator error]
    intro some
    rw [if_pos some] at others
    exact ⟨default some, others⟩

end

end EnumCodec.PythonConverter
