import EnumCodec.Declaration.Reading
import EnumCodec.Proofs.Activity
import Mathlib.Data.List.Basic
import Mathlib.Data.List.Nodup
import Mathlib.Data.List.Perm.Subperm

/-!
# EnumCodec.Proofs.Declaration.Members

**The members that are reported and those that an enum has.** When the body of an enum runs, each of its
assignments binds names to values, and the enum turns some of the names into members. Here both are
spelled out for bodies that assign constants. The reading of declarations sees only names that are
targets themselves, and of the names to be ignored only those that a plain assignment lists. So it
reports what the enum has only under conditions, which are given exactly.
-/

namespace EnumCodec.Declaration

open Activity Source

/-! ### What a body binds -/

/-- How a name is bound. -/
inductive BindingForm where
  /-- The name is a target of an assignment. -/
  | plain
  /-- The name stands in a tuple or list of targets. -/
  | unpacked
  /-- The name has an annotation. -/
  | annotated
deriving DecidableEq, Repr

/-- A name that is bound to a value. -/
structure Binding where
  name : String
  value : Value
  form : BindingForm

/-- The value of a constant. A call is none, even that of `set`. -/
def constant? : Expr → Option Value
  | .call .. => none
  | e => (literalValue e).toOption

section Order

-- In which order a set gives its items is not known.
variable (order : List Value → List Value)

/-- The items into which a value is unpacked. -/
def unpacked? : Value → Option (List Value)
  | .tuple items => some items
  | .list items => some items
  | .text value => some (value.toList.map fun c => .text (String.singleton c))
  | .bytes value => some (value.map fun byte => .int byte.toNat)
  | .set items => some (order items)
  | .dict entries => some (entries.map (·.1))
  | _ => none

mutual

/-- The names that a target binds to a value, or to parts of it. Only names, and tuples and lists of
them, bind names. -/
def bindTarget : Expr → Value → Option (List (String × Value))
  | .name id, value => some [(id, value)]
  | .tuple targets, value => do bindTargets targets (← unpacked? order value)
  | .list targets, value => do bindTargets targets (← unpacked? order value)
  | _, _ => none

/-- The names that targets bind to items. A target with a star takes the items that the ones behind it
leave. -/
def bindTargets : List Expr → List Value → Option (List (String × Value))
  | [], [] => some []
  | .starred target :: rest, items =>
    let taken := items.length - rest.length
    if rest.length ≤ items.length then do
      let first ← bindTarget target (.list (items.take taken))
      return first ++ (← bindTargets rest (items.drop taken))
    else none
  | target :: rest, item :: items => do
    let first ← bindTarget target item
    return first ++ (← bindTargets rest items)
  | _, _ => none

end

/-- The bindings of one target of an assignment. -/
def boundByTarget (value : Value) : Expr → Option (List Binding)
  | .name id => some [⟨id, value, .plain⟩]
  | target => (bindTarget order target value).map fun bound =>
      bound.map fun (name, value) => ⟨name, value, .unpacked⟩

/-- The bindings of a statement, if it is an assignment of a constant. The targets of an assignment are
bound from the first to the last, and an annotation without a value binds nothing. -/
def boundBy : Stmt → Option (List Binding)
  | .assign _ targets e => do
    let value ← constant? e
    return (← targets.mapM (boundByTarget order value)).flatten
  | .annotated _ (.name _) _ none => some []
  | .annotated _ (.name id) _ (some e) => do
    let value ← constant? e
    return [⟨id, value, .annotated⟩]
  | _ => none

/-- The bindings of a body in the order in which they are made, if it consists of assignments of
constants. -/
def bindingsIn (body : List Stmt) : Option (List Binding) := do
  return (← body.mapM (boundBy order)).flatten

end Order

/-! ### What an enum makes of them -/

/-- A name with two underscores on both sides of something else. -/
def isDunder (name : String) : Bool :=
  let chars := name.toList
  4 < chars.length && ['_', '_'].isPrefixOf chars && ['_', '_'].isPrefixOf chars.reverse &&
    chars[2]? != some '_' && chars.reverse[2]? != some '_'

/-- A name with one underscore on both sides of something else. -/
def isSunder (name : String) : Bool :=
  let chars := name.toList
  2 < chars.length && chars.head? == some '_' && chars.getLast? == some '_' &&
    chars[1]? != some '_' && chars.reverse[1]? != some '_'

/-- A name that is private to a class: it begins with two underscores and does not end with two. It is
rewritten with the name of the class before it, and may be written so. -/
def isClassPrivate (className name : String) : Bool :=
  let chars := name.toList
  let mark := '_' :: className.toList.dropWhile (· == '_') ++ ['_', '_']
  (['_', '_'].isPrefixOf chars || mark.isPrefixOf chars) && !(['_', '_'].isPrefixOf chars.reverse)

/-- Is a name set apart by an enum, so that it makes no member? -/
def isSetApart (className name : String) : Bool :=
  isDunder name || isSunder name || isClassPrivate className name

/-- The names that a value lists: the words of a text, between blanks and commas, or the texts in a list
or tuple. -/
def listedNames? : Value → Option (List String)
  | .text names =>
    some ((Text.blankWords (names.toList.map fun c => if c = ',' then ' ' else c)).map String.ofList)
  | .list items => some (textsOf items)
  | .tuple items => some (textsOf items)
  | _ => none

/-- **The bindings that an enum turns into members**, while it ignores some names. A binding of
`_ignore_` says which names are ignored from then on. -/
def madeMembers (className : String) : (ignored : List String) → List Binding → List Binding
  | _, [] => []
  | ignored, bound :: rest =>
    if bound.name = "_ignore_" then
      madeMembers className ((listedNames? bound.value).getD []) rest
    else if isSetApart className bound.name || ignored.contains bound.name then
      madeMembers className ignored rest
    else bound :: madeMembers className ignored rest

/-- The names of the members of an enum in the order in which they are bound. -/
def memberNames (className : String) (bindings : List Binding) : List String :=
  (madeMembers className [] bindings).map (·.name)

/-- **What an enum demands of the bindings**, as far as it matters to what is reported: the names to be
ignored are listed in a text, a list or a tuple, and no member is bound again. -/
structure IsAccepted (className : String) (bindings : List Binding) : Prop where
  lists : ∀ bound ∈ bindings, bound.name = "_ignore_" → (listedNames? bound.value).isSome
  once : ((bindings.filter fun bound =>
    (memberNames className bindings).contains bound.name).map (·.name)).Nodup

/-! ### What is reported -/

/-- Does a binding say by a plain assignment which names are ignored? -/
def isPlainIgnore (bound : Binding) : Bool :=
  bound.name == "_ignore_" && bound.form == .plain

/-- The names that are taken to be ignored: those that the first plain assignment to `_ignore_`
lists. -/
def collectedNames (bindings : List Binding) : List String :=
  ((bindings.find? isPlainIgnore).bind fun bound => listedNames? bound.value).getD []

/-- Is a binding reported as that of a member, given the names that are taken to be ignored? -/
def isReported (ignored : List String) (bound : Binding) : Bool :=
  bound.form != .unpacked && (!isReserved bound.name && !ignored.contains bound.name)

/-- The names that are reported with a value. -/
def reportedNames (members : List Member) : List String :=
  (members.filter (·.hasValue)).map (·.name)

theorem reportedNames_append (members more : List Member) :
    reportedNames (members ++ more) = reportedNames members ++ reportedNames more := by
  simp [reportedNames]

/-- A constant makes a member of each name to which it is assigned. -/
theorem makesMember_of_constant {e : Expr} {value : Value} (constant : constant? e = some value)
    (aliases : Aliases) : makesMember aliases e = true := by
  unfold constant? at constant
  split at constant
  · cases constant
  · next notCall =>
    unfold makesMember
    split
    · -- A function without a name is no literal.
      simp [literalValue, signedNumber, unsignedNumber, Except.toOption] at constant
    · exact absurd rfl (notCall _ _ _)
    · rfl

theorem literalValue_of_constant {e : Expr} {value : Value} (constant : constant? e = some value) :
    literalValue e = .ok value := by
  unfold constant? at constant
  split at constant
  · cases constant
  · exact result_toOption_eq_some.1 constant

variable {order : List Value → List Value} {aliases : Aliases} {ignored : List String}

/-- A constant that is assigned to a name makes a member unless the name is set apart. -/
theorem isMember_eq_isReported {e : Expr} {value : Value} (constant : constant? e = some value)
    (id : String) {form : BindingForm} (direct : form ≠ .unpacked) :
    isMember aliases ignored id e = isReported ignored ⟨id, value, form⟩ := by
  have seen : (form != .unpacked) = true := bne_iff_ne.2 direct
  simp only [isMember, isReported, makesMember_of_constant constant, seen, Bool.and_true, Bool.true_and]

/-- What stands in a tuple or list of targets is not reported. -/
theorem filter_unpacked (bound : List (String × Value)) :
    (bound.map fun (name, value) => Binding.mk name value .unpacked).filter (isReported ignored) =
      [] := by
  rw [List.filter_eq_nil_iff]
  rintro _ mem
  obtain ⟨_, -, rfl⟩ := List.mem_map.1 mem
  simp [isReported]

/-- What is reported of the targets of an assignment. -/
theorem reported_targets {e : Expr} {value : Value} (line : Nat) (constant : constant? e = some value)
    {targets : List Expr} {groups : List (List Binding)}
    (bound : targets.mapM (boundByTarget order value) = some groups) :
    reportedNames (targets.filterMap fun
        | .name id => some { name := id, hasValue := isMember aliases ignored id e, line }
        | _ => none) = (groups.flatten.filter (isReported ignored)).map (·.name) := by
  induction targets generalizing groups with
  | nil =>
    cases bound
    rfl
  | cons target rest ih =>
    rw [List.mapM_cons] at bound
    obtain ⟨first, here, bound⟩ := Option.bind_eq_some_iff.1 bound
    obtain ⟨others, there, bound⟩ := Option.bind_eq_some_iff.1 bound
    cases bound
    rw [List.flatten_cons, List.filter_append, List.map_append, ← ih there, List.filterMap_cons]
    unfold boundByTarget at here
    split at here
    · next id =>
      cases here
      -- A name is reported by its own.
      have same : isMember aliases ignored id e = isReported ignored ⟨id, value, .plain⟩ :=
        isMember_eq_isReported constant id (by decide)
      cases reported : isReported ignored ⟨id, value, .plain⟩ <;>
        simp [reportedNames, same, reported]
    · next other =>
      obtain ⟨names, -, rfl⟩ := Option.map_eq_some_iff.1 here
      rw [filter_unpacked, List.map_nil, List.nil_append]

/-- **What is reported of a statement** is what it binds, but for what is unpacked and what is set
apart. -/
theorem reported_membersOf {statement : Stmt} {bindings : List Binding} {members : List Member}
    (bound : boundBy order statement = some bindings)
    (read : membersOf aliases ignored statement = .ok members) :
    reportedNames members = (bindings.filter (isReported ignored)).map (·.name) := by
  unfold boundBy at bound
  split at bound
  · next line targets e =>
    obtain ⟨value, constant, bound⟩ := Option.bind_eq_some_iff.1 bound
    obtain ⟨groups, each, bound⟩ := Option.bind_eq_some_iff.1 bound
    cases bound
    cases read
    exact reported_targets line constant each
  · cases bound
    obtain ⟨attributes, -, read⟩ := result_bind_eq_ok.1 read
    cases read
    rfl
  · next line id annotation e =>
    obtain ⟨value, constant, bound⟩ := Option.bind_eq_some_iff.1 bound
    cases bound
    obtain ⟨attributes, -, read⟩ := result_bind_eq_ok.1 read
    cases read
    have same : isMember aliases ignored id e = isReported ignored ⟨id, value, .annotated⟩ :=
      isMember_eq_isReported constant id (by decide)
    cases reported : isReported ignored ⟨id, value, .annotated⟩ <;>
      simp [reportedNames, same, reported]
  · cases bound

/-- What is reported of a whole body. -/
theorem reported_body {body : List Stmt} {groups : List (List Binding)} {members : List (List Member)}
    (bound : body.mapM (boundBy order) = some groups)
    (read : body.mapM (membersOf aliases ignored) = .ok members) :
    reportedNames members.flatten = (groups.flatten.filter (isReported ignored)).map (·.name) := by
  induction body generalizing groups members with
  | nil =>
    cases bound
    cases read
    rfl
  | cons statement rest ih =>
    rw [List.mapM_cons] at bound read
    obtain ⟨first, here, bound⟩ := Option.bind_eq_some_iff.1 bound
    obtain ⟨others, there, bound⟩ := Option.bind_eq_some_iff.1 bound
    obtain ⟨first', here', read⟩ := result_bind_eq_ok.1 read
    obtain ⟨others', there', read⟩ := result_bind_eq_ok.1 read
    cases bound
    cases read
    rw [List.flatten_cons, List.flatten_cons, reportedNames_append, List.filter_append,
      List.map_append, reported_membersOf here here', ih there there']

/-! ### The names that are ignored -/

/-- The targets of an assignment bind `_ignore_` plainly if it is one of them. -/
theorem find?_targets {value : Value} {targets : List Expr} {groups : List (List Binding)}
    (bound : targets.mapM (boundByTarget order value) = some groups) :
    groups.flatten.find? isPlainIgnore =
      if assigns "_ignore_" targets then some ⟨"_ignore_", value, .plain⟩ else none := by
  induction targets generalizing groups with
  | nil =>
    cases bound
    rfl
  | cons target rest ih =>
    rw [List.mapM_cons] at bound
    obtain ⟨first, here, bound⟩ := Option.bind_eq_some_iff.1 bound
    obtain ⟨others, there, bound⟩ := Option.bind_eq_some_iff.1 bound
    cases bound
    rw [List.flatten_cons, List.find?_append, ih there]
    unfold boundByTarget at here
    split at here
    · next id =>
      cases here
      by_cases ignore : id = "_ignore_" <;> simp [assigns, isPlainIgnore, ignore]
    · next other =>
      obtain ⟨names, -, rfl⟩ := Option.map_eq_some_iff.1 here
      have unseen : (names.map fun (name, value) => Binding.mk name value .unpacked).find?
          isPlainIgnore = none := by
        rw [List.find?_eq_none]
        intro bound mem
        obtain ⟨_, -, rfl⟩ := List.mem_map.1 mem
        simp [isPlainIgnore]
      have same : assigns "_ignore_" (target :: rest) = assigns "_ignore_" rest := by
        cases target with
        | name id => exact absurd rfl (other id)
        | _ => rfl
      rw [unseen, Option.none_or, same]

/-- The names that are collected are those that the first plain assignment lists. -/
theorem ignoredNames_eq_collectedNames {body : List Stmt} {groups : List (List Binding)}
    (bound : body.mapM (boundBy order) = some groups)
    (lists : ∀ bound ∈ groups.flatten, bound.name = "_ignore_" →
      (listedNames? bound.value).isSome) :
    ignoredNames body = .ok (collectedNames groups.flatten) := by
  induction body generalizing groups with
  | nil =>
    cases bound
    rfl
  | cons statement rest ih =>
    rw [List.mapM_cons] at bound
    obtain ⟨first, here, bound⟩ := Option.bind_eq_some_iff.1 bound
    obtain ⟨others, there, bound⟩ := Option.bind_eq_some_iff.1 bound
    cases bound
    rw [List.flatten_cons] at lists ⊢
    have later := ih there fun bound mem => lists bound (List.mem_append_right first mem)
    -- A statement that does not bind the name plainly is passed over.
    have passed (none : first.find? isPlainIgnore = none) :
        collectedNames (first ++ others.flatten) = collectedNames others.flatten := by
      rw [collectedNames, List.find?_append, none, Option.none_or, collectedNames]
    unfold boundBy at here
    split at here
    · next line targets e =>
      obtain ⟨value, constant, here⟩ := Option.bind_eq_some_iff.1 here
      obtain ⟨groups, each, here⟩ := Option.bind_eq_some_iff.1 here
      cases here
      have found := find?_targets each
      unfold ignoredNames
      split
      · next plain =>
        rw [if_pos plain] at found
        have mem := List.mem_of_find?_eq_some found
        obtain ⟨names, listed⟩ := Option.isSome_iff_exists.1 (lists _ (List.mem_append_left _ mem) rfl)
        dsimp only at listed
        rw [collectedNames, List.find?_append, found, literal?, literalValue_of_constant constant]
        simp only [Option.some_or, Option.bind_some, listed, Option.getD_some]
        unfold listedNames? at listed
        split at listed <;> cases listed <;> rfl
      · next plain =>
        rw [if_neg plain] at found
        rw [later, passed found]
    · cases here
      rw [ignoredNames, later, passed rfl]
      exact nofun
    · obtain ⟨value, -, here⟩ := Option.bind_eq_some_iff.1 here
      cases here
      rw [ignoredNames, later, passed (by simp [isPlainIgnore])]
      exact nofun
    · cases here

/-! ### Agreement -/

/-- The bindings that make members are some of all, in order. -/
theorem madeMembers_sublist (className : String) (ignored : List String) (bindings : List Binding) :
    (madeMembers className ignored bindings).Sublist bindings := by
  induction bindings generalizing ignored with
  | nil => exact List.Sublist.slnil
  | cons bound rest ih =>
    rw [madeMembers]
    split
    · exact (ih _).cons bound
    · split
      · exact (ih _).cons bound
      · exact (ih _).cons_cons bound

/-- A part of a list in which its items do not come again is told by its items. -/
theorem eq_filter_of_sublist {part all : List String} (sub : part.Sublist all)
    (once : (all.filter (part.contains ·)).Nodup) : part = all.filter (part.contains ·) := by
  have self : part.filter (part.contains ·) = part := List.filter_eq_self.2 fun _ => by simp
  have inside : part.Sublist (all.filter (part.contains ·)) := by
    have kept := sub.filter (part.contains ·)
    rwa [self] at kept
  have known : all.filter (part.contains ·) ⊆ part := fun item mem => by
    simpa using (List.mem_filter.1 mem).2
  exact inside.eq_of_length_le (once.subperm known).length_le

/-- The names of the members are those that are names of members, each of them once. -/
theorem memberNames_eq_filter {className : String} {bindings : List Binding}
    (accepted : IsAccepted className bindings) :
    memberNames className bindings =
        (bindings.map (·.name)).filter ((memberNames className bindings).contains ·) ∧
      (memberNames className bindings).Nodup := by
  have once :
      ((bindings.map (·.name)).filter ((memberNames className bindings).contains ·)).Nodup := by
    rw [List.filter_map]
    exact accepted.once
  have told : memberNames className bindings = _ :=
    eq_filter_of_sublist ((madeMembers_sublist className [] bindings).map _) once
  refine ⟨told, ?_⟩
  rw [told]
  exact once

/-- **When what is reported are the members**: no member is unpacked, none has a name that is set apart
without need, and of the other names those are members that are not taken to be ignored. -/
structure ReportsMembers (className : String) (bindings : List Binding) : Prop where
  direct : ∀ bound ∈ madeMembers className [] bindings, bound.form ≠ .unpacked
  free : ∀ bound ∈ madeMembers className [] bindings, isReserved bound.name = false
  listed : ∀ bound ∈ bindings, bound.form ≠ .unpacked → isReserved bound.name = false →
    (bound.name ∈ memberNames className bindings ↔ bound.name ∉ collectedNames bindings)

theorem isReported_iff {bound : Binding} :
    isReported ignored bound = true ↔
      bound.form ≠ .unpacked ∧ isReserved bound.name = false ∧ bound.name ∉ ignored := by
  simp [isReported]

/-- **The reported names are those of the members, in order, exactly under these conditions.** -/
theorem reported_eq_memberNames_iff {className : String} {bindings : List Binding}
    (accepted : IsAccepted className bindings) :
    (bindings.filter (isReported (collectedNames bindings))).map (·.name) =
        memberNames className bindings ↔ ReportsMembers className bindings := by
  have made := madeMembers_sublist className [] bindings
  constructor
  · intro same
    -- A member is reported, and by the only binding of its name.
    have reported (bound : Binding) (mem : bound ∈ madeMembers className [] bindings) :
        isReported (collectedNames bindings) bound = true := by
      have named : bound.name ∈ memberNames className bindings := List.mem_map_of_mem mem
      obtain ⟨other, there, name⟩ := List.mem_map.1 (same ▸ named)
      obtain ⟨inside, reported⟩ := List.mem_filter.1 there
      have alone : other = bound := by
        refine List.inj_on_of_nodup_map accepted.once ?_ ?_ name
        · exact List.mem_filter.2 ⟨inside, by simpa [name] using named⟩
        · exact List.mem_filter.2 ⟨made.subset mem, by simpa using named⟩
      exact alone ▸ reported
    refine ⟨fun bound mem => (isReported_iff.1 (reported bound mem)).1,
      fun bound mem => (isReported_iff.1 (reported bound mem)).2.1,
      fun bound mem direct free => ⟨fun named => ?_, fun kept => ?_⟩⟩
    · obtain ⟨other, there, name⟩ := List.mem_map.1 named
      exact name ▸ (isReported_iff.1 (reported other there)).2.2
    · have here := List.mem_filter.2 ⟨mem, isReported_iff.2 ⟨direct, free, kept⟩⟩
      exact same ▸ List.mem_map_of_mem here
  · intro agrees
    -- Both lists are parts of the list of all names, and they have the same items.
    have items (name : String) :
        name ∈ (bindings.filter (isReported (collectedNames bindings))).map (·.name) ↔
          name ∈ memberNames className bindings := by
      constructor
      · intro mem
        obtain ⟨bound, there, rfl⟩ := List.mem_map.1 mem
        obtain ⟨inside, reported⟩ := List.mem_filter.1 there
        obtain ⟨direct, free, kept⟩ := isReported_iff.1 reported
        exact (agrees.listed bound inside direct free).2 kept
      · intro mem
        obtain ⟨bound, there, rfl⟩ := List.mem_map.1 mem
        have inside := made.subset there
        have direct := agrees.direct bound there
        have free := agrees.free bound there
        have kept := (agrees.listed bound inside direct free).1 mem
        exact List.mem_map_of_mem
          (List.mem_filter.2 ⟨inside, isReported_iff.2 ⟨direct, free, kept⟩⟩)
    have contains :
        (((bindings.filter (isReported (collectedNames bindings))).map (·.name)).contains ·) =
          ((memberNames className bindings).contains ·) := by
      funext name
      rw [Bool.eq_iff_iff]
      simpa using items name
    obtain ⟨told, once⟩ := memberNames_eq_filter accepted
    rw [told] at once
    rw [eq_filter_of_sublist (List.filter_sublist.map _) (contains ▸ once), contains]
    exact told.symm

/-- Of bindings that do not say what is ignored, those make members that are not set apart and not
ignored. -/
theorem madeMembers_eq_filter {className : String} {bindings : List Binding}
    (named : ∀ bound ∈ bindings, bound.name ≠ "_ignore_") :
    madeMembers className ignored bindings =
      bindings.filter fun bound => !isSetApart className bound.name && !ignored.contains bound.name := by
  induction bindings with
  | nil => rfl
  | cons bound rest ih =>
    obtain ⟨here, others⟩ := List.forall_mem_cons.1 named
    rw [madeMembers, if_neg here, List.filter_cons, ih others, ← Bool.not_or]
    cases isSetApart className bound.name || ignored.contains bound.name <;> rfl

/-- A body that is read as an enum reads it: nothing is unpacked, the names that are reserved are those
that an enum sets apart, and only the head, by a plain assignment, may say which names are ignored. -/
structure IsSimple (className : String) (bindings : List Binding) : Prop where
  direct : ∀ bound ∈ bindings, bound.form ≠ .unpacked
  spelled : ∀ bound ∈ bindings, isReserved bound.name = isSetApart className bound.name
  head : ∀ bound ∈ bindings.head?, bound.name = "_ignore_" → bound.form = .plain
  tail : ∀ bound ∈ bindings.tail, bound.name ≠ "_ignore_"

theorem IsSimple.filter_isReported {className : String} {bindings : List Binding}
    (simple : IsSimple className bindings) :
    bindings.filter (isReported (collectedNames bindings)) = madeMembers className [] bindings := by
  -- Where no binding says what is ignored, both sides go by the same names.
  have same (ignored : List String) {part : List Binding} (sub : ∀ bound ∈ part, bound ∈ bindings)
      (named : ∀ bound ∈ part, bound.name ≠ "_ignore_") :
      part.filter (isReported ignored) = madeMembers className ignored part := by
    rw [madeMembers_eq_filter named]
    refine List.filter_congr fun bound mem => ?_
    rw [isReported, bne_iff_ne.2 (simple.direct bound (sub bound mem)),
      simple.spelled bound (sub bound mem), Bool.true_and]
  cases bindings with
  | nil => rfl
  | cons bound rest =>
    have later := same (collectedNames (bound :: rest)) (fun _ => List.mem_cons_of_mem bound)
      simple.tail
    by_cases ignore : bound.name = "_ignore_"
    · have plain : isPlainIgnore bound = true := by
        simp [isPlainIgnore, ignore, simple.head bound rfl ignore]
      have listed : collectedNames (bound :: rest) = (listedNames? bound.value).getD [] := by
        rw [collectedNames, List.find?_cons_of_pos plain, Option.bind_some]
      have unseen : isReported (collectedNames (bound :: rest)) bound = false := by
        simp [isReported, ignore, show isReserved "_ignore_" = true by decide]
      rw [List.filter_cons_of_neg (by simp [unseen]), later, madeMembers, if_pos ignore, listed]
    · have named : ∀ other ∈ bound :: rest, other.name ≠ "_ignore_" :=
        List.forall_mem_cons.2 ⟨ignore, simple.tail⟩
      have none : (bound :: rest).find? isPlainIgnore = none :=
        List.find?_eq_none.2 fun other mem => by simp [isPlainIgnore, named other mem]
      rw [collectedNames, none]
      exact same [] (fun _ => id) named

/-- **What is reported of a simple body are its members.** -/
theorem IsSimple.reportsMembers {className : String} {bindings : List Binding}
    (simple : IsSimple className bindings) (accepted : IsAccepted className bindings) :
    ReportsMembers className bindings := by
  rw [← reported_eq_memberNames_iff accepted, simple.filter_isReported]
  rfl

/-- **The members that are reported.** Of a body that assigns constants, the bindings by a plain or an
annotated target are reported whose names are not set apart and not taken to be ignored. These are the
members of the enum, each once and in the order of the body, exactly if no member is unpacked, no
member has a name that is set apart, and of the other names those are taken to be ignored that are no
members. -/
theorem reported_members_iff {order : List Value → List Value} {around : Surroundings}
    {path : List String} {line : Nat} {decorators : List Expr} {body : List Stmt}
    {bindings : List Binding} {enum : EnumDeclaration} (bound : bindingsIn order body = some bindings)
    (accepted : IsAccepted (path.getLastD "") bindings)
    (read : enumOf around path line decorators body = .ok enum) :
    reportedNames enum.members =
        (bindings.filter (isReported (collectedNames bindings))).map (·.name) ∧
      (memberNames (path.getLastD "") bindings).Nodup ∧
      (reportedNames enum.members = memberNames (path.getLastD "") bindings ↔
        ReportsMembers (path.getLastD "") bindings) := by
  obtain ⟨groups, each, same⟩ := Option.bind_eq_some_iff.1 bound
  cases same
  obtain ⟨attributes, -, read⟩ := result_bind_eq_ok.1 read
  obtain ⟨ignored, collected, read⟩ := result_bind_eq_ok.1 read
  obtain ⟨members, listed, read⟩ := result_bind_eq_ok.1 read
  cases read
  rw [ignoredNames_eq_collectedNames each accepted.lists] at collected
  cases collected
  have reported := reported_body each listed
  refine ⟨reported, (memberNames_eq_filter accepted).2, ?_⟩
  rw [reported]
  exact reported_eq_memberNames_iff accepted

/-- A body in which a name is ignored, two names share a value and one has an annotation. -/
def switchBody : List Stmt := [
  .assign 2 [.name "_ignore_"] (.constant (.text "STEP")),
  .assign 3 [.name "STEP"] (.constant (.int 1)),
  .assign 4 [.name "ON", .name "LIT"] (.constant (.int 1)),
  .annotated 5 (.name "OFF") (.name "int") (some (.constant (.int 2)))]

/-- What the body binds. -/
def switchBindings : List Binding := [
  ⟨"_ignore_", .text "STEP", .plain⟩, ⟨"STEP", .int 1, .plain⟩, ⟨"ON", .int 1, .plain⟩,
  ⟨"LIT", .int 1, .plain⟩, ⟨"OFF", .int 2, .annotated⟩]

/-- A body in which two names are bound by unpacking. -/
def colorBody : List Stmt := [
  .assign 2 [.tuple [.name "RED", .name "GREEN"]]
    (.tuple [.constant (.int 1), .constant (.int 2)])]

/-- What this body binds. -/
def colorBindings : List Binding := [⟨"RED", .int 1, .unpacked⟩, ⟨"GREEN", .int 2, .unpacked⟩]

/-- The first body is reported as it is, and of the second nothing is. -/
theorem reported_members_iff_bodies :
    (∃ enum, enumOf ⟨"m", [], none⟩ ["Switch"] 1 [] switchBody = .ok enum ∧
      reportedNames enum.members = ["ON", "LIT", "OFF"] ∧
      reportedNames enum.members = memberNames "Switch" switchBindings) ∧
    ∃ enum, enumOf ⟨"m", [], none⟩ ["Color"] 1 [] colorBody = .ok enum ∧
      reportedNames enum.members = [] ∧
      reportedNames enum.members ≠ memberNames "Color" colorBindings := by
  constructor
  · obtain ⟨enum, read⟩ := Option.isSome_iff_exists.1
      (show (enumOf ⟨"m", [], none⟩ ["Switch"] 1 [] switchBody).toOption.isSome by decide +kernel)
    rw [result_toOption_eq_some] at read
    have accepted : IsAccepted "Switch" switchBindings := ⟨by decide +kernel, by decide +kernel⟩
    have simple : IsSimple "Switch" switchBindings := by constructor <;> decide +kernel
    obtain ⟨reported, -, members⟩ := reported_members_iff
      (show bindingsIn id switchBody = some switchBindings by rfl) (by exact accepted) read
    exact ⟨enum, read, reported, members.2 (simple.reportsMembers accepted)⟩
  · obtain ⟨enum, read⟩ := Option.isSome_iff_exists.1
      (show (enumOf ⟨"m", [], none⟩ ["Color"] 1 [] colorBody).toOption.isSome by decide +kernel)
    rw [result_toOption_eq_some] at read
    obtain ⟨reported, -, members⟩ := reported_members_iff
      (show bindingsIn id colorBody = some colorBindings by rfl)
      ⟨by decide +kernel, by decide +kernel⟩ read
    refine ⟨enum, read, reported, fun same => ?_⟩
    -- Both names are those of members, and both are unpacked.
    exact (members.1 same).direct ⟨"RED", .int 1, .unpacked⟩ List.mem_cons_self rfl

end EnumCodec.Declaration
