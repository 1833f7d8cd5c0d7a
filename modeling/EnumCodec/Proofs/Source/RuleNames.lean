import EnumCodec.Proofs.Source.TokenNames
import EnumCodec.Source.Stmt
import Mathlib

/-!
# EnumCodec.Proofs.Source.RuleNames

**Rules that keep to names.** All names that a rule reads come from tokens, and the names among tokens
are identifiers. A rule is said to be faithful if the value that it reads from such tokens has only
identifiers where it has names, and such tokens are left behind it. What a value has names for is said
once for each type.
-/

set_option mvcgen.warning false

open Std.Do

namespace EnumCodec.Source

open Text (isIdentifier IsDottedName)

/-! ### Values with names -/

/-- The values of a type whose names are as they should be. -/
class Named (α : Type) where
  IsNamed : α → Prop

export Named (IsNamed)

/-- The values of most types have no names that count. -/
instance (priority := low) Named.any {α : Type} : Named α := ⟨fun _ => True⟩

instance : Named String := ⟨fun text => isIdentifier text.toList = true⟩

instance : Named TokenKind := ⟨TokenKind.IsNamed⟩

section Containers

variable {α β : Type} [Named α] [Named β]

instance : Named (Option α) := ⟨fun value => ∀ item, value = some item → IsNamed item⟩

instance : Named (List α) := ⟨fun items => ∀ item ∈ items, IsNamed item⟩

instance : Named (α × β) := ⟨fun pair => IsNamed pair.1 ∧ IsNamed pair.2⟩

@[simp] theorem isNamed_any {γ : Type} (value : γ) : @IsNamed γ Named.any value := trivial

@[simp] theorem isNamed_string (text : String) :
    IsNamed text ↔ isIdentifier text.toList = true := Iff.rfl

@[simp] theorem isNamed_kind (kind : TokenKind) : IsNamed kind ↔ kind.IsNamed := Iff.rfl

@[simp] theorem isNamed_none : IsNamed (none : Option α) := nofun

@[simp] theorem isNamed_some (item : α) : IsNamed (some item) ↔ IsNamed item := by
  simp [IsNamed]

@[simp] theorem isNamed_nil : IsNamed ([] : List α) := nofun

@[simp] theorem isNamed_cons (item : α) (items : List α) :
    IsNamed (item :: items) ↔ IsNamed item ∧ IsNamed items :=
  List.forall_mem_cons

@[simp] theorem isNamed_pair (pair : α × β) :
    IsNamed pair ↔ IsNamed pair.1 ∧ IsNamed pair.2 := Iff.rfl

@[simp] theorem isNamed_dropLast {items : List α} (named : IsNamed items) :
    IsNamed items.dropLast :=
  fun item mem => named item (List.mem_of_mem_dropLast mem)

@[simp] theorem isNamed_flatten {lists : List (List α)} (named : IsNamed lists) :
    IsNamed lists.flatten := by
  intro item mem
  obtain ⟨list, found, mem⟩ := List.mem_flatten.1 mem
  exact named list found item mem

end Containers

/-! ### Expressions with names -/

/-- If the expression is a name, or an attribute of what is one, all its parts are identifiers. -/
def Expr.Spells : Expr → Prop
  | .name id => isIdentifier id.toList = true
  | .attribute object attr => object.Spells ∧ isIdentifier attr.toList = true
  | _ => True

/-- If the expression is a call, so are the parts of its arguments by position. -/
def Expr.ArgumentsSpell : Expr → Prop
  | .call _ args _ => ∀ arg ∈ args, arg.Spells
  | _ => True

instance : Named Expr := ⟨fun e => e.Spells ∧ e.ArgumentsSpell⟩

/-- The names of all other expressions do not count. -/
@[simp] theorem isNamed_other {e : Expr} (noName : ∀ id, e ≠ .name id)
    (noAttribute : ∀ object attr, e ≠ .attribute object attr)
    (noCall : ∀ callee args keywords, e ≠ .call callee args keywords) : IsNamed e := by
  cases e <;> first
    | exact ⟨trivial, trivial⟩
    | exact absurd rfl (noName _)
    | exact absurd rfl (noAttribute _ _)
    | exact absurd rfl (noCall _ _ _)

@[simp] theorem isNamed_name {id : String} (named : isIdentifier id.toList = true) :
    IsNamed (Expr.name id) :=
  ⟨named, trivial⟩

@[simp] theorem isNamed_attribute {object : Expr} {attr : String} (base : IsNamed object)
    (named : isIdentifier attr.toList = true) : IsNamed (Expr.attribute object attr) :=
  ⟨⟨base.1, named⟩, trivial⟩

@[simp] theorem isNamed_call {callee : Expr} {args : List Expr}
    {keywords : List (Option String × Expr)} (named : IsNamed args) :
    IsNamed (Expr.call callee args keywords) :=
  ⟨trivial, fun arg mem => (named arg mem).1⟩

/-! ### Statements with names -/

instance : Named ImportedName :=
  ⟨fun imported => IsDottedName imported.name ∨ imported = ⟨"*", none⟩⟩

@[simp] theorem isNamed_imported {name : String} {other : Option String}
    (named : isIdentifier name.toList = true) : IsNamed (ImportedName.mk name other) :=
  Or.inl (by simpa using Text.isDottedName_of_isIdentifier named)

@[simp] theorem isNamed_importedModule {name : String} {other : Option String}
    (named : IsDottedName name) : IsNamed (ImportedName.mk name other) :=
  Or.inl named

@[simp] theorem isNamed_star : IsNamed (ImportedName.mk "*" none) :=
  Or.inr rfl

mutual

/-- The names that a statement binds are identifiers, and so are those of decorators and base
classes. -/
def Stmt.HasNames : Stmt → Prop
  | .assign _ targets _ => IsNamed targets
  | .annotated _ target _ _ => IsNamed target
  | .classDef _ name decorators bases _ body =>
    isIdentifier name.toList = true ∧ IsNamed decorators ∧ IsNamed bases ∧ allHaveNames body
  | .importModules names => IsNamed names
  | .importFrom module names _ =>
    (∀ name, module = some name → IsDottedName name) ∧ IsNamed names
  | _ => True

/-- The names that statements bind are identifiers, and so are those of decorators and base classes. -/
def allHaveNames : List Stmt → Prop
  | [] => True
  | statement :: rest => statement.HasNames ∧ allHaveNames rest

end

instance : Named Stmt := ⟨Stmt.HasNames⟩

theorem allHaveNames_iff {body : List Stmt} : allHaveNames body ↔ IsNamed body := by
  induction body with
  | nil => simp [allHaveNames]
  | cons statement rest ih =>
    exact (and_congr_right' ih).trans (isNamed_cons statement rest).symm

@[simp] theorem isNamed_assign {line : Nat} {targets : List Expr} {value : Expr} :
    IsNamed (Stmt.assign line targets value) ↔ IsNamed targets := Iff.rfl

@[simp] theorem isNamed_annotated {line : Nat} {target annotation : Expr} {value : Option Expr} :
    IsNamed (Stmt.annotated line target annotation value) ↔ IsNamed target := Iff.rfl

@[simp] theorem isNamed_classDef {line : Nat} {name : String} {decorators bases : List Expr}
    {keywords : List (Option String × Expr)} {body : List Stmt} :
    IsNamed (Stmt.classDef line name decorators bases keywords body) ↔
      isIdentifier name.toList = true ∧ IsNamed decorators ∧ IsNamed bases ∧ IsNamed body :=
  and_congr_right' (and_congr_right' (and_congr_right' allHaveNames_iff))

@[simp] theorem isNamed_importModules {names : List ImportedName} :
    IsNamed (Stmt.importModules names) ↔ IsNamed names := Iff.rfl

@[simp] theorem isNamed_importFrom {module : Option String} {names : List ImportedName}
    {level : Nat} : IsNamed (Stmt.importFrom module names level) ↔
      (∀ name, module = some name → IsDottedName name) ∧ IsNamed names := Iff.rfl

/-- The names of all other statements do not count. -/
@[simp] theorem isNamed_otherStmt {s : Stmt}
    (noAssign : ∀ line targets value, s ≠ .assign line targets value)
    (noAnnotated : ∀ line target annotation value, s ≠ .annotated line target annotation value)
    (noClass : ∀ line name decorators bases keywords body,
      s ≠ .classDef line name decorators bases keywords body)
    (noModules : ∀ names, s ≠ .importModules names)
    (noFrom : ∀ module names level, s ≠ .importFrom module names level) : IsNamed s := by
  cases s <;> first
    | exact trivial
    | exact absurd rfl (noAssign _ _ _)
    | exact absurd rfl (noAnnotated _ _ _ _)
    | exact absurd rfl (noClass _ _ _ _ _ _)
    | exact absurd rfl (noModules _)
    | exact absurd rfl (noFrom _ _ _)

/-! ### Faithful rules -/

/-- What the rule reads from tokens with identifiers for names has a property, and the tokens behind
it are such tokens again. -/
abbrev Yields {α : Type} (property : α → Prop) (rule : Rule α) : Prop :=
  ⦃fun tokens => ⌜AllNamed tokens⌝⦄ rule
  ⦃post⟨fun value tokens => ⌜property value ∧ AllNamed tokens⌝, fun _ => ⌜True⌝⟩⦄

/-- The rule reads values whose names are identifiers. -/
abbrev Faithful {α : Type} [Named α] (rule : Rule α) : Prop :=
  Yields IsNamed rule

section Combinators

variable {α : Type} {property : α → Prop} {rule : Rule α}

/-- The same, said of the tokens before and behind. -/
theorem yields_iff : Yields property rule ↔ ∀ tokens value rest, AllNamed tokens →
    rule tokens = some (value, rest) → property value ∧ AllNamed rest := by
  have run (tokens : List Token) :
      (wp⟦rule⟧ post⟨fun value tokens => ⌜property value ∧ AllNamed tokens⌝, fun _ => ⌜True⌝⟩
        tokens).down ↔
      ∀ value rest, rule tokens = some (value, rest) → property value ∧ AllNamed rest := by
    change (wp⟦rule tokens⟧ post⟨fun result => ⌜property result.1 ∧ AllNamed result.2⌝,
      fun _ => ⌜True⌝⟩).down ↔ _
    cases rule tokens with
    | none => exact ⟨fun _ => nofun, fun _ => trivial⟩
    | some result =>
      change property result.1 ∧ AllNamed result.2 ↔ _
      constructor
      · rintro found value rest ⟨⟩
        exact found
      · exact fun found => found result.1 result.2 rfl
  simp only [Yields, Triple, SPred.entails_1, SPred.down_pure, run]
  exact ⟨fun h tokens value rest named read => h tokens named value rest read,
    fun h tokens named value rest read => h tokens value rest named read⟩

theorem yields_either {first second : Rule α} (one : Yields property first)
    (other : Yields property second) : Yields property (either first second) := by
  rw [yields_iff] at one other ⊢
  intro tokens value rest named read
  unfold either at read
  split at read
  · rename_i found
    exact one tokens value rest named (found.trans read)
  · exact other tokens value rest named read

theorem yields_possibly (reads : Yields property rule) :
    Yields (fun found => ∀ item, found = some item → property item) (possibly rule) := by
  rw [yields_iff] at reads ⊢
  intro tokens value rest named read
  unfold possibly at read
  split at read
  · rename_i item after found
    cases read
    obtain ⟨item, after⟩ := reads _ _ _ named found
    exact ⟨by simpa using item, after⟩
  · cases read
    exact ⟨nofun, named⟩

theorem yields_manyUpTo (reads : Yields property rule) (bound : Nat) :
    Yields (fun items => ∀ item ∈ items, property item) (manyUpTo rule bound) := by
  rw [yields_iff] at reads ⊢
  induction bound with
  | zero =>
    rintro tokens value rest named ⟨⟩
    exact ⟨nofun, named⟩
  | succ bound ih =>
    intro tokens value rest named read
    unfold manyUpTo at read
    split at read
    · cases read
      exact ⟨nofun, named⟩
    · rename_i item after found
      obtain ⟨first, named⟩ := reads _ _ _ named found
      split at read
      · rename_i items last more
        cases read
        obtain ⟨others, named⟩ := ih _ _ _ named more
        exact ⟨List.forall_mem_cons.2 ⟨first, others⟩, named⟩
      · cases read

theorem yields_many (reads : Yields property rule) :
    Yields (fun items => ∀ item ∈ items, property item) (many rule) := by
  have upTo := yields_manyUpTo reads
  simp only [yields_iff] at upTo ⊢
  exact fun tokens => upTo tokens.length tokens

end Combinators

/-! ### Single tokens -/

theorem yields_of_head {property : Option TokenKind → Prop} {rule : Rule (Option TokenKind)}
    (read : ∀ tokens, ∃ kind, rule tokens = some (kind, tokens) ∧
      (AllNamed tokens → property kind)) : Yields property rule := by
  rw [yields_iff]
  intro tokens value rest named found
  obtain ⟨kind, same, holds⟩ := read tokens
  obtain ⟨rfl, rfl⟩ := Prod.mk.inj (Option.some.inj (same.symm.trans found))
  exact ⟨holds named, named⟩

theorem isNamed_head? {tokens : List Token} (named : AllNamed tokens) :
    IsNamed (tokens.head?.map (·.kind)) := by
  cases tokens with
  | nil => exact isNamed_none
  | cons t rest => exact (isNamed_some _).2 (named t List.mem_cons_self)

@[spec] theorem faithful_peek : Faithful peek :=
  yields_of_head fun _ => ⟨_, rfl, isNamed_head?⟩

@[spec] theorem faithful_peekSecond : Faithful peekSecond :=
  yields_of_head fun _ => ⟨_, rfl, fun named => isNamed_head? named.tail⟩

@[spec] theorem faithful_peekLine : Faithful peekLine := by
  apply yields_iff.2
  rintro tokens _ _ named ⟨⟩
  exact ⟨trivial, named⟩

@[spec] theorem faithful_skip : Faithful skip := by
  apply yields_iff.2
  rintro tokens _ _ named ⟨⟩
  exact ⟨trivial, named.tail⟩

@[spec] theorem faithful_token (kind : TokenKind) : Faithful (token kind) := by
  apply yields_iff.2
  intro tokens value rest named read
  cases tokens with
  | nil => cases read
  | cons t after =>
    change (if t.kind = kind then some ((), after) else none) = _ at read
    split at read
    · cases read
      exact ⟨trivial, named.tail⟩
    · cases read

@[spec] theorem faithful_symbol (s : Symbol) : Faithful (symbol s) := faithful_token _

@[spec] theorem faithful_keyword (k : Keyword) : Faithful (keyword k) := faithful_token _

@[spec] theorem faithful_name : Faithful name := by
  apply yields_iff.2
  intro tokens value rest named read
  cases tokens with
  | nil => cases read
  | cons t after =>
    obtain ⟨_, found, ⟨⟩⟩ := Option.map_eq_some_iff.1 read
    exact ⟨named t List.mem_cons_self _ found, named.tail⟩

@[spec] theorem faithful_require (condition : Bool) : Faithful (require condition) := by
  apply yields_iff.2
  intro tokens value rest named read
  unfold require at read
  split at read
  · cases read
    exact ⟨trivial, named⟩
  · cases read

@[spec] theorem faithful_failure {α : Type} [Named α] : Faithful (failure : Rule α) := by
  apply yields_iff.2
  rintro tokens value rest named ⟨⟩

@[spec] theorem faithful_nextIs (kind : TokenKind) : Faithful (nextIs kind) := by
  mvcgen [nextIs]
  simp_all

@[spec] theorem faithful_atSymbol (s : Symbol) : Faithful (atSymbol s) := faithful_nextIs _

@[spec] theorem faithful_atKeyword (k : Keyword) : Faithful (atKeyword k) := faithful_nextIs _

/-! ### Repetition -/

section Repetition

variable {α : Type} [Named α] {rule : Rule α}

@[spec] theorem faithful_either {first second : Rule α} (one : Faithful first) (other : Faithful second) :
    Faithful (either first second) :=
  yields_either one other

@[spec] theorem faithful_possibly (faithful : Faithful rule) : Faithful (possibly rule) :=
  yields_possibly faithful

@[spec] theorem faithful_many (faithful : Faithful rule) : Faithful (many rule) :=
  yields_many faithful

@[spec] theorem faithful_manyOne (faithful : Faithful rule) : Faithful (manyOne rule) := by
  mvcgen [manyOne, faithful] <;> simp_all

@[spec] theorem faithful_separated {separator : Rule Unit} (faithful : Faithful rule)
    (between : Faithful separator) : Faithful (separated rule separator) := by
  mvcgen [separated, faithful, between] <;> simp_all

@[spec] theorem faithful_commaList (faithful : Faithful rule) : Faithful (commaList rule) := by
  mvcgen [commaList, faithful] <;> simp_all

end Repetition

end EnumCodec.Source
