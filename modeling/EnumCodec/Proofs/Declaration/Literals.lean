import EnumCodec.Declaration.Reading
import EnumCodec.Proofs.Activity

/-!
# EnumCodec.Proofs.Declaration.Literals

**What stops the reading of declarations.** Whatever stands in the place of metadata has a value or has
none, and neither ends the reading. There is one exception: an imaginary part that is joined to an
integer beyond the floating-point numbers. Where the reading stops, such an expression is among those
that are evaluated.
-/

namespace EnumCodec.Declaration

open Activity Source Number

/-! ### Evaluating expressions -/

/-- Is the expression an integer, with a sign or without one, beyond the floating-point numbers? -/
def IsTooLarge : Expr → Prop
  | .constant (.int value) => Binary64.ofInt? value = none
  | .unary .plus (.constant (.int value)) => Binary64.ofInt? value = none
  | .unary .minus (.constant (.int value)) => Binary64.ofInt? (-value) = none
  | _ => False

/-- **An expression that joins an imaginary part to an integer beyond the floating-point numbers**, or
a display of literals that holds one. -/
inductive JoinsTooLarge : Expr → Prop where
  | add {left : Expr} {value : Binary64} (large : IsTooLarge left) :
      JoinsTooLarge (.binary left .add (.constant (.imaginary value)))
  | sub {left : Expr} {value : Binary64} (large : IsTooLarge left) :
      JoinsTooLarge (.binary left .sub (.constant (.imaginary value)))
  | tuple {items : List Expr} {item : Expr} (mem : item ∈ items) (joins : JoinsTooLarge item) :
      JoinsTooLarge (.tuple items)
  | list {items : List Expr} {item : Expr} (mem : item ∈ items) (joins : JoinsTooLarge item) :
      JoinsTooLarge (.list items)
  | set {items : List Expr} {item : Expr} (mem : item ∈ items) (joins : JoinsTooLarge item) :
      JoinsTooLarge (.set items)
  | key {entries : List (Option Expr × Expr)} {key value : Expr} (mem : (some key, value) ∈ entries)
      (joins : JoinsTooLarge key) : JoinsTooLarge (.dict entries)
  | value {entries : List (Option Expr × Expr)} {key value : Expr} (mem : (some key, value) ∈ entries)
      (joins : JoinsTooLarge value) : JoinsTooLarge (.dict entries)

theorem unsignedNumber_ne_tooLarge (e : Expr) : unsignedNumber e ≠ .error .integerTooLarge := by
  unfold unsignedNumber
  split <;> simp

theorem signedNumber_ne_tooLarge (e : Expr) : signedNumber e ≠ .error .integerTooLarge := by
  unfold signedNumber
  split
  · exact unsignedNumber_ne_tooLarge _
  · exact mt result_map_eq_error.1 (unsignedNumber_ne_tooLarge _)
  · exact unsignedNumber_ne_tooLarge _

/-- Only an imaginary number without a sign has a complex value. -/
theorem eq_imaginary_of_unsignedNumber {e : Expr} {re im : Binary64}
    (found : unsignedNumber e = .ok (.complex re im)) : e = .constant (.imaginary im) := by
  unfold unsignedNumber at found
  split at found <;> cases found
  rfl

theorem eq_int_of_unsignedNumber {e : Expr} {value : Int}
    (found : unsignedNumber e = .ok (.int value)) : ∃ n : Nat, e = .constant (.int n) ∧ value = n := by
  unfold unsignedNumber at found
  split at found <;> cases found
  exact ⟨_, rfl, rfl⟩

/-- An integer with at most one sign is too large where its value is. -/
theorem isTooLarge_of_signedNumber {e : Expr} {value : Int} (found : signedNumber e = .ok (.int value))
    (large : Binary64.ofInt? value = none) : IsTooLarge e := by
  unfold signedNumber at found
  split at found
  · obtain ⟨n, rfl, rfl⟩ := eq_int_of_unsignedNumber found
    exact large
  · obtain ⟨number, unsigned, same⟩ := result_map_eq_ok.1 found
    cases number <;> cases same
    obtain ⟨n, rfl, rfl⟩ := eq_int_of_unsignedNumber unsigned
    exact large
  · obtain ⟨n, rfl, rfl⟩ := eq_int_of_unsignedNumber found
    exact large

/-- Two numbers are not joined because one is no number of its kind, or because it is too large. -/
theorem isTooLarge_of_joinImaginary {minus : Bool} {left right : Expr}
    (failed : (do joinImaginary minus (← signedNumber left) (← unsignedNumber right)) =
      (.error .integerTooLarge : Except LiteralError Value)) :
    IsTooLarge left ∧ ∃ value, right = .constant (.imaginary value) := by
  rcases result_bind_eq_error.1 failed with first | ⟨a, first, failed⟩
  · exact absurd first (signedNumber_ne_tooLarge left)
  rcases result_bind_eq_error.1 failed with second | ⟨b, second, failed⟩
  · exact absurd second (unsignedNumber_ne_tooLarge right)
  unfold joinImaginary at failed
  split at failed
  · dsimp only at failed
    split at failed
    · split at failed
      · cases failed
      · next large =>
        exact ⟨isTooLarge_of_signedNumber first large, _, eq_imaginary_of_unsignedNumber second⟩
    · cases failed
    · cases failed
  · cases failed

/-- **An expression without a value stops the evaluation only if it joins an imaginary part to a large
integer.** The induction goes along the evaluation, whose four functions call each other. -/
theorem joinsTooLarge_of_literals :
    (∀ e, literalValue e = .error .integerTooLarge → JoinsTooLarge e) ∧
      (∀ known entries, literalEntries known entries = .error .integerTooLarge →
        ∃ key value, (some key, value) ∈ entries ∧ (JoinsTooLarge key ∨ JoinsTooLarge value)) ∧
      (∀ known items, literalItems known items = .error .integerTooLarge →
        ∃ item ∈ items, JoinsTooLarge item) ∧
      ∀ items, literalValues items = .error .integerTooLarge → ∃ item ∈ items, JoinsTooLarge item := by
  apply literalValue.mutual_induct
  case case7 =>
    intro items ih failed
    rw [literalValue, result_map_eq_error] at failed
    obtain ⟨item, mem, joins⟩ := ih failed
    exact .tuple mem joins
  case case8 =>
    intro items ih failed
    rw [literalValue, result_map_eq_error] at failed
    obtain ⟨item, mem, joins⟩ := ih failed
    exact .list mem joins
  case case9 =>
    intro items ih failed
    rw [literalValue, result_map_eq_error] at failed
    obtain ⟨item, mem, joins⟩ := ih failed
    exact .set mem joins
  case case10 =>
    intro entries ih failed
    rw [literalValue, result_map_eq_error] at failed
    obtain ⟨key, value, mem, joins | joins⟩ := ih failed
    · exact .key mem joins
    · exact .value mem joins
  case case12 =>
    intro left right failed
    rw [literalValue] at failed
    obtain ⟨large, value, rfl⟩ := isTooLarge_of_joinImaginary failed
    exact .add large
  case case13 =>
    intro left right failed
    rw [literalValue] at failed
    obtain ⟨large, value, rfl⟩ := isTooLarge_of_joinImaginary failed
    exact .sub large
  case case14 =>
    -- Every other expression is read as a number with one sign at most.
    intro number _ _ _ _ _ _ _ _ _ _ _ _ _ failed
    rw [literalValue] at failed
    · exact absurd failed (signedNumber_ne_tooLarge number)
    all_goals assumption
  case case16 =>
    intro known item rest here others failed
    rw [literalItems] at failed
    rcases result_bind_eq_error.1 failed with first | ⟨value, -, failed⟩
    · exact ⟨item, List.mem_cons_self, here first⟩
    · split at failed
      · obtain ⟨other, mem, joins⟩ := others value failed
        exact ⟨other, List.mem_cons_of_mem item mem, joins⟩
      · cases failed
  case case18 =>
    intro item rest here others failed
    rw [literalValues] at failed
    rcases result_bind_eq_error.1 failed with first | ⟨value, -, failed⟩
    · exact ⟨item, List.mem_cons_self, here first⟩
    · rcases result_bind_eq_error.1 failed with later | ⟨values, -, failed⟩
      · obtain ⟨other, mem, joins⟩ := others later
        exact ⟨other, List.mem_cons_of_mem item mem, joins⟩
      · cases failed
  case case20 =>
    intro known key value rest first second others failed
    rw [literalEntries] at failed
    rcases result_bind_eq_error.1 failed with stopped | ⟨k, -, failed⟩
    · exact ⟨key, value, List.mem_cons_self, .inl (first stopped)⟩
    · rcases result_bind_eq_error.1 failed with stopped | ⟨v, -, failed⟩
      · exact ⟨key, value, List.mem_cons_self, .inr (second stopped)⟩
      · split at failed
        · obtain ⟨other, more, mem, joins⟩ := others k v failed
          exact ⟨other, more, List.mem_cons_of_mem _ mem, joins⟩
        · cases failed
  -- In the other cases there is a value, or there is none for another reason.
  all_goals
    intros
    simp_all [literalValue, literalValues, literalItems, literalEntries]

theorem joinsTooLarge_of_literalValue {e : Expr} (stops : literalValue e = .error .integerTooLarge) :
    JoinsTooLarge e :=
  joinsTooLarge_of_literals.1 e stops

/-! ### Expressions in the place of metadata -/

/-- Does the evaluation of an expression stop the reading? -/
def Stops (e : Expr) : Prop :=
  literalValue e = .error .integerTooLarge

/-- The arguments of a decorator, or of a call in an annotation. -/
def argumentsOf : Expr → List Expr
  | .call _ args keywords =>
    args ++ keywords.filterMap fun keyword => keyword.1.map fun _ => keyword.2
  | _ => []

/-- The arguments of the calls that an annotation carries besides the type. -/
def annotationArguments : Stmt → List Expr
  | .annotated _ _ (.subscript _ (.tuple items)) _ => (items.drop 1).flatMap argumentsOf
  | _ => []

/-- The values that are assigned to a name in a body. -/
def valuesOf (id : String) (body : List Stmt) : List Expr :=
  body.filterMap fun
    | .assign _ targets value => if assigns id targets then some value else none
    | _ => none

mutual

/-- The expressions in the place of metadata of a class and of the classes in its body. -/
def classMetadata : Stmt → List Expr
  | .classDef _ _ decorators _ _ body =>
    decorators.flatMap argumentsOf ++ valuesOf "_ignore_" body ++ body.flatMap annotationArguments ++
      classesMetadata body
  | _ => []

/-- The expressions in the place of metadata of the classes in a body. -/
def classesMetadata : List Stmt → List Expr
  | [] => []
  | statement :: rest => classMetadata statement ++ classesMetadata rest

end

/-- The expressions in the place of metadata of a module: arguments of the decorators of classes and of
calls in annotations, and what is assigned to `__all__` or `_ignore_`. -/
def moduleMetadata (tree : Module) : List Expr :=
  valuesOf "__all__" tree ++ classesMetadata tree

variable {aliases : Aliases} {cause : LiteralError} {e : Expr}

theorem stops_of_literal? (failed : literal? e = .error cause) : Stops e := by
  unfold literal? at failed
  split at failed
  · cases failed
  · cases failed
  · next stops => exact stops

theorem stops_of_argumentValue (failed : argumentValue aliases e = .error cause) : Stops e := by
  unfold argumentValue at failed
  dsimp only at failed
  split at failed
  · cases failed
  · cases failed
  · exact stops_of_literal? (result_map_eq_error.1 failed)

theorem stops_of_keywordValues {known : List (String × Value)} {keywords : List (Option String × Expr)}
    (failed : keywordValues aliases known keywords = .error cause) :
    ∃ key e, (some key, e) ∈ keywords ∧ Stops e := by
  induction keywords generalizing known with
  | nil => cases failed
  | cons keyword rest ih =>
    obtain ⟨_ | key, e⟩ := keyword
    · obtain ⟨key, other, mem, stops⟩ := ih failed
      exact ⟨key, other, List.mem_cons_of_mem _ mem, stops⟩
    · rcases result_bind_eq_error.1 failed with here | ⟨value, -, later⟩
      · exact ⟨key, e, List.mem_cons_self, stops_of_argumentValue here⟩
      · obtain ⟨key, other, mem, stops⟩ := ih later
        exact ⟨key, other, List.mem_cons_of_mem _ mem, stops⟩

theorem stops_of_attributeOf (failed : attributeOf aliases e = .error cause) :
    ∃ argument ∈ argumentsOf e, Stops argument := by
  unfold attributeOf at failed
  dsimp only at failed
  split at failed
  · next callee args keywords =>
    rcases result_bind_eq_error.1 failed with positional | ⟨values, -, failed⟩
    · obtain ⟨argument, mem, stopped⟩ := mem_of_mapM_eq_error positional
      exact ⟨argument, List.mem_append_left _ mem, stops_of_argumentValue stopped⟩
    · rcases result_bind_eq_error.1 failed with named | ⟨known, -, failed⟩
      · obtain ⟨key, argument, mem, stops⟩ := stops_of_keywordValues named
        exact ⟨argument, List.mem_append_right _ (List.mem_filterMap.2 ⟨_, mem, rfl⟩), stops⟩
      · cases failed
  · cases failed

theorem stops_of_attributes {nodes : List Expr}
    (failed : nodes.mapM (attributeOf aliases) = .error cause) :
    ∃ argument ∈ nodes.flatMap argumentsOf, Stops argument := by
  obtain ⟨node, mem, stopped⟩ := mem_of_mapM_eq_error failed
  obtain ⟨argument, there, stops⟩ := stops_of_attributeOf stopped
  exact ⟨argument, List.mem_flatMap.2 ⟨node, mem, there⟩, stops⟩

theorem stops_of_membersOf {ignored : List String} {statement : Stmt}
    (failed : membersOf aliases ignored statement = .error cause) :
    ∃ argument ∈ annotationArguments statement, Stops argument := by
  unfold membersOf at failed
  split at failed
  · cases failed
  · next line id annotation value =>
    rcases result_bind_eq_error.1 failed with attributes | ⟨_, -, failed⟩
    · unfold annotationAttributes at attributes
      split at attributes
      · split at attributes
        · split at attributes
          · obtain ⟨argument, mem, stops⟩ := stops_of_attributes attributes
            refine ⟨argument, ?_, stops⟩
            obtain ⟨node, there, inside⟩ := List.mem_flatMap.1 mem
            exact List.mem_flatMap.2 ⟨node, (List.mem_filter.1 there).1, inside⟩
          · cases attributes
        · cases attributes
      · cases attributes
    · cases failed
  · cases failed

theorem mem_valuesOf_assign {id : String} {line : Nat} {targets : List Expr} {rest : List Stmt}
    (assigned : assigns id targets = true) : e ∈ valuesOf id (.assign line targets e :: rest) := by
  simp [valuesOf, assigned]

theorem mem_valuesOf_cons {id : String} {rest : List Stmt} (statement : Stmt)
    (mem : e ∈ valuesOf id rest) : e ∈ valuesOf id (statement :: rest) := by
  unfold valuesOf at mem ⊢
  rw [List.filterMap_cons]
  split
  · exact mem
  · exact List.mem_cons_of_mem _ mem

/-- A search through a body stops only at a value that is assigned to the name it looks for, if each of
its steps stops there or goes on. -/
theorem stops_of_search {α : Type} {id : String} {search : List Stmt → Except LiteralError α}
    (empty : search [] ≠ .error cause)
    (step : ∀ statement rest, search (statement :: rest) = .error cause →
      (∃ line targets value, statement = .assign line targets value ∧ assigns id targets = true ∧
        literal? value = .error cause) ∨ search rest = .error cause)
    {body : List Stmt} (failed : search body = .error cause) : ∃ e ∈ valuesOf id body, Stops e := by
  induction body with
  | nil => exact absurd failed empty
  | cons statement rest ih =>
    obtain ⟨line, targets, value, rfl, assigned, stopped⟩ | later := step statement rest failed
    · exact ⟨value, mem_valuesOf_assign assigned, stops_of_literal? stopped⟩
    · obtain ⟨e, mem, stops⟩ := ih later
      exact ⟨e, mem_valuesOf_cons statement mem, stops⟩

theorem stops_of_ignoredNames {body : List Stmt} (failed : ignoredNames body = .error cause) :
    ∃ e ∈ valuesOf "_ignore_" body, Stops e := by
  refine stops_of_search (by rintro ⟨⟩) (fun statement rest failed => ?_) failed
  cases statement with
  | assign line targets value =>
    unfold ignoredNames at failed
    split at failed
    · next assigned =>
      rcases result_bind_eq_error.1 failed with here | ⟨found, -, failed⟩
      · exact .inl ⟨line, targets, value, rfl, assigned, here⟩
      · split at failed
        case h_6 => exact .inr failed
        all_goals cases failed
    · exact .inr failed
  | _ => exact .inr failed

theorem stops_of_exportedNames {tree : Module} (failed : exportedNames tree = .error cause) :
    ∃ e ∈ valuesOf "__all__" tree, Stops e := by
  refine stops_of_search (by rintro ⟨⟩) (fun statement rest failed => ?_) failed
  cases statement with
  | assign line targets value =>
    unfold exportedNames at failed
    split at failed
    · next assigned =>
      rcases result_bind_eq_error.1 failed with here | ⟨found, -, failed⟩
      · exact .inl ⟨line, targets, value, rfl, assigned, here⟩
      · split at failed
        case h_4 => exact .inr failed
        all_goals cases failed
    · exact .inr failed
  | _ => exact .inr failed

/-! ### Enums -/

variable {around : Surroundings} {path : List String} {line : Nat} {decorators : List Expr}
  {body : List Stmt}

theorem stops_of_enumOf (failed : enumOf around path line decorators body = .error cause) :
    ∃ e ∈ decorators.flatMap argumentsOf ++ valuesOf "_ignore_" body ++
      body.flatMap annotationArguments, Stops e := by
  rcases result_bind_eq_error.1 failed with attributes | ⟨_, -, failed⟩
  · obtain ⟨e, mem, stops⟩ := stops_of_attributes attributes
    exact ⟨e, List.mem_append_left _ (List.mem_append_left _ mem), stops⟩
  rcases result_bind_eq_error.1 failed with ignored | ⟨_, -, failed⟩
  · obtain ⟨e, mem, stops⟩ := stops_of_ignoredNames ignored
    exact ⟨e, List.mem_append_left _ (List.mem_append_right _ mem), stops⟩
  rcases result_bind_eq_error.1 failed with members | ⟨_, -, failed⟩
  · obtain ⟨statement, there, stopped⟩ := mem_of_mapM_eq_error members
    obtain ⟨e, mem, stops⟩ := stops_of_membersOf stopped
    exact ⟨e, List.mem_append_right _ (List.mem_flatMap.2 ⟨statement, there, mem⟩), stops⟩
  · cases failed

mutual

theorem stops_of_enumsOf {scope : List String} {enums : List EnumDeclaration} {failure : ReadFailure}
    (statement : Stmt) (failed : enumsOf around scope enums statement = .error failure) :
    ∃ e ∈ classMetadata statement, Stops e := by
  cases statement with
  | classDef line name decorators bases keywords body =>
    unfold enumsOf at failed
    dsimp only at failed
    have within {scope enums} (failed : enumsOfAll around scope enums body = .error failure) :
        ∃ e ∈ classMetadata (.classDef line name decorators bases keywords body), Stops e := by
      obtain ⟨e, mem, stops⟩ := stops_of_enumsOfAll body failed
      exact ⟨e, List.mem_append_right _ mem, stops⟩
    split at failed
    · split at failed
      · exact within failed
      · next stopped =>
        obtain ⟨e, mem, stops⟩ := stops_of_enumOf stopped
        exact ⟨e, List.mem_append_left _ mem, stops⟩
    · exact within failed
  | _ => cases failed

theorem stops_of_enumsOfAll {scope : List String} {enums : List EnumDeclaration}
    {failure : ReadFailure} (body : List Stmt)
    (failed : enumsOfAll around scope enums body = .error failure) :
    ∃ e ∈ classesMetadata body, Stops e := by
  cases body with
  | nil => cases failed
  | cons statement rest =>
    unfold enumsOfAll at failed
    split at failed
    · obtain ⟨e, mem, stops⟩ := stops_of_enumsOfAll rest failed
      exact ⟨e, List.mem_append_right _ mem, stops⟩
    · next stopped =>
      obtain ⟨e, mem, stops⟩ := stops_of_enumsOf statement stopped
      exact ⟨e, List.mem_append_left _ mem, stops⟩

end

/-- **What stops the reading of declarations** is among the expressions in the place of metadata, and
it joins an imaginary part to a large integer. -/
theorem stops_of_readDeclarations {module : String} {tree : Module} {failure : ReadFailure}
    (failed : readDeclarations module tree = .error failure) :
    ∃ e ∈ moduleMetadata tree, Stops e ∧ JoinsTooLarge e := by
  have joins (stopped : ∃ e ∈ moduleMetadata tree, Stops e) :
      ∃ e ∈ moduleMetadata tree, Stops e ∧ JoinsTooLarge e := by
    obtain ⟨e, mem, stops⟩ := stopped
    exact ⟨e, mem, stops, joinsTooLarge_of_literalValue stops⟩
  refine joins ?_
  unfold readDeclarations at failed
  split at failed
  · next stopped =>
    obtain ⟨e, mem, stops⟩ := stops_of_exportedNames stopped
    exact ⟨e, List.mem_append_left _ mem, stops⟩
  · dsimp only at failed
    split at failed
    · cases failed
    · next stopped =>
      obtain ⟨e, mem, stops⟩ := stops_of_enumsOfAll tree stopped
      exact ⟨e, List.mem_append_right _ mem, stops⟩

end EnumCodec.Declaration
