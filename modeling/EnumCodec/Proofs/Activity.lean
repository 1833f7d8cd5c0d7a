import EnumCodec.Storage.Directory

/-!
# EnumCodec.Proofs.Activity

**Activities that may fail after they have changed something.** The generator, the storage and the
writing of files all are activities with a state, which a failure leaves as it stands. What one of them
does is taken apart here, step by step, into its outcome and the state after it, so that no later proof
opens the monad.
-/

namespace EnumCodec.Activity

variable {ε σ α β : Type}

/-- The outcome of an activity, and the state after it. -/
def outcome (action : ExceptT ε (StateM σ) α) (state : σ) : Except ε α × σ :=
  action.run.run state

/-! ### Several items -/

/-- What is the same with each item is the same with all. -/
theorem mapM_congr {m : Type → Type} [Monad m] [LawfulMonad m] {first second : α → m β} {items : List α}
    (each : ∀ item ∈ items, first item = second item) : items.mapM first = items.mapM second := by
  induction items with
  | nil => rfl
  | cons item rest ih =>
    obtain ⟨here, others⟩ := List.forall_mem_cons.1 each
    rw [List.mapM_cons, List.mapM_cons, here, ih others]

/-! ### Results -/

section Results

variable {first : Except ε α} {next : α → Except ε β} {f : α → β} {value : β}

/-- A result that depends on another one is there only if the other one is. -/
theorem result_bind_eq_ok :
    (first >>= next) = .ok value ↔ ∃ part, first = .ok part ∧ next part = .ok value := by
  cases first <;> simp [bind, Except.bind]

theorem result_map_eq_ok : first.map f = .ok value ↔ ∃ part, first = .ok part ∧ f part = value := by
  cases first <;> simp [Except.map]

theorem result_toOption_eq_some {value : α} : first.toOption = some value ↔ first = .ok value := by
  cases first <;> simp [Except.toOption]

theorem result_mapError_ok {ε' : Type} (change : ε → ε') (value : α) :
    (Except.ok value).mapError change = .ok value := rfl

/-- Each of several results comes from one of the items. -/
theorem mem_of_mapM_eq_ok {items : List α} {values : List β}
    (all : items.mapM next = .ok values) (mem : value ∈ values) :
    ∃ item ∈ items, next item = .ok value := by
  induction items generalizing values with
  | nil =>
    cases all
    cases mem
  | cons item rest ih =>
    rw [List.mapM_cons, result_bind_eq_ok] at all
    obtain ⟨here, found, all⟩ := all
    obtain ⟨others, found', all⟩ := result_bind_eq_ok.1 all
    cases all
    rcases List.mem_cons.1 mem with rfl | mem
    · exact ⟨item, List.mem_cons_self, found⟩
    · obtain ⟨other, there, found⟩ := ih found' mem
      exact ⟨other, List.mem_cons_of_mem item there, found⟩

/-- Each of the items has one of the several results. -/
theorem exists_of_mapM_eq_ok {items : List α} {values : List β} (all : items.mapM next = .ok values)
    {item : α} (mem : item ∈ items) : ∃ value ∈ values, next item = .ok value := by
  induction items generalizing values with
  | nil => cases mem
  | cons first rest ih =>
    rw [List.mapM_cons, result_bind_eq_ok] at all
    obtain ⟨here, found, all⟩ := all
    obtain ⟨others, found', all⟩ := result_bind_eq_ok.1 all
    cases all
    rcases List.mem_cons.1 mem with rfl | mem
    · exact ⟨here, List.mem_cons_self, found⟩
    · obtain ⟨value, there, found⟩ := ih found' mem
      exact ⟨value, List.mem_cons_of_mem here there, found⟩

/-- Two results fail where the first does, or the second after it. -/
theorem result_bind_eq_error {cause : ε} :
    (first >>= next) = .error cause ↔
      first = .error cause ∨ ∃ part, first = .ok part ∧ next part = .error cause := by
  cases first <;> simp [bind, Except.bind]

theorem result_map_eq_error {cause : ε} : first.map f = .error cause ↔ first = .error cause := by
  cases first <;> simp [Except.map]

/-- Several results fail where one of the items does. -/
theorem mem_of_mapM_eq_error {items : List α} {cause : ε} (failed : items.mapM next = .error cause) :
    ∃ item ∈ items, next item = .error cause := by
  induction items with
  | nil => cases failed
  | cons item rest ih =>
    rw [List.mapM_cons, result_bind_eq_error] at failed
    rcases failed with here | ⟨value, -, later⟩
    · exact ⟨item, List.mem_cons_self, here⟩
    · rcases result_bind_eq_error.1 later with other | ⟨values, -, last⟩
      · obtain ⟨item', mem, found⟩ := ih other
        exact ⟨item', List.mem_cons_of_mem item mem, found⟩
      · cases last

end Results

/-! ### Single steps -/

@[simp]
theorem outcome_pure (value : α) (state : σ) :
    outcome (pure value : ExceptT ε (StateM σ) α) state = (.ok value, state) := rfl

@[simp]
theorem outcome_throw (cause : ε) (state : σ) :
    outcome (throw cause : ExceptT ε (StateM σ) α) state = (.error cause, state) := rfl

@[simp]
theorem outcome_get (state : σ) :
    outcome (get : ExceptT ε (StateM σ) σ) state = (.ok state, state) := rfl

@[simp]
theorem outcome_modify (change : σ → σ) (state : σ) :
    outcome (modify change : ExceptT ε (StateM σ) PUnit) state = (.ok ⟨⟩, change state) := rfl

/-! ### One activity after another -/

/-- A failure is handled in the state that it left. -/
theorem outcome_tryCatch (action : ExceptT ε (StateM σ) α)
    (handler : ε → ExceptT ε (StateM σ) α) (state : σ) :
    outcome (tryCatch action handler) state =
      match outcome action state with
      | (.ok value, after) => (.ok value, after)
      | (.error cause, after) => outcome (handler cause) after := by
  simp only [outcome, tryCatch, tryCatchThe, MonadExceptOf.tryCatch, ExceptT.tryCatch,
    ExceptT.run_mk]
  rw [StateT.run_bind]
  change (StateT.run action.run state >>= _) = _
  rcases action.run.run state with ⟨_ | _, after⟩ <;> rfl

section Sequence

variable (action : ExceptT ε (StateM σ) α) (next : α → ExceptT ε (StateM σ) β) (state : σ)

/-- What comes next runs in the state that was left, unless there was a failure. -/
theorem outcome_bind :
    outcome (action >>= next) state =
      match outcome action state with
      | (.ok value, after) => outcome (next value) after
      | (.error cause, after) => (.error cause, after) := by
  simp only [outcome, ExceptT.run_bind, StateT.run_bind]
  rcases action.run.run state with ⟨_ | _, after⟩ <;> rfl

variable {action next state}

/-- A sequence succeeds through both of its parts. -/
theorem outcome_bind_eq_ok {value : β} {after : σ} :
    outcome (action >>= next) state = (.ok value, after) ↔
      ∃ first between, outcome action state = (.ok first, between) ∧
        outcome (next first) between = (.ok value, after) := by
  rw [outcome_bind]
  rcases outcome action state with ⟨_ | _, between⟩ <;> simp [and_assoc]

/-- Each of the values of several activities comes from one of the items. -/
theorem mem_of_outcome_mapM {step : α → ExceptT ε (StateM σ) β} {items : List α} {values : List β}
    {value : β} {last : σ} (all : outcome (items.mapM step) state = (.ok values, last))
    (mem : value ∈ values) :
    ∃ item ∈ items, ∃ start stop, outcome (step item) start = (.ok value, stop) := by
  induction items generalizing state values with
  | nil =>
    cases all
    cases mem
  | cons item rest ih =>
    rw [List.mapM_cons] at all
    obtain ⟨here, between, found, all⟩ := outcome_bind_eq_ok.1 all
    obtain ⟨others, later, found', all⟩ := outcome_bind_eq_ok.1 all
    cases all
    rcases List.mem_cons.1 mem with rfl | mem
    · exact ⟨item, List.mem_cons_self, state, between, found⟩
    · obtain ⟨other, there, ran⟩ := ih found' mem
      exact ⟨other, List.mem_cons_of_mem item there, ran⟩

/-- If several activities succeed, each of them does. -/
theorem outcome_mapM_of_mem {step : α → ExceptT ε (StateM σ) β} {items : List α} {values : List β}
    {last : σ} (all : outcome (items.mapM step) state = (.ok values, last)) {item : α}
    (mem : item ∈ items) :
    ∃ start value stop, outcome (step item) start = (.ok value, stop) := by
  induction items generalizing state values last with
  | nil => cases mem
  | cons first rest ih =>
    rw [List.mapM_cons] at all
    obtain ⟨here, between, found, all⟩ := outcome_bind_eq_ok.1 all
    obtain ⟨others, later, found', -⟩ := outcome_bind_eq_ok.1 all
    rcases List.mem_cons.1 mem with rfl | mem
    · exact ⟨state, here, between, found⟩
    · exact ih found' mem

end Sequence

end EnumCodec.Activity
