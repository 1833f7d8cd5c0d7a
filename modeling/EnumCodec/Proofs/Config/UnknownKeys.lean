import EnumCodec.Generator.Session

/-!
# EnumCodec.Proofs.Config.UnknownKeys

**Keys that name no part of a configuration are ignored, but for four.** A configuration is an object
that has more to it than its parts: the function that exports it, its class, the parts as a whole and the
references to it. An entry whose key names one of these is not passed over.
-/

namespace EnumCodec.Config

open Text (CodeText)

/-! ### Keys -/

/-- The keys of the parts of a configuration. -/
def partKeys : List CodeText :=
  ["add_generation_comment", "add_json_helpers", "csharp_additional_usings", "cache_output",
    "formatter", "output"]

/-- The keys that name no part and are not passed over. -/
def reservedKeys : List CodeText :=
  ["to_dict", "__class__", "__dict__", "__weakref__"]

/-- The entries of an object without those whose keys are left out. -/
def without (omitted : CodeText → Bool) (entries : List (CodeText × Json)) :
    List (CodeText × Json) :=
  entries.filter fun entry => !omitted entry.1

/-! ### The same configuration -/

/-- **Two configurations that cannot be told apart**: their parts are equal, they are exported alike, and
generators that have them give the same texts to conversions and write converters in the same way. -/
structure Indistinguishable (config other : Config) : Prop where
  generationComment : config.generationComment = other.generationComment
  jsonHelpers : config.jsonHelpers = other.jsonHelpers
  additionalUsings : config.additionalUsings = other.additionalUsings
  cacheOutput : config.cacheOutput = other.cacheOutput
  formatter : config.formatter = other.formatter
  output : config.output = other.output
  toJson : config.toJson = other.toJson
  emit : ∀ language commandLine tools,
    (Generator.make language config commandLine tools).map Generator.emit =
      (Generator.make language other commandLine tools).map Generator.emit
  write : writeConverters config = writeConverters other

theorem Indistinguishable.refl (config : Config) : Indistinguishable config config :=
  ⟨rfl, rfl, rfl, rfl, rfl, rfl, rfl, fun _ _ _ => rfl, rfl⟩

/-- **Two documents that describe the same configuration**, or none of which describes any. -/
inductive SameReading : Except ConfigError Config → Except ConfigError Config → Prop
  | both {config other : Config} : Indistinguishable config other →
      SameReading (.ok config) (.ok other)
  | neither {cause cause' : ConfigError} : SameReading (.error cause) (.error cause')

theorem SameReading.refl (read : Except ConfigError Config) : SameReading read read := by
  cases read with
  | error cause => exact .neither
  | ok config => exact .both (.refl config)

/-! ### Entries that are passed over -/

/-- What an object describes is made up of its entries with plain keys. -/
theorem ofJson_ofEntries (entries : List (CodeText × Json)) :
    ofJson (.ofEntries entries) = (Json.plainEntries entries).foldlM putEntry {} := by
  unfold Json.ofEntries
  split <;> rfl

/-- An entry whose key names nothing changes nothing. -/
theorem putEntry_of_unknown {key : String} (unknown : .plain key ∉ partKeys)
    (free : .plain key ∉ reservedKeys) (config : Config) (value : Json) :
    config.putEntry (key, value) = .ok config := by
  simp only [partKeys, reservedKeys, List.mem_cons, List.not_mem_nil, or_false, not_or,
    CodeText.plain.injEq] at unknown free
  unfold putEntry
  split
  · next same => exact absurd (congrArg Prod.fst same) unknown.2.2.2.2.1
  · next same => exact absurd (congrArg Prod.fst same) unknown.2.2.2.2.1
  · next same => exact absurd (congrArg Prod.fst same) unknown.2.2.2.2.2
  · next same => exact absurd (congrArg Prod.fst same) unknown.2.2.2.2.2
  · next same =>
    obtain ⟨rfl, rfl⟩ := Prod.mk.inj same
    split
    · unfold assign
      split <;> simp_all
    · rfl

/-- **Leaving out entries that change nothing** leaves what is read as it is. -/
theorem foldlM_without {omitted : CodeText → Bool} (unknown : ∀ key ∈ partKeys, omitted key = false)
    {entries : List (CodeText × Json)}
    (free : ∀ entry ∈ entries, omitted entry.1 = true → entry.1 ∉ reservedKeys) (config : Config) :
    (Json.plainEntries (without omitted entries)).foldlM putEntry config =
      (Json.plainEntries entries).foldlM putEntry config := by
  unfold without
  induction entries generalizing config with
  | nil => rfl
  | cons entry rest ih =>
    obtain ⟨first, others⟩ := List.forall_mem_cons.1 free
    obtain ⟨key | key, value⟩ := entry
    · cases left : omitted (.plain key) with
      | true =>
        have other : .plain key ∉ partKeys := fun mem => by
          rw [unknown _ mem] at left
          cases left
        have passed : config.putEntry (key, value) = .ok config :=
          putEntry_of_unknown other (first left) config value
        rw [List.filter_cons_of_neg (by simp [left]), ih others, Json.plainEntries_plain,
          List.foldlM_cons, passed]
        rfl
      | false =>
        rw [List.filter_cons_of_pos (by simp [left]), Json.plainEntries_plain,
          Json.plainEntries_plain, List.foldlM_cons, List.foldlM_cons]
        congr 1
        funext config
        exact ih others config
    · -- A key with a half is passed over, whether it is left out or not.
      rw [Json.plainEntries_broken, ← ih others]
      cases left : omitted (.broken key) with
      | true => rw [List.filter_cons_of_neg (by simp [left])]
      | false => rw [List.filter_cons_of_pos (by simp [left]), Json.plainEntries_broken]

/-- A document with a reserved key alone does not describe what the empty one does. -/
theorem not_sameReading_of_reserved {key : CodeText} (reserved : key ∈ reservedKeys) :
    ¬ SameReading (ofJson (.ofEntries [(key, .null)])) (ofJson (.ofEntries [])) := by
  simp only [reservedKeys, List.mem_cons, List.not_mem_nil, or_false] at reserved
  rcases reserved with rfl | rfl | rfl | rfl
  · intro same
    have read : ofJson (.ofEntries [("to_dict", .null)]) = .ok { exportable := false } := rfl
    rw [read] at same
    cases same with
    | both alike => cases alike.toJson
  all_goals rintro ⟨⟩

/-- **Which unknown keys are ignored?** Leaving out entries whose keys name no part of a configuration
makes no difference as long as none of them is reserved. A set of such keys makes no difference to any
object exactly if it holds none of the four that are reserved. -/
theorem unknownKeys_ignored_iff (omitted : CodeText → Bool)
    (unknown : ∀ key ∈ partKeys, omitted key = false) :
    (∀ entries : List (CodeText × Json),
        (∀ entry ∈ entries, omitted entry.1 = true → entry.1 ∉ reservedKeys) →
          SameReading (ofJson (.ofEntries entries)) (ofJson (.ofEntries (without omitted entries)))) ∧
      ((∀ entries : List (CodeText × Json),
          SameReading (ofJson (.ofEntries entries)) (ofJson (.ofEntries (without omitted entries)))) ↔
        ∀ key ∈ reservedKeys, omitted key = false) := by
  have ignored (entries : List (CodeText × Json))
      (free : ∀ entry ∈ entries, omitted entry.1 = true → entry.1 ∉ reservedKeys) :
      SameReading (ofJson (.ofEntries entries)) (ofJson (.ofEntries (without omitted entries))) := by
    rw [ofJson_ofEntries, ofJson_ofEntries, foldlM_without unknown free]
    exact .refl _
  refine ⟨ignored, fun same key reserved => ?_, fun kept entries => ignored entries ?_⟩
  · cases left : omitted key with
    | false => rfl
    | true =>
      have alone : without omitted [(key, .null)] = [] := by simp [without, left]
      have whole := same [(key, .null)]
      rw [alone] at whole
      exact absurd whole (not_sameReading_of_reserved reserved)
  · intro entry _ left reserved
    rw [kept _ reserved] at left
    cases left

/-- The keys that name no part are not all ignored. -/
theorem unknownKeys_ignored_reserved :
    (∀ key ∈ partKeys, (!partKeys.contains key) = false) ∧
      ¬ ∀ entries : List (CodeText × Json),
        SameReading (ofJson (.ofEntries entries))
          (ofJson (.ofEntries (without (fun key => !partKeys.contains key) entries))) := by
  refine ⟨by decide, fun same => ?_⟩
  have kept := (unknownKeys_ignored_iff _ (by decide)).2.1 same "to_dict" (by decide)
  exact absurd kept (by decide)

end EnumCodec.Config
