import EnumCodec.Proofs.Activity
import EnumCodec.Proofs.Config.UnknownKeys

/-!
# EnumCodec.Proofs.Config.RoundTrip

**A document is read key by key, and what is exported is read back.** The entries of a document are put
into a configuration one after the other, each in the place of what was there. As the keys are distinct,
each part is given by its own key alone, so neither the order of the entries nor a key that no part asks
for makes a difference. An export names all parts, and reading it gives each of them back.

* `FormatterSettings.override`, `Config.override`: what values for the keys make of settings.
* `ofEntries_eq_ok_iff`, `ofJson_eq_ok_iff`: sections and documents are read key by key.
* `ofJson_toJson`: whatever can be exported is read back.
* `documents_roundTrip`: all of it for documents.
-/

namespace EnumCodec

open Activity
open Text (CodeText)

/-! ### Entries with distinct keys -/

namespace Entries

variable {α : Type} {entries other : List (String × α)} {key : String} {value : α}

/-- With distinct keys each entry is found. -/
theorem lookup_eq_some_iff_mem (distinct : (entries.map (·.1)).Nodup) :
    entries.lookup key = some value ↔ (key, value) ∈ entries := by
  induction entries with
  | nil => simp
  | cons entry rest ih =>
    obtain ⟨k, v⟩ := entry
    obtain ⟨absent, distinct⟩ := List.nodup_cons.1 distinct
    rw [lookup_cons_eq]
    by_cases same : key = k
    · subst same
      have other : (key, value) ∉ rest := by
        intro mem
        exact absent (List.mem_map.2 ⟨_, mem, rfl⟩)
      simp [other, eq_comm]
    · simp [same, ih distinct]

/-- The order of entries with distinct keys does not matter. -/
theorem lookup_of_perm (distinct : (entries.map (·.1)).Nodup) (same : other.Perm entries)
    (key : String) : other.lookup key = entries.lookup key := by
  have distinct' : (other.map (·.1)).Nodup := (same.map _).nodup_iff.2 distinct
  apply Option.ext
  intro value
  rw [lookup_eq_some_iff_mem distinct, lookup_eq_some_iff_mem distinct', same.mem_iff]

theorem mem_keys_of_lookup (found : entries.lookup key = some value) : key ∈ entries.map (·.1) := by
  by_cases mem : key ∈ entries.map (·.1)
  · exact mem
  · rw [(lookup_eq_none_iff entries key).2 mem] at found
    cases found

/-- A new value for a key that is there changes no key. -/
theorem map_fst_put (mem : key ∈ entries.map (·.1)) (value : α) :
    (put entries key value).map (·.1) = entries.map (·.1) := by
  induction entries with
  | nil => cases mem
  | cons entry rest ih =>
    obtain ⟨k, v⟩ := entry
    unfold put
    split
    · rfl
    · next other =>
      have behind : key ∈ rest.map (·.1) := (List.mem_cons.1 mem).resolve_left (Ne.symm other)
      rw [List.map_cons, List.map_cons, ih behind]

end Entries

namespace Json

variable {entries : List (CodeText × Json)}

/-- A plain key is found among the entries with plain keys where it is found among all. -/
theorem lookup_plainEntries (key : String) :
    (plainEntries entries).lookup key = entries.lookup (.plain key) := by
  induction entries with
  | nil => rfl
  | cons entry rest ih =>
    obtain ⟨k | k, value⟩ := entry
    · rw [plainEntries_plain, Entries.lookup_cons_eq, Entries.lookup_cons_eq, ih]
      simp only [CodeText.plain.injEq]
    · rw [plainEntries_broken, Entries.lookup_cons_eq, if_neg nofun, ih]

/-- The entries with plain keys are there with these keys. -/
theorem mem_plainEntries {key : String} {value : Json} :
    (key, value) ∈ plainEntries entries ↔ (.plain key, value) ∈ entries := by
  induction entries with
  | nil => simp [plainEntries]
  | cons entry rest ih =>
    obtain ⟨k | k, other⟩ := entry
    · rw [plainEntries_plain, List.mem_cons, List.mem_cons, ih]
      simp only [Prod.mk.injEq, CodeText.plain.injEq]
    · rw [plainEntries_broken, List.mem_cons, ih]
      simp

end Json

/-! ### The settings of formatters -/

namespace FormatterSettings

variable {settings next : FormatterSettings} {entries other rest : List (String × Json)} {key : String}
  {value : Json}

/-- The keys of the settings. -/
def keys : List String :=
  ["enabled", "tool", "line_length", "target_version", "string_normalization",
    "magic_trailing_comma"]

/-- The settings, but for those that some entries give. -/
def override (settings : FormatterSettings) (entries : List (String × Json)) : FormatterSettings where
  enabled := (entries.lookup "enabled").getD settings.enabled
  tool := (entries.lookup "tool").getD settings.tool
  lineLength := (entries.lookup "line_length").getD settings.lineLength
  targetVersion := (entries.lookup "target_version").getD settings.targetVersion
  stringNormalization := (entries.lookup "string_normalization").getD settings.stringNormalization
  magicTrailingComma := (entries.lookup "magic_trailing_comma").getD settings.magicTrailingComma

theorem override_congr (same : ∀ key ∈ keys, other.lookup key = entries.lookup key) :
    settings.override other = settings.override entries := by
  simp only [keys, List.forall_mem_cons] at same
  simp only [override, same]

/-- An entry with the key of a setting gives this setting and no other one. -/
theorem put_eq_some (known : key ∈ keys) (absent : rest.lookup key = none)
    (settings : FormatterSettings) (value : Json) :
    ∃ next, settings.put key value = some next ∧
      next.override rest = settings.override ((key, value) :: rest) := by
  simp only [keys, List.mem_cons, List.not_mem_nil, or_false] at known
  rcases known with rfl | rfl | rfl | rfl | rfl | rfl <;>
    exact ⟨_, rfl, by simp [override, List.lookup_cons, absent]⟩

theorem mem_keys_of_put (put : settings.put key value = some next) : key ∈ keys := by
  unfold FormatterSettings.put at put
  split at put
  case h_7 => cases put
  all_goals decide

/-- Entries with the keys of settings give the settings that are found by these keys. -/
theorem foldlM_put (distinct : (entries.map (·.1)).Nodup) (known : ∀ entry ∈ entries, entry.1 ∈ keys)
    (settings : FormatterSettings) :
    entries.foldlM (fun settings entry => settings.put entry.1 entry.2) settings =
      some (settings.override entries) := by
  induction entries generalizing settings with
  | nil => rfl
  | cons entry rest ih =>
    obtain ⟨absent, distinct⟩ := List.nodup_cons.1 distinct
    obtain ⟨here, known⟩ := List.forall_mem_cons.1 known
    have missing : rest.lookup entry.1 = none := (Entries.lookup_eq_none_iff rest entry.1).2 absent
    obtain ⟨next, put, same⟩ := put_eq_some here missing settings entry.2
    rw [List.foldlM_cons, put]
    exact (ih distinct known next).trans (congrArg some same)

theorem mem_keys_of_foldlM
    (put : entries.foldlM (fun settings entry => settings.put entry.1 entry.2) settings = some next) :
    ∀ entry ∈ entries, entry.1 ∈ keys := by
  induction entries generalizing settings with
  | nil => simp
  | cons entry rest ih =>
    rw [List.foldlM_cons] at put
    obtain ⟨first, here, others⟩ := Option.bind_eq_some_iff.1 put
    exact List.forall_mem_cons.2 ⟨mem_keys_of_put here, ih others⟩

/-- **Which sections describe formatters?** Those in which all keys are those of settings, and then each
setting is found by its key. -/
theorem ofEntries_eq_ok_iff (distinct : (entries.map (·.1)).Nodup) :
    ofEntries entries = .ok settings ↔
      (∀ entry ∈ entries, entry.1 ∈ keys) ∧ override {} entries = settings := by
  unfold ofEntries
  constructor
  · intro read
    split at read
    · next found put =>
      cases read
      have known := mem_keys_of_foldlM put
      rw [foldlM_put distinct known] at put
      exact ⟨known, Option.some.inj put⟩
    · cases read
  · rintro ⟨known, rfl⟩
    rw [foldlM_put distinct known]

/-- The order of the settings does not matter. -/
theorem ofEntries_of_perm (distinct : (entries.map (·.1)).Nodup) (same : other.Perm entries)
    (read : ofEntries entries = .ok settings) : ofEntries other = .ok settings := by
  have distinct' : (other.map (·.1)).Nodup := (same.map _).nodup_iff.2 distinct
  obtain ⟨known, given⟩ := (ofEntries_eq_ok_iff distinct).1 read
  refine (ofEntries_eq_ok_iff distinct').2 ⟨fun entry mem => known entry (same.mem_iff.1 mem), ?_⟩
  rw [← given, override_congr fun key _ => Entries.lookup_of_perm distinct same key]

/-- The settings that a value gives if it is an object. -/
def ofJson? : Json → Option (Except ConfigError FormatterSettings)
  | .object entries => some (ofEntries entries)
  | .brokenObject _ => some (.error .unknownSetting)
  | _ => none

end FormatterSettings

/-! ### The settings for writing -/

namespace OutputSettings

variable {settings : OutputSettings} {entries other : List (String × Json)}

/-- The keys of the settings. -/
def keys : List String :=
  ["mode", "validate_before_write", "atomic_write"]

/-- Keys that are none of settings make no difference. -/
theorem ofEntries_congr (same : ∀ key ∈ keys, other.lookup key = entries.lookup key) :
    ofEntries other = ofEntries entries := by
  simp only [keys, List.forall_mem_cons] at same
  simp only [ofEntries, same]

/-- A mode that is not mentioned or a text is one of the known ones. -/
theorem exists_mode (read : ofEntries entries = .ok settings)
    (text : entries.lookup "mode" = none ∨ ∃ text, entries.lookup "mode" = some (.string text)) :
    ∃ mode, settings.mode = .known mode := by
  unfold ofEntries at read
  obtain none | ⟨text, some⟩ := text
  · rw [none] at read
    cases read
    exact ⟨_, rfl⟩
  · rw [some] at read
    obtain ⟨mode, given, rest⟩ := result_bind_eq_ok.1 read
    cases rest
    simp only [ModeSetting.ofJson] at given
    split at given
    · cases given
      exact ⟨_, rfl⟩
    · cases given

/-- The settings that a value gives if it is an object. -/
def ofJson? : Json → Option (Except ConfigError OutputSettings)
  | .object entries => some (ofEntries entries)
  | .brokenObject entries => some (ofEntries (Json.plainEntries entries))
  | _ => none

theorem ofJson?_ofEntries (entries : List (CodeText × Json)) :
    ofJson? (.ofEntries entries) = some (ofEntries (Json.plainEntries entries)) := by
  unfold Json.ofEntries
  split <;> rfl

end OutputSettings

namespace Config

variable {config next last : Config} {entries other rest : List (String × Json)} {key : String}
  {value exported : Json}

/-! ### What can be exported is read back -/

/-- **What an export gives is read as what was exported.** -/
theorem ofJson_toJson (exports : config.toJson = .ok exported) : ofJson exported = .ok config := by
  obtain ⟨generationComment, jsonHelpers, usings, cacheOutput, formatter, output, exportable⟩ := config
  cases exportable with
  | false => cases exports
  | true =>
    cases usings with
    | none => cases exports
    | some usings =>
      cases formatter with
      | other value => cases exports
      | absent => cases exports
      | settings formatter =>
        cases output with
        | other value => cases exports
        | absent => cases exports
        | settings output =>
          obtain ⟨mode, validate, atomic⟩ := output
          cases mode with
          | other value => cases exports
          | known mode =>
            cases exports
            cases mode with
            | errorIfExists => rfl
            | force => rfl

/-! ### Documents are read key by key -/

/-- What a value makes of a section: an object gives all the settings, and any other value stands in their
place. -/
def sectionOf {α : Type} (read : Json → Option (Except ConfigError α)) (kept : Section α) :
    Option Json → Except ConfigError (Section α)
  | some value =>
    match read value with
    | some settings => settings.map .settings
    | none => .ok (.other value)
  | none => .ok kept

@[simp] theorem sectionOf_none {α : Type} (read : Json → Option (Except ConfigError α))
    (kept : Section α) : sectionOf read kept none = .ok kept := rfl

/-- **The configuration that entries make of another one**: each part is found by its own key, and is kept
where none is. -/
def override (config : Config) (entries : List (String × Json)) : Except ConfigError Config := do
  let formatter ← sectionOf FormatterSettings.ofJson? config.formatter (entries.lookup "formatter")
  let output ← sectionOf OutputSettings.ofJson? config.output (entries.lookup "output")
  return {
    generationComment :=
      (entries.lookup "add_generation_comment").getD config.generationComment
    jsonHelpers := (entries.lookup "add_json_helpers").getD config.jsonHelpers
    additionalUsings := (entries.lookup "csharp_additional_usings").or config.additionalUsings
    cacheOutput := (entries.lookup "cache_output").getD config.cacheOutput
    formatter
    output
    exportable := config.exportable }

/-- A configuration of which no part is absent. -/
structure IsWhole (config : Config) : Prop where
  additionalUsings : config.hasPart "csharp_additional_usings" = true
  formatter : config.hasPart "formatter" = true
  output : config.hasPart "output" = true

theorem isWhole_default : IsWhole {} := ⟨rfl, rfl, rfl⟩

theorem putEntry_formatter (whole : config.IsWhole) (value : Json) :
    config.putEntry ("formatter", value) =
      (sectionOf FormatterSettings.ofJson? config.formatter (some value)).map
        fun formatter => { config with formatter } := by
  cases value with
  | object entries =>
    simp only [putEntry, sectionOf, FormatterSettings.ofJson?]
    cases FormatterSettings.ofEntries entries with
    | error cause => rfl
    | ok settings => rfl
  | brokenObject entries => rfl
  | _ =>
    simp [putEntry, whole.formatter, assign, sectionOf, FormatterSettings.ofJson?, Except.map]

theorem putEntry_output (whole : config.IsWhole) (value : Json) :
    config.putEntry ("output", value) =
      (sectionOf OutputSettings.ofJson? config.output (some value)).map
        fun output => { config with output } := by
  cases value with
  | object entries =>
    simp only [putEntry, sectionOf, OutputSettings.ofJson?]
    cases OutputSettings.ofEntries entries with
    | error cause => rfl
    | ok settings => rfl
  | brokenObject entries =>
    simp only [putEntry, sectionOf, OutputSettings.ofJson?]
    cases OutputSettings.ofEntries (Json.plainEntries entries) with
    | error cause => rfl
    | ok settings => rfl
  | _ => simp [putEntry, whole.output, assign, sectionOf, OutputSettings.ofJson?, Except.map]

theorem isPresent_of_sectionOf {α : Type} {read : Json → Option (Except ConfigError α)}
    {kept place : Section α} (given : sectionOf read kept (some value) = .ok place) :
    place.isPresent = true := by
  unfold sectionOf at given
  dsimp only at given
  split at given
  · obtain ⟨settings, -, rfl⟩ := result_map_eq_ok.1 given
    rfl
  · cases given
    rfl

/-- **One entry gives its own part**, and then the others do what they would have done anyway, or else
nothing can be made of the entries at all. -/
theorem putEntry_cases (whole : config.IsWhole) (known : .plain key ∈ partKeys)
    (absent : rest.lookup key = none) (value : Json) :
    (∃ next, config.putEntry (key, value) = .ok next ∧ next.IsWhole ∧
        next.override rest = config.override ((key, value) :: rest)) ∨
      ∃ cause cause', config.putEntry (key, value) = .error cause ∧
        config.override ((key, value) :: rest) = .error cause' := by
  obtain ⟨usings, formatter, output⟩ := whole
  simp only [partKeys, List.mem_cons, List.not_mem_nil, or_false, CodeText.plain.injEq] at known
  rcases known with rfl | rfl | rfl | rfl | rfl | rfl
  · refine .inl ⟨{ config with generationComment := value }, rfl, ⟨usings, formatter, output⟩, ?_⟩
    simp [override, List.lookup_cons, absent]
  · refine .inl ⟨{ config with jsonHelpers := value }, rfl, ⟨usings, formatter, output⟩, ?_⟩
    simp [override, List.lookup_cons, absent]
  · have put : config.putEntry ("csharp_additional_usings", value) =
        .ok { config with additionalUsings := some value } := by
      simp [putEntry, usings, assign]
    refine .inl ⟨_, put, ⟨rfl, formatter, output⟩, ?_⟩
    simp [override, List.lookup_cons, absent]
  · refine .inl ⟨{ config with cacheOutput := value }, rfl, ⟨usings, formatter, output⟩, ?_⟩
    simp [override, List.lookup_cons, absent]
  · have put := putEntry_formatter ⟨usings, formatter, output⟩ value
    cases given : sectionOf FormatterSettings.ofJson? config.formatter (some value) with
    | error cause =>
      rw [given] at put
      refine .inr ⟨cause, cause, put, ?_⟩
      simp [override, given, bind, Except.bind]
    | ok place =>
      rw [given] at put
      refine .inl ⟨_, put, ⟨usings, isPresent_of_sectionOf given, output⟩, ?_⟩
      simp [override, List.lookup_cons, absent, given]
  · have put := putEntry_output ⟨usings, formatter, output⟩ value
    cases given : sectionOf OutputSettings.ofJson? config.output (some value) with
    | error cause =>
      rw [given] at put
      -- Which of two bad sections is found first depends on the order of the entries.
      cases other : sectionOf FormatterSettings.ofJson? config.formatter (rest.lookup "formatter") with
      | error cause' =>
        refine .inr ⟨cause, cause', put, ?_⟩
        simp [override, List.lookup_cons, other, bind, Except.bind]
      | ok place =>
        refine .inr ⟨cause, cause, put, ?_⟩
        simp [override, List.lookup_cons, other, given, bind, Except.bind]
    | ok place =>
      rw [given] at put
      refine .inl ⟨_, put, ⟨usings, formatter, isPresent_of_sectionOf given⟩, ?_⟩
      simp [override, List.lookup_cons, absent, given]

theorem foldlM_putEntry_eq_ok_iff (distinct : (entries.map (·.1)).Nodup)
    (known : ∀ key ∈ entries.map (·.1), .plain key ∈ partKeys) (whole : config.IsWhole) :
    entries.foldlM putEntry config = .ok last ↔ config.override entries = .ok last := by
  induction entries generalizing config with
  | nil =>
    have kept : config.override [] = .ok config := by
      simp [override, pure, Except.pure, bind, Except.bind]
    rw [kept]
    rfl
  | cons entry rest ih =>
    obtain ⟨absent, distinct⟩ := List.nodup_cons.1 distinct
    obtain ⟨here, known⟩ := List.forall_mem_cons.1 known
    have missing : rest.lookup entry.1 = none := (Entries.lookup_eq_none_iff rest entry.1).2 absent
    rw [List.foldlM_cons]
    rcases putEntry_cases whole here missing entry.2 with
      ⟨next, put, whole, same⟩ | ⟨cause, cause', put, same⟩
    · rw [put, ← same]
      exact ih distinct known whole
    · rw [put, same]
      simp [bind, Except.bind]

/-- **A document is read key by key.** -/
theorem ofJson_eq_ok_iff (distinct : (entries.map (·.1)).Nodup)
    (known : ∀ key ∈ entries.map (·.1), .plain key ∈ partKeys) :
    ofJson (.object entries) = .ok config ↔ override {} entries = .ok config :=
  foldlM_putEntry_eq_ok_iff distinct known isWhole_default

/-! ### Documents -/

/-- Is a value accepted for a part of a configuration? -/
def Accepts (key : String) (value : Json) : Prop :=
  ∃ config, ofJson (.object [(key, value)]) = .ok config

/-- **A document that names parts of a configuration**, in whatever order: its sections are objects that
are accepted, and the mode of writing is a text if it is mentioned. All other values are free. -/
structure IsDocument (entries : List (String × Json)) : Prop where
  distinct : (entries.map (·.1)).Nodup
  known : ∀ key ∈ entries.map (·.1), .plain key ∈ partKeys
  formatter : ∀ value, entries.lookup "formatter" = some value →
    (∃ settings, value = .object settings) ∧ Accepts "formatter" value
  output : ∀ value, entries.lookup "output" = some value →
    (∃ settings, value = .ofEntries settings ∧
      (settings.lookup (.plain "mode") = none ∨
        ∃ text, settings.lookup (.plain "mode") = some (.string text))) ∧
      Accepts "output" value

theorem accepts_formatter_iff :
    Accepts "formatter" (.object entries) ↔
      ∃ settings, FormatterSettings.ofEntries entries = .ok settings := by
  simp only [Accepts, ofJson, List.foldlM_cons, List.foldlM_nil, bind_pure,
    putEntry_formatter isWhole_default, sectionOf, FormatterSettings.ofJson?, result_map_eq_ok]
  constructor
  · rintro ⟨-, -, ⟨settings, read, -⟩, -⟩
    exact ⟨settings, read⟩
  · rintro ⟨settings, read⟩
    exact ⟨_, _, ⟨settings, read, rfl⟩, rfl⟩

theorem accepts_output_iff {entries : List (CodeText × Json)} :
    Accepts "output" (.ofEntries entries) ↔
      ∃ settings, OutputSettings.ofEntries (Json.plainEntries entries) = .ok settings := by
  simp only [Accepts, ofJson, List.foldlM_cons, List.foldlM_nil, bind_pure,
    putEntry_output isWhole_default, sectionOf, OutputSettings.ofJson?_ofEntries,
    result_map_eq_ok]
  constructor
  · rintro ⟨-, -, ⟨settings, read, -⟩, -⟩
    exact ⟨settings, read⟩
  · rintro ⟨settings, read⟩
    exact ⟨_, _, ⟨settings, read, rfl⟩, rfl⟩

theorem formatter_of_isDocument (document : IsDocument entries) :
    ∃ settings, sectionOf FormatterSettings.ofJson? (.settings {}) (entries.lookup "formatter") =
      .ok (.settings settings) := by
  cases found : entries.lookup "formatter" with
  | none => exact ⟨{}, rfl⟩
  | some value =>
    obtain ⟨⟨given, rfl⟩, accepted⟩ := document.formatter value found
    obtain ⟨settings, read⟩ := accepts_formatter_iff.1 accepted
    exact ⟨settings, result_map_eq_ok.2 ⟨settings, read, rfl⟩⟩

theorem output_of_isDocument (document : IsDocument entries) :
    ∃ settings mode, sectionOf OutputSettings.ofJson? (.settings {}) (entries.lookup "output") =
      .ok (.settings settings) ∧ settings.mode = .known mode := by
  cases found : entries.lookup "output" with
  | none => exact ⟨{}, .errorIfExists, rfl, rfl⟩
  | some value =>
    obtain ⟨⟨given, rfl, mode⟩, accepted⟩ := document.output value found
    obtain ⟨settings, read⟩ := accepts_output_iff.1 accepted
    simp only [← Json.lookup_plainEntries] at mode
    obtain ⟨known, same⟩ := OutputSettings.exists_mode read mode
    refine ⟨settings, known, ?_, same⟩
    simp [sectionOf, OutputSettings.ofJson?_ofEntries, read, Except.map]

/-- Documents with the same keys are read alike if what their keys give is the same. -/
theorem ofJson_of_override (document : IsDocument entries)
    (read : ofJson (.object entries) = .ok config) (keys : (other.map (·.1)).Perm (entries.map (·.1)))
    (same : override {} other = override {} entries) : ofJson (.object other) = .ok config := by
  have distinct : (other.map (·.1)).Nodup := keys.nodup_iff.2 document.distinct
  have known : ∀ key ∈ other.map (·.1), .plain key ∈ partKeys := fun key mem =>
    document.known key (keys.mem_iff.1 mem)
  rw [ofJson_eq_ok_iff distinct known, same, ← ofJson_eq_ok_iff document.distinct document.known, read]

/-- **Documents survive being exported and read again**, and it matters neither in which order their parts
stand, nor in which order the settings of the formatter do, nor what else stands beside the settings for
writing. -/
theorem documents_roundTrip (document : IsDocument entries) :
    ∃ config exported,
      ofJson (.object entries) = .ok config ∧
      config.toJson = .ok exported ∧
      ofJson exported = .ok config ∧
      (∀ other, other.Perm entries → ofJson (.object other) = .ok config) ∧
      (∀ settings other, entries.lookup "formatter" = some (.object settings) →
        (settings.map (·.1)).Nodup → other.Perm settings →
        ofJson (.object (Entries.put entries "formatter" (.object other))) = .ok config) ∧
      ∀ settings other, entries.lookup "output" = some (.ofEntries settings) →
        (∀ key ∈ OutputSettings.keys, other.lookup (.plain key) = settings.lookup (.plain key)) →
        ofJson (.object (Entries.put entries "output" (.ofEntries other))) = .ok config := by
  obtain ⟨formatter, formatterGiven⟩ := formatter_of_isDocument document
  obtain ⟨output, mode, outputGiven, modeGiven⟩ := output_of_isDocument document
  obtain ⟨config, given⟩ : ∃ config, override {} entries = .ok config := by
    simp only [override, formatterGiven, outputGiven]
    exact ⟨_, rfl⟩
  have read : ofJson (.object entries) = .ok config :=
    (ofJson_eq_ok_iff document.distinct document.known).2 given
  obtain ⟨exported, exports⟩ : ∃ exported, config.toJson = .ok exported := by
    obtain ⟨_, validate, atomic⟩ := output
    cases modeGiven
    simp only [override, formatterGiven, outputGiven] at given
    cases given
    cases entries.lookup "csharp_additional_usings" with
    | none => exact ⟨_, rfl⟩
    | some usings => exact ⟨_, rfl⟩
  refine ⟨config, exported, read, exports, ofJson_toJson exports, ?_, ?_, ?_⟩
  · intro other reordered
    refine ofJson_of_override document read (reordered.map _) ?_
    simp only [override, Entries.lookup_of_perm document.distinct reordered]
  · intro settings other found distinct reordered
    have keys := Entries.map_fst_put (Entries.mem_keys_of_lookup found) (.object other)
    obtain ⟨accepted, known⟩ := accepts_formatter_iff.1 (document.formatter _ found).2
    have alike : FormatterSettings.ofEntries other = FormatterSettings.ofEntries settings := by
      rw [known, FormatterSettings.ofEntries_of_perm distinct reordered known]
    refine ofJson_of_override document read (by rw [keys]) ?_
    simp [override, found, sectionOf, FormatterSettings.ofJson?, alike]
  · intro settings other found same
    have keys := Entries.map_fst_put (Entries.mem_keys_of_lookup found) (.ofEntries other)
    simp only [← Json.lookup_plainEntries] at same
    have alike := OutputSettings.ofEntries_congr same
    refine ofJson_of_override document read (by rw [keys]) ?_
    simp [override, found, sectionOf, OutputSettings.ofJson?_ofEntries, alike]

/-- A document in an order of its own, with values of other kinds than the usual ones and a key beside the
settings for writing. -/
theorem documents_roundTrip_unusual :
    let formatter := [("tool", Json.int 7), ("enabled", .bool true)]
    let entries := [
      ("output", Json.object [("atomic_write", .null), ("colour", .int 3), ("mode", .string "force")]),
      ("cache_output", .string "yes"), ("csharp_additional_usings", .float .nan),
      ("formatter", .object formatter)]
    IsDocument entries ∧
      ∃ config exported,
        ofJson (.object entries) = .ok config ∧
        config.toJson = .ok exported ∧
        ofJson exported = .ok config ∧
        ofJson (.object entries.reverse) = .ok config ∧
        ofJson (.object (Entries.put entries "formatter" (.object formatter.reverse))) = .ok config ∧
        ofJson (.object (Entries.put entries "output"
          (.object [("mode", .string "force"), ("atomic_write", .null)]))) = .ok config := by
  intro formatter entries
  have document : IsDocument entries := by
    refine ⟨by decide, by decide, fun value found => ?_, fun value found => ?_⟩
    · cases found
      exact ⟨⟨formatter, rfl⟩, _, rfl⟩
    · cases found
      exact ⟨⟨[("atomic_write", .null), ("colour", .int 3), ("mode", .string "force")], rfl,
        .inr ⟨"force", rfl⟩⟩, _, rfl⟩
  obtain ⟨config, exported, read, exports, back, reordered, formatterReordered, outputChanged⟩ :=
    documents_roundTrip document
  refine ⟨document, config, exported, read, exports, back, reordered _ (List.reverse_perm _), ?_, ?_⟩
  · exact formatterReordered formatter _ rfl (by decide) (List.reverse_perm _)
  · refine outputChanged [("atomic_write", .null), ("colour", .int 3), ("mode", .string "force")]
      [("mode", .string "force"), ("atomic_write", .null)] rfl fun key mem => ?_
    simp only [OutputSettings.keys, List.mem_cons, List.not_mem_nil, or_false] at mem
    rcases mem with rfl | rfl | rfl
    · rfl
    · rfl
    · rfl

end Config

end EnumCodec
