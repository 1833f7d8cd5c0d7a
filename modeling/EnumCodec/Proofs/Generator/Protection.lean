import EnumCodec.Proofs.CommandLine.Generation
import EnumCodec.Proofs.Config.RoundTrip
import Mathlib.Data.List.Nodup

/-!
# EnumCodec.Proofs.Generator.Protection

**Files that are there already.** A configuration that is read from an object protects existing files as
long as the object gives no mode of writing but the text of the protecting one. A target that is found
stops the writing before anything is changed. What is overwritten all the same are files to which a
target leads by way of two dots behind a name that is not there: such a target is not found, but when its
directories are made the name is there.
-/

namespace EnumCodec

open Activity FileTree
open Text (CodeText)

/-! ### The mode of writing -/

/-- Is each mode of writing that an object gives a text, and not the one for replacing files? -/
def GivesNoOtherMode (entries : List (CodeText × Json)) : Prop :=
  ∀ given mode, (.plain "output", given) ∈ entries → given.get? "mode" = some mode →
    ∃ text, mode = .string text ∧ text ≠ "force"

/-- A value stands for the protecting mode if it is a text that is a mode and not the other one. -/
theorem protectsFiles_of_ofJson {value : Json} {mode : ModeSetting}
    (accepted : ModeSetting.ofJson value = .ok mode) :
    mode.protectsFiles = true ↔ ∃ text, value = .string text ∧ text ≠ "force" := by
  unfold ModeSetting.ofJson at accepted
  split at accepted
  · next text =>
    split at accepted
    · next known named =>
      cases accepted
      unfold OutputMode.ofJson? at named
      split at named
      · next same =>
        cases named
        cases same
        simp [ModeSetting.protectsFiles]
      · next same =>
        cases named
        cases same
        simp [ModeSetting.protectsFiles]
      · cases named
    · cases accepted
  · cases accepted
  · next other _ =>
    cases accepted
    simpa [ModeSetting.protectsFiles] using fun text same => absurd same (other text)

/-- The settings that the entries of a section give protect existing files unless the mode among them
says something else. -/
theorem protectsFiles_of_ofEntries {given : List (String × Json)} {settings : OutputSettings}
    (accepted : OutputSettings.ofEntries given = .ok settings) :
    settings.mode.protectsFiles = true ↔
      ∀ mode, given.lookup "mode" = some mode → ∃ text, mode = .string text ∧ text ≠ "force" := by
  unfold OutputSettings.ofEntries at accepted
  cases found : given.lookup "mode" with
  | some value =>
    rw [found] at accepted
    obtain ⟨mode, read, rest⟩ := result_bind_eq_ok.1 accepted
    cases rest
    simpa using protectsFiles_of_ofJson read
  | none =>
    rw [found] at accepted
    cases accepted
    simp [ModeSetting.protectsFiles]

/-- The settings that a section gives protect existing files unless its mode says something else. -/
theorem protectsFiles_of_ofJson? {given : Json} {settings : OutputSettings}
    (accepted : OutputSettings.ofJson? given = some (.ok settings)) :
    settings.mode.protectsFiles = true ↔
      ∀ mode, given.get? "mode" = some mode → ∃ text, mode = .string text ∧ text ≠ "force" := by
  unfold OutputSettings.ofJson? at accepted
  split at accepted
  · exact protectsFiles_of_ofEntries (Option.some.inj accepted)
  · exact protectsFiles_of_ofEntries (Option.some.inj accepted)
  · cases accepted

namespace Config

variable {config next last : Config} {entry : String × Json} {entries : List (String × Json)}
  {settings : OutputSettings}

/-- No settings can be read from a section that has been replaced as it is. -/
theorem output_ofParts_ne (entries : List (String × Json)) :
    (ofParts entries).output ≠ .settings settings := by
  simp only [ofParts]
  cases entries.lookup "output" <;> simp

/-- A value as it is leaves settings for writing only as another part than theirs. -/
theorem output_of_assign {key : String} {value : Json} (put : config.assign key value = .ok next)
    (left : next.output = .settings settings) :
    key ≠ "output" ∧ config.output = .settings settings := by
  unfold assign at put
  split at put
  case h_6 =>
    cases put
    cases left
  case h_8 =>
    split at put
    · cases put
      exact absurd left (output_ofParts_ne _)
    · cases put
      exact absurd left (output_ofParts_ne _)
    · cases put
  case h_9 | h_10 => cases put
  case h_11 _ _ _ _ _ _ other _ _ _ _ =>
    cases put
    exact ⟨other, left⟩
  all_goals
    cases put
    exact ⟨by decide, left⟩

/-- The settings for writing that an entry of an object leaves: those that the entry gives, or the
ones that were there before. -/
theorem output_of_putEntry (put : putEntry config entry = .ok next)
    (left : next.output = .settings settings) :
    (∃ given, entry = ("output", given) ∧ OutputSettings.ofJson? given = some (.ok settings)) ∨
      entry.1 ≠ "output" ∧ config.output = .settings settings := by
  unfold putEntry at put
  split at put
  · obtain ⟨formatter, -, eq⟩ := result_bind_eq_ok.1 put
    cases eq
    exact .inr ⟨by simp, left⟩
  · cases put
  · next given =>
    obtain ⟨output, read, eq⟩ := result_bind_eq_ok.1 put
    cases eq
    cases left
    exact .inl ⟨_, rfl, congrArg some read⟩
  · next given =>
    obtain ⟨output, read, eq⟩ := result_bind_eq_ok.1 put
    cases eq
    cases left
    exact .inl ⟨_, rfl, congrArg some read⟩
  · next key value _ _ _ _ =>
    split at put
    · exact .inr (output_of_assign put left)
    · next absent =>
      cases put
      refine .inr ⟨?_, left⟩
      rintro (rfl : key = "output")
      simp [hasPart, left, Section.isPresent] at absent

/-- The settings for writing that all the entries leave. -/
theorem output_of_foldlM (put : entries.foldlM putEntry config = .ok last)
    (left : last.output = .settings settings) :
    (∃ given, ("output", given) ∈ entries ∧ OutputSettings.ofJson? given = some (.ok settings)) ∨
      "output" ∉ entries.map (·.1) ∧ config.output = .settings settings := by
  induction entries generalizing config with
  | nil =>
    cases put
    exact .inr ⟨by simp, left⟩
  | cons entry rest ih =>
    rw [List.foldlM_cons, result_bind_eq_ok] at put
    obtain ⟨next, first, others⟩ := put
    obtain ⟨given, mem, eq⟩ | ⟨absent, kept⟩ := ih others
    · exact .inl ⟨given, List.mem_cons_of_mem entry mem, eq⟩
    · obtain ⟨given, rfl, eq⟩ | ⟨other, kept⟩ := output_of_putEntry first kept
      · exact .inl ⟨given, List.mem_cons_self, eq⟩
      · refine .inr ⟨?_, kept⟩
        simpa using ⟨Ne.symm other, by simpa using absent⟩

/-- **The mode of writing that an object leaves.** Existing files are protected exactly if each mode that
the object gives is a text other than that for replacing files. -/
theorem protectsFiles_iff {entries : List (CodeText × Json)} (distinct : (entries.map (·.1)).Nodup)
    (accepted : ofJson (.ofEntries entries) = .ok config) (left : config.output = .settings settings) :
    settings.mode.protectsFiles = true ↔ GivesNoOtherMode entries := by
  rw [ofJson_ofEntries] at accepted
  obtain ⟨given, mem, read⟩ | ⟨absent, eq⟩ := output_of_foldlM accepted left
  · rw [Json.mem_plainEntries] at mem
    rw [protectsFiles_of_ofJson? read]
    refine ⟨fun only given' mode mem' => ?_, fun only mode => only given mode mem⟩
    cases List.inj_on_of_nodup_map distinct mem mem' rfl
    exact only mode
  · cases eq
    refine ⟨fun _ given mode mem => absurd ?_ absent, fun _ => rfl⟩
    exact List.mem_map_of_mem (f := (·.1)) (Json.mem_plainEntries.2 mem)

end Config

/-- Flags leave the settings for writing as they are, unless files are to be replaced. -/
theorem output_of_applyFlags {invocation : CommandLine.Invocation} {config applied : Config}
    (unforced : invocation.force = false)
    (flags : CommandLine.applyFlags invocation config = .ok applied) :
    applied.output = config.output := by
  obtain ⟨output, formatter, rfl, same⟩ := CommandLine.applyFlags_eq_ok flags
  rwa [if_neg (by simp [unforced])] at same

/-! ### Writing -/

section Writing

variable {config : Config} {settings : OutputSettings} {language : Language} {directory : Path}
  {files : List ConverterFile} {state : WriteState} {place : Place} {content : ByteArray}

/-- Where no settings for writing can be read, nothing is written. -/
theorem outcome_writeConverters_of_noSettings {cause : ConfigError}
    (unread : config.output.read = .error cause) :
    ∃ failure, outcome (writeConverters config language directory files) state =
      (.error failure, state) := by
  rw [writeConverters]
  dsimp only
  split
  · exact ⟨_, outcome_throw _ _⟩
  · rw [outcome_bind, WriteM.outcome_ofExcept, outputSettings, unread]
    exact ⟨_, rfl⟩

/-- A target that is found stops the writing before anything is changed. -/
theorem writeOutcome_of_found (protects : settings.mode.protectsFiles = true)
    (found : ∃ target ∈ targetPaths directory files, state.tree.contains target.1 = .ok true) :
    ∃ failure, writeOutcome config settings language directory files state =
      (.error failure, state) := by
  obtain ⟨target, mem, there⟩ := found
  exact writeOutcome_of_refused config language
    (.inr ⟨protects, target.1, List.mem_map_of_mem mem, by simp [there]⟩)

/-- A file stays as it is, unless a target that is not found leads to its place by way of two dots. -/
theorem get?_of_writeOutcome (closed : state.tree.IsClosed)
    (protects : settings.mode.protectsFiles = true)
    (file : state.tree.get? place = some (.file content)) :
    (writeOutcome config settings language directory files state).2.tree.get? place =
        some (.file content) ∨
      ∃ target ∈ targetPaths directory files, ".." ∈ target.1.names ∧
        state.tree.contains target.1 = .ok false ∧ state.tree.placeOf target.1 = place := by
  by_cases refused : Refused settings state.tree ((targetPaths directory files).map (·.1))
  · obtain ⟨failure, eq⟩ := writeOutcome_of_refused config language refused
    exact .inl (by rw [eq, file])
  have free (target) (mem : target ∈ targetPaths directory files) :
      state.tree.contains target.1 = .ok false :=
    Classical.byContradiction fun taken =>
      refused (.inr ⟨protects, target.1, List.mem_map_of_mem mem, taken⟩)
  by_cases leads : ∃ target ∈ targetPaths directory files, state.tree.placeOf target.1 = place
  · obtain ⟨target, mem, rfl⟩ := leads
    refine .inr ⟨target, mem, ?_, free target mem, rfl⟩
    -- Where all directories are there, a path without two dots is found if something is at its place.
    exact Classical.byContradiction fun forward =>
      closed.contains forward (file ▸ Option.some_ne_none _) (free target mem)
  · -- What has been written lies at the places of targets.
    have away (target) (mem : target ∈ targetPaths directory files) :
        state.tree.placeOf target.1 ≠ place := fun same => leads ⟨target, mem, same⟩
    rw [writeOutcome_tree_of_not_refused config language refused]
    obtain ⟨written, first, holds⟩ :=
      writeFiles_holds settings language (targetPaths directory files) state
    refine .inl (holds.writes.get?_file (lastContent?_eq_none fun target mem => ?_) file)
    exact away target (first.subset mem)

theorem writeFiles_mode (mode : ModeSetting) (targets : List (Path × ConverterFile)) :
    writeFiles { settings with mode } language targets = writeFiles settings language targets := by
  induction targets with
  | nil => rfl
  | cons target rest ih =>
    rw [writeFiles, writeFiles, ih]
    rfl

/-- A mode that does not protect existing files replaces them, whatever it is. -/
theorem writeOutcome_of_not_protects (unprotected : settings.mode.protectsFiles = false) :
    writeOutcome config settings language directory files state =
      writeOutcome config { settings with mode := .known .force } language directory files state := by
  have forced : (ModeSetting.known .force).protectsFiles = false := rfl
  rw [writeOutcome, writeOutcome, writeConverters, writeConverters]
  dsimp only
  split
  · rfl
  · simp only [outputSettings, Section.read, outcome_bind, WriteM.outcome_ofExcept, unprotected, forced,
      Bool.false_eq_true, if_false, writeFiles_mode]

end Writing

/-- **Files that are there already.** A configuration that is read from an object, without the flag for
replacing files, protects existing files exactly if each mode that the object gives is a text. It does so
in two ways. If a target is found, the writing fails and nothing changes. Every file keeps its content,
except where a target that is not found leads to its place by way of two dots. A mode that is no text
replaces files just as the mode for it does. -/
theorem writeConverters_protects {entries : List (CodeText × Json)} {config applied : Config}
    {invocation : CommandLine.Invocation} {state : WriteState}
    (distinct : (entries.map (·.1)).Nodup)
    (accepted : Config.ofJson (.ofEntries entries) = .ok config) (unforced : invocation.force = false)
    (flags : CommandLine.applyFlags invocation config = .ok applied) (closed : state.tree.IsClosed)
    (language : Language) (directory : Path) (files : List ConverterFile) :
    let targets := targetPaths directory files
    let run := outcome (writeConverters applied language directory files) state
    (GivesNoOtherMode entries →
      ((∃ target ∈ targets, state.tree.contains target.1 = .ok true) →
        ∃ failure, run = (.error failure, state)) ∧
      ∀ place content, state.tree.get? place = some (.file content) →
        run.2.tree.get? place = some (.file content) ∨
          ∃ target ∈ targets, ".." ∈ target.1.names ∧ state.tree.contains target.1 = .ok false ∧
            state.tree.placeOf target.1 = place) ∧
    (¬ GivesNoOtherMode entries → ∀ settings, applied.output = .settings settings →
      run = writeOutcome applied { settings with mode := .known .force } language directory files
        state) := by
  dsimp only
  have kept := output_of_applyFlags unforced flags
  have protects {settings} (output : applied.output = .settings settings) :=
    Config.protectsFiles_iff distinct accepted (kept ▸ output)
  refine ⟨fun only => ?_, fun other settings output => ?_⟩
  · cases read : applied.output.read with
    | error cause =>
      obtain ⟨failure, eq⟩ : ∃ failure,
          outcome (writeConverters applied language directory files) state = (.error failure, state) :=
        outcome_writeConverters_of_noSettings read
      rw [eq]
      exact ⟨fun _ => ⟨failure, rfl⟩, fun _ _ file => .inl file⟩
    | ok settings =>
      have output := Section.read_eq_ok_iff.1 read
      rw [outcome_writeConverters applied language output]
      have on := (protects output).2 only
      exact ⟨writeOutcome_of_found on, fun place content => get?_of_writeOutcome closed on⟩
  · rw [outcome_writeConverters applied language output]
    exact writeOutcome_of_not_protects (Bool.eq_false_iff.2 fun on => other ((protects output).1 on))

/-- A tree with the file of a converter. -/
def keptTree : FileTree where
  entries := [(["out"], .directory), (["out", "B.g.cs"], .file "kept".toUTF8)]

/-- A converter for the path of that file. -/
def newConverter : ConverterFile where
  name := "B"
  path := ⟨.current, ["B.g.cs"]⟩
  content := "new"

/-- The mode for protecting files keeps such a file, and a mode that is no text replaces it. -/
theorem writeConverters_protects_kept :
    let run (config : Config) :=
      outcome (writeConverters config .cSharp ⟨.current, ["out"]⟩ [newConverter]) ⟨keptTree, []⟩
    (∃ config failure, Config.ofJson (.ofEntries [("output", .object [("mode", .string "error")])]) =
        .ok config ∧ run config = (.error failure, ⟨keptTree, []⟩)) ∧
    ∃ config, ∃ settings : OutputSettings,
      Config.ofJson (.ofEntries [("output", .object [("mode", .null)])]) = .ok config ∧
      run config = writeOutcome config { settings with mode := .known .force } .cSharp
        ⟨.current, ["out"]⟩ [newConverter] ⟨keptTree, []⟩ := by
  have closed : FileTree.IsClosed (WriteState.mk keptTree []).tree := by decide
  have distinct (settings : Json) : ([((.plain "output" : CodeText), settings)].map (·.1)).Nodup := by
    simp
  have flags (config : Config) : CommandLine.applyFlags {} config = .ok config := rfl
  constructor
  · have accepted : Config.ofJson (.ofEntries [("output", .object [("mode", .string "error")])]) =
        .ok {} := rfl
    have protecting : GivesNoOtherMode [("output", .object [("mode", .string "error")])] := by
      rintro given mode mem found
      cases List.mem_singleton.1 mem
      cases found
      exact ⟨"error", rfl, by decide⟩
    have keeps := (writeConverters_protects (distinct _) accepted rfl (flags _) closed .cSharp
      ⟨.current, ["out"]⟩ [newConverter]).1 protecting
    obtain ⟨failure, eq⟩ := keeps.1
      ⟨(⟨.current, ["out", "B.g.cs"]⟩, newConverter), List.mem_singleton.2 rfl, rfl⟩
    exact ⟨_, failure, accepted, eq⟩
  · have accepted : Config.ofJson (.ofEntries [("output", .object [("mode", .null)])]) =
        .ok { output := .settings { mode := .other .null } } := rfl
    have other : ¬ GivesNoOtherMode [("output", .object [("mode", .null)])] := by
      intro protecting
      obtain ⟨text, same, -⟩ := protecting _ .null List.mem_cons_self rfl
      cases same
    exact ⟨_, _, accepted, (writeConverters_protects (distinct _) accepted rfl (flags _) closed .cSharp
      ⟨.current, ["out"]⟩ [newConverter]).2 other _ rfl⟩

end EnumCodec
