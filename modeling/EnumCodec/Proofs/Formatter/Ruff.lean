import EnumCodec.Converter.Python
import EnumCodec.Formatter.Ruff
import EnumCodec.Proofs.Activity
import EnumCodec.Proofs.Text.FinalNewline
import Mathlib.Data.List.Forall2

/-!
# EnumCodec.Proofs.Formatter.Ruff

**One formatter over all the texts that it is given.** The program is asked for its version before the
first text and never again, and nothing is formatted unless it has answered. A text stays as it is
where the program is of no use. It gets no answer only if the settings give no arguments to a process, if
the program has gone since it was asked, or if the text cannot be encoded.
-/

namespace EnumCodec

open Text (CodePoint CodeText EndsOnce DiffersInEnd)

/-! ### The texts of converters -/

/-- Lines, of which the last one is not empty, make a text with one line feed at its end. -/
theorem endsOnce_textOfLines {lines : List String} (last : String) (ends : lines.getLast? = some last)
    (nonempty : last ≠ "") (isBody : Text.IsBody last.toList) : EndsOnce (textOfLines lines) := by
  obtain ⟨front, rfl⟩ := List.getLast?_eq_some_iff.1 ends
  refine ⟨(textOfLines front ++ last).toList, ?_, ?_⟩
  · have some_ : last.toList ≠ [] := fun none => nonempty (String.toList_eq_nil_iff.1 none)
    rwa [Text.IsBody, String.toList_append, List.getLast?_append_of_ne_nil _ some_]
  · simp [textOfLines, String.toList_join]

/-- **A converter in Python ends with exactly one line feed.** -/
theorem PythonConverter.endsOnce_text (layout : Layout) (conversion : Conversion) :
    EndsOnce (PythonConverter.text layout conversion) := by
  cases helpers : layout.jsonHelpers with
  | false =>
    refine endsOnce_textOfLines "        )" ?_ (by decide) (by decide)
    simp [lines, helpers, decodeLines, List.getLast?_append, List.getLast?_cons]
  | true =>
    refine endsOnce_textOfLines ("        raise TypeError(f\"Object of type " ++
      braced "type(obj).__name__" ++ " is not JSON serializable\")") ?_ (by decide) (by decide)
    simp [lines, helpers, helperLines, List.getLast?_append, List.getLast?_cons]

namespace Ruff

/-! ### Arguments -/

/-- A text that a process takes as an argument: its halves of surrogate pairs all stand for bytes, and
it does not hold the character U+0000. -/
structure IsArgument (text : CodeText) : Prop where
  halves : ∀ code ∈ text.codes, code.isHalf = true → 0xDC80 ≤ code.toNat ∧ code.toNat ≤ 0xDCFF
  noNull : .char '\x00' ∉ text.codes

/-- Settings that give arguments to a process. One that counts as false gives none; any other line length
is shown as a text, and a target version has to be one. -/
structure GivesArguments (settings : FormatterSettings) : Prop where
  lineLength : settings.lineLength.truthy = true →
    IsArgument (Value.ofJson settings.lineLength).displayText
  targetVersion : settings.targetVersion.truthy = true →
    ∃ text, settings.targetVersion = .ofText text ∧ IsArgument text

theorem argumentOfText_eq_ok_iff {text argument : CodeText} :
    argumentOfText text = .ok argument ↔ IsArgument text ∧ argument = text := by
  unfold argumentOfText
  constructor
  · intro passed
    split at passed
    · cases passed
    · next halves =>
      split at passed
      · cases passed
      · next noNull =>
        cases passed
        exact ⟨⟨by simpa using halves, by simpa using noNull⟩, rfl⟩
  · rintro ⟨⟨halves, noNull⟩, rfl⟩
    rw [if_neg (by simpa using halves), if_neg (by simpa using noNull)]

theorem argumentOfJson_isOk_iff {setting : Json} :
    (∃ argument, argumentOfJson setting = .ok argument) ↔
      ∃ text, setting = .ofText text ∧ IsArgument text := by
  constructor
  · rintro ⟨argument, passed⟩
    unfold argumentOfJson at passed
    split at passed
    · exact ⟨.plain _, rfl, (argumentOfText_eq_ok_iff.1 passed).1⟩
    · exact ⟨.broken _, rfl, (argumentOfText_eq_ok_iff.1 passed).1⟩
    · cases passed
  · rintro ⟨text, rfl, isArgument⟩
    have passed : argumentOfText text = .ok text := argumentOfText_eq_ok_iff.2 ⟨isArgument, rfl⟩
    cases text <;> exact ⟨_, passed⟩

theorem optionArguments_isOk_iff {name : String} {setting : Json}
    {argument : Except FormatterError CodeText} :
    (∃ arguments, optionArguments name setting argument = .ok arguments) ↔
      (setting.truthy = true → ∃ value, argument = .ok value) := by
  unfold optionArguments
  by_cases given : setting.truthy = true
  · cases argument <;> simp [given, Except.map]
  · simp [given]

/-- **Which settings give arguments to a process?** -/
theorem formatCall_isOk_iff {settings : FormatterSettings} {code : Content} :
    (∃ call, formatCall settings code = .ok call) ↔ GivesArguments settings := by
  have lineLength : (∃ arguments, optionArguments "--line-length" settings.lineLength
      (argumentOfText (Value.ofJson settings.lineLength).displayText) = .ok arguments) ↔ _ :=
    optionArguments_isOk_iff
  have targetVersion : (∃ arguments, optionArguments "--target-version" settings.targetVersion
      (argumentOfJson settings.targetVersion) = .ok arguments) ↔ _ :=
    optionArguments_isOk_iff
  rw [argumentOfJson_isOk_iff] at targetVersion
  simp only [argumentOfText_eq_ok_iff] at lineLength
  constructor
  · rintro ⟨call, made⟩
    obtain ⟨first, given, made⟩ := Activity.result_bind_eq_ok.1 made
    obtain ⟨second, given', -⟩ := Activity.result_bind_eq_ok.1 made
    refine ⟨fun truthy => ?_, targetVersion.1 ⟨second, given'⟩⟩
    obtain ⟨value, isArgument, -⟩ := lineLength.1 ⟨first, given⟩ truthy
    exact isArgument
  · rintro ⟨length, version⟩
    obtain ⟨first, given⟩ := lineLength.2 fun truthy => ⟨_, length truthy, rfl⟩
    obtain ⟨second, given'⟩ := targetVersion.2 version
    exact ⟨_, by rw [formatCall, given]; simp only [bind, Except.bind, given']; rfl⟩

/-! ### Texts in order -/

/-- A text that is given to a formatter, and what becomes of the processes that it may start for it. -/
structure Job where
  /-- The answer to the question for the version. -/
  version : ProcessOutcome
  /-- What becomes of the process that formats the text. -/
  outcome : ProcessOutcome
  settings : FormatterSettings
  code : Content

namespace Job

/-- What processes do while the text is formatted. -/
def environment (job : Job) : Environment where
  version := job.version
  run _ _ := job.outcome

/-- The answer of a formatter that knows whether the program can be used. -/
def answer (usable : Bool) (job : Job) : Except FormatterError Content :=
  if usable then
    match formatCall job.settings job.code with
    | .error cause => .error cause
    | .ok _ => (result job.code job.outcome).map Content.endWithNewline
  else .ok job.code

/-- The processes that such a formatter starts for some texts: one for each whose settings give
arguments. -/
def started (usable : Bool) (jobs : List Job) : List ProcessCall :=
  if usable then jobs.filterMap fun job => (formatCall job.settings job.code).toOption else []

theorem started_false (jobs : List Job) : started false jobs = [] := rfl

theorem started_cons (usable : Bool) (job : Job) (rest : List Job) :
    started usable (job :: rest) = started usable [job] ++ started usable rest := by
  cases usable with
  | false => rfl
  | true =>
    simp only [started, if_true, List.filterMap_cons, List.filterMap_nil]
    cases (formatCall job.settings job.code).toOption <;> rfl

/-- Why a text gets no answer: no process can be started with the settings, the program is not there any
more, or the text cannot be encoded. -/
def failure? (usable : Bool) (job : Job) : Option FormatterError :=
  if usable then
    match formatCall job.settings job.code with
    | .error cause => some cause
    | .ok _ =>
      if job.outcome = .missing then some .missingProgram
      else if job.code.isWhole then none else some .notEncodable
  else none

theorem failure?_eq_none_iff {usable : Bool} {job : Job} :
    failure? usable job = none ↔
      (usable = true →
        GivesArguments job.settings ∧ job.outcome ≠ .missing ∧ job.code.isWhole = true) := by
  cases usable with
  | false => simp [failure?]
  | true =>
    have given : (∃ call, formatCall job.settings job.code = .ok call) ↔ _ := formatCall_isOk_iff
    rw [failure?, if_pos rfl, ← given]
    cases formatCall job.settings job.code with
    | error cause => simp
    | ok call => by_cases gone : job.outcome = .missing <;> simp [gone]

/-- **A text is served**: where the program is of no use it stays as it is, and else it is what the
program has put out, with exactly one line feed at its end. -/
inductive Served (usable : Bool) (job : Job) : Except FormatterError Content → Prop
  /-- The program was not there, or it did not answer, when it was asked for its version. -/
  | unusable : usable = false → Served usable job (.ok job.code)
  /-- The program is not there any more. -/
  | missing : usable = true → job.outcome = .missing → Served usable job (.ok job.code)
  /-- The program takes too long. -/
  | timeout : usable = true → job.outcome = .timeout → Served usable job (.ok job.code)
  /-- The program refuses the text. -/
  | refused {status : Int} {output : String} : usable = true →
      job.outcome = .finished status output → status ≠ 0 → Served usable job (.ok job.code)
  /-- The program formats the text. -/
  | formatted {output text : String} : usable = true → job.outcome = .finished 0 output →
      DiffersInEnd output text → Served usable job (.ok text)

/-- A text that ends once stays as it is. -/
theorem endWithNewline_code {job : Job} (once : EndsOnce job.code.shown) :
    job.code.endWithNewline = job.code := by
  rw [Content.endWithNewline, once.endWithNewline_eq]

/-- A text that gets an answer is served. -/
theorem answer_cases (usable : Bool) {job : Job} (once : EndsOnce job.code.shown) :
    match job.failure? usable with
    | some cause => job.answer usable = .error cause
    | none => job.Served usable (job.answer usable) := by
  cases usable with
  | false => exact .unusable rfl
  | true =>
    rw [answer, failure?, if_pos rfl, if_pos rfl]
    cases formatCall job.settings job.code with
    | error cause => rfl
    | ok call =>
      dsimp only
      cases ended : job.outcome with
      | missing => rfl
      | timeout =>
        rw [if_neg nofun, result]
        cases job.code.isWhole with
        | false => rfl
        | true =>
          rw [if_pos rfl, if_pos rfl, Except.map, endWithNewline_code once]
          exact .timeout rfl ended
      | finished status output =>
        rw [if_neg nofun, result]
        cases job.code.isWhole with
        | false => rfl
        | true =>
          rw [if_pos rfl, if_pos rfl, Except.map]
          by_cases well : status = 0
          · subst well
            exact .formatted rfl ended (Text.endWithNewline_eq_iff.1 rfl)
          · rw [if_neg (by simpa using well), endWithNewline_code once]
            exact .refused rfl ended well

end Job

/-- One formatter is given texts in order. -/
def formatAll (jobs : List Job) : StateM State (List (Except FormatterError Content)) :=
  jobs.mapM fun job => formatConverter job.environment job.settings job.code

/-- The first text is handled in the state that is found, and the others in the one that it leaves. -/
theorem run_formatAll_cons (job : Job) (rest : List Job) (state : State) :
    (formatAll (job :: rest)).run state =
      let one := (formatConverter job.environment job.settings job.code).run state
      let others := (formatAll rest).run one.2
      (one.1 :: others.1, others.2) := by
  rw [formatAll, List.mapM_cons]
  rfl

/-! ### One text -/

/-- The program is asked if it is not known whether it can be used. -/
theorem run_isAvailable (environment : Environment) (state : State) :
    (isAvailable environment).run state =
      let usable := state.available.getD (succeeds environment.version)
      (usable,
        { available := some usable
          calls := state.calls ++ if state.available.isNone then [versionCall] else [] }) := by
  obtain ⟨_ | usable, calls⟩ := state
  · rfl
  · rw [Option.isNone_some, if_neg Bool.false_ne_true, List.append_nil]
    rfl

/-- The program is run only if it is known that it can be used, and the settings give arguments. -/
theorem run_format (environment : Environment) (settings : FormatterSettings) (code : Content)
    (calls : List ProcessCall) :
    (format environment settings code).run ⟨some true, calls⟩ =
      match formatCall settings code with
      | .error cause => (.error cause, ⟨some true, calls⟩)
      | .ok call => (result code (environment.run calls call), ⟨some true, calls ++ [call]⟩) := by
  rw [format, StateT.run_bind, run_isAvailable]
  simp only [Option.getD_some, Option.isNone_some, Bool.false_eq_true, if_false, List.append_nil]
  cases formatCall settings code <;> rfl

/-- **One text**: the program is asked if it is not known yet, and run if it can be used. -/
theorem run_formatConverter (job : Job) (state : State) :
    (formatConverter job.environment job.settings job.code).run state =
      let usable := state.available.getD (succeeds job.version)
      (job.answer usable,
        { available := some usable
          calls := state.calls ++ (if state.available.isNone then [versionCall] else []) ++
            Job.started usable [job] }) := by
  have version : job.environment.version = job.version := rfl
  rw [formatConverter, StateT.run_bind, run_isAvailable, version]
  generalize state.available.getD (succeeds job.version) = usable
  generalize (state.calls ++ if state.available.isNone then [versionCall] else []) = calls
  cases usable with
  | false =>
    simp only [Job.started_false, List.append_nil]
    rfl
  | true =>
    have formats := run_format job.environment job.settings job.code calls
    change (StateT.run (format job.environment job.settings job.code >>= _) ⟨some true, calls⟩) = _
    rw [StateT.run_bind, formats]
    simp only [Job.answer, Job.started, if_true, List.filterMap_cons, List.filterMap_nil]
    cases formatCall job.settings job.code with
    | error cause =>
      simp only [Except.toOption, List.append_nil]
      rfl
    | ok call => rfl

/-! ### All texts -/

/-- Once it is known whether the program can be used, it is not asked again. -/
theorem run_formatAll_of_known (jobs : List Job) (usable : Bool) (calls : List ProcessCall) :
    (formatAll jobs).run ⟨some usable, calls⟩ =
      (jobs.map (Job.answer usable), ⟨some usable, calls ++ Job.started usable jobs⟩) := by
  induction jobs generalizing calls with
  | nil =>
    have none : Job.started usable [] = [] := by cases usable <;> rfl
    rw [none, List.append_nil]
    rfl
  | cons job rest ih =>
    rw [run_formatAll_cons, run_formatConverter]
    simp only [Option.getD_some, Option.isNone_some, Bool.false_eq_true, if_false, List.append_nil, ih,
      List.map_cons, Job.started_cons usable job rest, List.append_assoc]

/-- Can the program be used for these texts? It is asked before the first of them. -/
def usable : List Job → Bool
  | [] => false
  | first :: _ => succeeds first.version

/-- **All texts**: the program is asked once, before the first text, and if it answers well it is run
once for each of them whose settings give arguments. -/
theorem run_formatAll (jobs : List Job) :
    ((formatAll jobs).run {}).1 = jobs.map (Job.answer (usable jobs)) ∧
      ((formatAll jobs).run {}).2.calls =
        if jobs.isEmpty then [] else versionCall :: Job.started (usable jobs) jobs := by
  cases jobs with
  | nil => exact ⟨rfl, rfl⟩
  | cons first rest =>
    rw [run_formatAll_cons, run_formatConverter]
    simp only [Option.getD_none, Option.isNone_none, if_true, List.nil_append, run_formatAll_of_known]
    refine ⟨rfl, ?_⟩
    rw [List.append_assoc, ← Job.started_cons]
    rfl

/-- **Formatting is cosmetic, but for three causes.** Every text is served, except those for which the
settings give no arguments to a process, those for which a program that has answered before is not there
any more, and those that cannot be encoded; these end in an error. The program is asked for its version
once, before the first text, and if the answer was good it is run for each text whose settings give
arguments. So every call gives an answer exactly if none of the three happens after the program has
answered. -/
theorem formatAll_serves (jobs : List Job) (rendered : ∀ job ∈ jobs, EndsOnce job.code.shown) :
    (List.Forall₂ (fun job answer =>
        match job.failure? (usable jobs) with
        | some cause => answer = .error cause
        | none => job.Served (usable jobs) answer) jobs ((formatAll jobs).run {}).1) ∧
      (((formatAll jobs).run {}).2.calls =
        if jobs.isEmpty then [] else versionCall :: Job.started (usable jobs) jobs) ∧
      (List.Forall₂ (Job.Served (usable jobs)) jobs ((formatAll jobs).run {}).1 ↔
        (usable jobs = true → ∀ job ∈ jobs,
          GivesArguments job.settings ∧ job.outcome ≠ .missing ∧ job.code.isWhole = true)) := by
  obtain ⟨answers, calls⟩ := run_formatAll jobs
  have each (job : Job) (mem : job ∈ jobs) := Job.answer_cases (usable jobs) (rendered job mem)
  rw [answers]
  refine ⟨?_, calls, ?_⟩
  · rw [List.forall₂_map_right_iff, List.forall₂_same]
    exact each
  · rw [List.forall₂_map_right_iff, List.forall₂_same]
    constructor
    · intro served answered job mem
      refine Job.failure?_eq_none_iff.1 ?_ answered
      have here := each job mem
      split at here
      · have served := served job mem
        rw [here] at served
        cases served
      · assumption
    · intro there job mem
      have here := each job mem
      rwa [Job.failure?_eq_none_iff.2 fun answered => there answered job mem] at here

/-- A converter that is formatted, a second one whose settings give no text as the target version, and a
third one for which the program has gone. -/
def interruptedJobs : List Job := [
  { version := .finished 0 "ruff 0.6"
    outcome := .finished 0 "class B: ...\n\n"
    settings := {}
    code := PythonConverter.text {} { target := { converterName := "B" } } },
  { version := .missing
    outcome := .timeout
    settings := { targetVersion := .int 312 }
    code := PythonConverter.text {} { target := { converterName := "C" } } },
  { version := .missing
    outcome := .missing
    settings := {}
    code := PythonConverter.text {} { target := { converterName := "D" } } }]

/-- The last converter has no answer, although the program was there for the first one. -/
theorem formatAll_serves_interrupted :
    (∀ job ∈ interruptedJobs, EndsOnce job.code.shown) ∧
      ¬ List.Forall₂ (Job.Served true) interruptedJobs ((formatAll interruptedJobs).run {}).1 := by
  have rendered : ∀ job ∈ interruptedJobs, EndsOnce job.code.shown := by
    simp only [interruptedJobs, List.forall_mem_cons]
    exact ⟨PythonConverter.endsOnce_text _ _, PythonConverter.endsOnce_text _ _,
      PythonConverter.endsOnce_text _ _, nofun⟩
  refine ⟨rendered, fun served => ?_⟩
  obtain ⟨-, -, all⟩ := formatAll_serves interruptedJobs rendered
  have there := all.1 served rfl
  exact (there _ (List.mem_of_getLast? rfl)).2.1 rfl

end Ruff

end EnumCodec
