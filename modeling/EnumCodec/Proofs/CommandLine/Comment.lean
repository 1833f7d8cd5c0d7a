import EnumCodec.Proofs.CommandLine.Generation
import EnumCodec.Proofs.Text.LineEnds

/-!
# EnumCodec.Proofs.CommandLine.Comment

**The comment of converters is one line if the command line is mentioned on one.** The texts of a command
line come into the comment as they are. Where none of those that are mentioned ends a line, the comment is
one more line of each converter, whose other lines are those that it has without the comment. Where one of
them does, what stands behind the end of the line is no comment any more.
-/

namespace EnumCodec

open Activity FileTree

namespace CommandLine

variable {ends : LineEnds} {tree : FileTree}

/-! ### Words on one line -/

/-- Results that are there and are all on one line. -/
def EachOneLine (ends : LineEnds) (result : Except StorageError (List String)) : Prop :=
  ∃ words, result = .ok words ∧ ∀ word ∈ words, ends.IsOneLine word

/-- The value can be mentioned, and is so on one line. -/
def ValueOnOneLine (ends : LineEnds) (tree : FileTree) (value : Value) : Prop :=
  ∃ words, mentionValue tree value = .ok words ∧ ends.IsOneLine words

theorem eachOneLine_ok {words : List String} :
    EachOneLine ends (.ok words) ↔ ∀ word ∈ words, ends.IsOneLine word :=
  ⟨fun ⟨_, same, each⟩ => Except.ok.inj same ▸ each, fun each => ⟨words, rfl, each⟩⟩

/-- Results that follow each other are on one line if both are. -/
theorem eachOneLine_append {first second : Except StorageError (List String)} {fits : Prop}
    (here : EachOneLine ends first ↔ fits) :
    EachOneLine ends (do return (← first) ++ (← second)) ↔ fits ∧ EachOneLine ends second := by
  rw [← here]
  constructor
  · rintro ⟨words, found, each⟩
    obtain ⟨front, first, found⟩ := result_bind_eq_ok.1 found
    obtain ⟨back, second, found⟩ := result_bind_eq_ok.1 found
    cases found
    obtain ⟨before, behind⟩ := List.forall_mem_append.1 each
    exact ⟨⟨front, first, before⟩, ⟨back, second, behind⟩⟩
  · rintro ⟨⟨front, rfl, before⟩, ⟨back, rfl, behind⟩⟩
    exact ⟨front ++ back, rfl, List.forall_mem_append.2 ⟨before, behind⟩⟩

theorem eachOneLine_mapM {values : List Value} :
    EachOneLine ends (values.mapM (mentionValue tree)) ↔
      ∀ value ∈ values, ValueOnOneLine ends tree value := by
  induction values with
  | nil => exact eachOneLine_ok.trans (by simp)
  | cons value rest ih =>
    rw [List.forall_mem_cons, ← ih, List.mapM_cons]
    constructor
    · rintro ⟨words, found, each⟩
      obtain ⟨here, first, found⟩ := result_bind_eq_ok.1 found
      obtain ⟨others, later, found⟩ := result_bind_eq_ok.1 found
      cases found
      obtain ⟨before, behind⟩ := List.forall_mem_cons.1 each
      exact ⟨⟨here, first, before⟩, ⟨others, later, behind⟩⟩
    · rintro ⟨⟨here, first, before⟩, ⟨others, later, behind⟩⟩
      refine ⟨here :: others, ?_, List.forall_mem_cons.2 ⟨before, behind⟩⟩
      rw [first, later]
      rfl

/-- An option is on one line with its value if the value is. -/
theorem eachOneLine_option {long : String} (fits : ends.IsOneLine long) {value : Value} :
    EachOneLine ends ((mentionValue tree value).map fun text => [long, text]) ↔
      ValueOnOneLine ends tree value := by
  constructor
  · rintro ⟨words, both, each⟩
    obtain ⟨text, found, rfl⟩ := result_map_eq_ok.1 both
    exact ⟨text, found, each text (by simp)⟩
  · rintro ⟨text, found, behind⟩
    exact ⟨[long, text], result_map_eq_ok.2 ⟨text, found, rfl⟩, by simp [fits, behind]⟩

/-! ### The values that are mentioned -/

variable {values : List (String × Json)} {entries : List (String × ParameterKind)}

/-- The values that are mentioned for a parameter as an argument. -/
def argumentMentions (values : List (String × Json)) : String × ParameterKind → List Value
  | (name, .argument) =>
    ((values.lookup name).filter Json.truthy).toList.flatMap fun value =>
      argumentValues (parameterValue value)
  | _ => []

/-- The value that is mentioned behind an option. -/
def optionMentions (values : List (String × Json)) : String × ParameterKind → List Value
  | (name, .option _) =>
    ((values.lookup name).filter (!isDefault name ·)).toList.map parameterValue
  | _ => []

/-- The option of a parameter is on one line. -/
def LongOnOneLine (ends : LineEnds) : ParameterKind → Prop
  | .option long | .flag long => ends.IsOneLine long
  | .argument => True

theorem longOnOneLine_of_mem_parameters : ∀ entry ∈ parameters, LongOnOneLine ends entry.2 := by
  simp only [parameters, List.forall_mem_cons]
  refine ⟨?_, ?_, ?_, ?_, ?_, ?_, ?_, trivial, trivial, nofun⟩ <;>
    exact LineEnds.isOneLine_literal rfl (by decide)

theorem mentionArguments_iff :
    EachOneLine ends (mentionArguments tree values entries) ↔
      ∀ entry ∈ entries, ∀ value ∈ argumentMentions values entry, ValueOnOneLine ends tree value := by
  induction entries with
  | nil => exact eachOneLine_ok.trans (by simp)
  | cons entry rest ih =>
    obtain ⟨name, kind⟩ := entry
    rw [List.forall_mem_cons, ← ih]
    cases kind with
    | argument =>
      rw [mentionArguments, argumentMentions]
      cases values.lookup name with
      | none => exact eachOneLine_append (eachOneLine_ok.trans (by simp))
      | some json =>
        cases truth : json.truthy with
        | false =>
          simp only [truth, Bool.false_eq_true, if_false]
          exact eachOneLine_append (eachOneLine_ok.trans (by simp [truth]))
        | true =>
          simp only [truth, if_true]
          exact eachOneLine_append (eachOneLine_mapM.trans (by simp [truth]))
    | option long => simp [mentionArguments, argumentMentions]
    | flag long => simp [mentionArguments, argumentMentions]

theorem mentionOptions_iff (longs : ∀ entry ∈ entries, LongOnOneLine ends entry.2) :
    EachOneLine ends (mentionOptions tree values entries) ↔
      ∀ entry ∈ entries, ∀ value ∈ optionMentions values entry, ValueOnOneLine ends tree value := by
  induction entries with
  | nil => exact eachOneLine_ok.trans (by simp)
  | cons entry rest ih =>
    obtain ⟨name, kind⟩ := entry
    obtain ⟨long, others⟩ := List.forall_mem_cons.1 longs
    rw [List.forall_mem_cons, ← ih others, mentionOptions]
    cases found : values.lookup name with
    | none =>
      exact eachOneLine_append (eachOneLine_ok.trans (by cases kind <;> simp [optionMentions, found]))
    | some json =>
      cases default : isDefault name json with
      | true =>
        simp only [default, if_true]
        refine eachOneLine_append (eachOneLine_ok.trans ?_)
        cases kind <;> simp [optionMentions, found, default]
      | false =>
        simp only [default, Bool.false_eq_true, if_false]
        cases kind with
        | option text =>
          refine eachOneLine_append ((eachOneLine_option long).trans ?_)
          simp [optionMentions, found, default]
        | flag text =>
          refine eachOneLine_append (eachOneLine_ok.trans ?_)
          simpa [optionMentions, LongOnOneLine] using long
        | argument => exact eachOneLine_append (eachOneLine_ok.trans (by simp [optionMentions]))

/-- The words of a command line are those of its arguments and then those of its options. -/
theorem mentionParameters_eq (tree : FileTree) (values : List (String × Json)) :
    mentionParameters tree values =
      Except.map (fun words => " ".intercalate ("enum_json_converter" :: words))
        (do return (← mentionArguments tree values parameters) ++
          (← mentionOptions tree values parameters)) := by
  unfold mentionParameters
  cases mentionArguments tree values parameters with
  | error cause => rfl
  | ok front => cases mentionOptions tree values parameters <;> rfl

/-- **The command line is mentioned on one line** exactly if each of the values that come into it is. -/
theorem mentionParameters_iff :
    (∃ line, mentionParameters tree values = .ok line ∧ ends.IsOneLine line) ↔
      ∀ entry ∈ parameters,
        ∀ value ∈ argumentMentions values entry ++ optionMentions values entry,
          ValueOnOneLine ends tree value := by
  have program : ends.IsOneLine "enum_json_converter" := LineEnds.isOneLine_literal rfl (by decide)
  have each : EachOneLine ends (do
        return (← mentionArguments tree values parameters) ++
          (← mentionOptions tree values parameters)) ↔ _ :=
    (eachOneLine_append mentionArguments_iff).trans
      (and_congr_right' (mentionOptions_iff longOnOneLine_of_mem_parameters))
  simp only [List.forall_mem_append, forall_and]
  rw [← each, mentionParameters_eq]
  constructor
  · rintro ⟨_, joined, fits⟩
    obtain ⟨words, found, rfl⟩ := result_map_eq_ok.1 joined
    exact ⟨words, found, (List.forall_mem_cons.1 (LineEnds.isOneLine_intercalate.1 fits)).2⟩
  · rintro ⟨words, found, fits⟩
    refine ⟨_, result_map_eq_ok.2 ⟨words, found, rfl⟩, ?_⟩
    exact LineEnds.isOneLine_intercalate.2 (List.forall_mem_cons.2 ⟨program, fits⟩)

/-! ### The texts of an invocation -/

/-- **A text that is mentioned on one line**: of a path at which something is, the last name counts, and
of any other text all of it. A path at which nothing can be looked for is not mentioned at all. -/
def TextOnOneLine (ends : LineEnds) (tree : FileTree) (text : String) : Prop :=
  tree.contains (.ofText text) = .ok true ∧ ends.IsOneLine (Path.ofText text).name ∨
    tree.contains (.ofText text) = .ok false ∧ ends.IsOneLine text

theorem valueOnOneLine_text {text : String} :
    ValueOnOneLine ends tree (.text text) ↔ TextOnOneLine ends tree text := by
  unfold ValueOnOneLine TextOnOneLine mentionValue
  cases looked : tree.contains (.ofText text) with
  | error cause => simp [looked, bind, Except.bind]
  | ok found => cases found <;> simp [looked, bind, Except.bind, pure, Except.pure]

theorem forall_text_iff {texts : List String} :
    (∀ value ∈ texts.map Value.text, ValueOnOneLine ends tree value) ↔
      ∀ text ∈ texts, TextOnOneLine ends tree text := by
  simp only [List.forall_mem_map, valueOnOneLine_text]

/-- The name of a language is mentioned as it is, in any tree. -/
theorem valueOnOneLine_cs : ValueOnOneLine ends tree (.text "cs") := by
  have path : Path.ofText "cs" = ⟨.current, ["cs"]⟩ := by decide
  have line : ends.IsOneLine "cs" := LineEnds.isOneLine_literal rfl (by decide)
  have looked : ∃ found, tree.contains ⟨.current, ["cs"]⟩ = .ok found := by
    by_cases current : tree.get? tree.current = some .directory
    · exact (contains_name current "cs").2 ⟨by decide, .inr (by decide)⟩
    · -- Where there is no current directory, nothing is found, and the text counts.
      refine ⟨false, ?_⟩
      have begins : tree.start ⟨.current, ["cs"]⟩ = tree.current := rfl
      have short : ¬ maxPathSize < (Path.mk .current ["cs"]).text.utf8ByteSize := by decide
      have lost : tree.walk tree.current ["cs"] = .error .notADirectory := by
        unfold walk
        split
        · next directory => exact absurd directory current
        · rfl
      rw [contains, locate, if_neg short, begins, lost]
  obtain ⟨found, looked⟩ := looked
  rw [valueOnOneLine_text, TextOnOneLine, path, looked]
  cases found with
  | true => exact .inl ⟨rfl, line⟩
  | false => exact .inr ⟨rfl, line⟩

/-- The text of a value, if it is set; an empty text counts as none. -/
def setTexts (given : Option String) : List String :=
  given.toList.filter (!·.isEmpty)

/-- The texts on a command line that come into the comment. -/
def Invocation.mentioned (invocation : Invocation) : List String :=
  setTexts (invocation.config.map Path.text) ++ setTexts invocation.module ++
    setTexts (invocation.root.map Path.text) ++ invocation.paths.map Path.text ++
    setTexts (some invocation.output.text)

theorem optionMentions_eq {name long : String} {given : Option String}
    (found : values.lookup name = some ((given.map .string).getD .null)) (other : name ≠ "language") :
    optionMentions values (name, .option long) = (setTexts given).map .text := by
  have plain (text : String) : isDefault name (.string text) = text.isEmpty := by
    simp [isDefault, other, Json.truthy]
  cases given with
  | none => simp [optionMentions, found, isDefault, Json.truthy, setTexts]
  | some text =>
    cases empty : text.isEmpty <;>
      simp [optionMentions, found, plain, empty, setTexts, parameterValue, Value.ofJson]

theorem argumentMentions_eq {name : String} {given : Json}
    (found : values.lookup name = some given) :
    argumentMentions values (name, .argument) =
      if given.truthy then argumentValues (parameterValue given) else [] := by
  cases truth : given.truthy <;> simp [argumentMentions, found, truth, Option.filter]

variable {invocation : Invocation} {language : Language}

/-- Of the languages only one is ever mentioned. -/
theorem languageMentions_onOneLine (known : Language.ofName? invocation.language = some language) :
    ∀ value ∈ optionMentions invocation.values ("language", .option "--language"),
      ValueOnOneLine ends tree value := by
  have found : invocation.values.lookup "language" = some (.string invocation.language) := rfl
  unfold Language.ofName? at known
  split at known
  · -- This is the default, which is left out.
    next same => simp [optionMentions, found, same, isDefault]
  · split at known
    · next same =>
      simp [optionMentions, found, same, isDefault, Json.truthy, parameterValue, Value.ofJson,
        valueOnOneLine_cs]
    · cases known

theorem pathMentions_eq (invocation : Invocation) :
    argumentMentions invocation.values ("paths", .argument) =
      (invocation.paths.map Path.text).map .text := by
  have found : invocation.values.lookup "paths" =
      some (.array ((invocation.paths.map Path.text).map .string)) := by
    rw [List.map_map]
    rfl
  rw [argumentMentions_eq found, parameterValue, Value.ofJsonItems_strings, argumentValues]
  cases invocation.paths <;> simp [Json.truthy]

theorem outputMentions_eq (invocation : Invocation) :
    argumentMentions invocation.values ("output", .argument) =
      (setTexts (some invocation.output.text)).map .text := by
  have found : invocation.values.lookup "output" = some (.string invocation.output.text) := rfl
  rw [argumentMentions_eq found]
  cases empty : invocation.output.text.isEmpty <;>
    simp [setTexts, Json.truthy, empty, parameterValue, Value.ofJson, argumentValues]

/-- **An invocation is mentioned on one line** exactly if each of its texts is. -/
theorem mention_iff (known : Language.ofName? invocation.language = some language) :
    (∃ line, invocation.mention tree = .ok line ∧ ends.IsOneLine line) ↔
      ∀ text ∈ invocation.mentioned, TextOnOneLine ends tree text := by
  have config : invocation.values.lookup "config" =
      some (((invocation.config.map Path.text).map .string).getD .null) := by
    rw [Option.map_map]
    rfl
  have module : invocation.values.lookup "module" =
      some ((invocation.module.map .string).getD .null) := rfl
  have root : invocation.values.lookup "root" =
      some (((invocation.root.map Path.text).map .string).getD .null) := by
    rw [Option.map_map]
    rfl
  have language : (∀ value ∈ optionMentions invocation.values ("language", .option "--language"),
      ValueOnOneLine ends tree value) ↔ True := iff_true_intro (languageMentions_onOneLine known)
  rw [Invocation.mention, mentionParameters_iff]
  simp only [parameters, List.forall_mem_cons, List.forall_mem_append]
  rw [optionMentions_eq config (by decide), optionMentions_eq module (by decide),
    optionMentions_eq root (by decide), pathMentions_eq, outputMentions_eq]
  simp only [language, forall_text_iff, Invocation.mentioned, List.forall_mem_append]
  simp [argumentMentions, optionMentions, and_assoc]

end CommandLine

/-! ### The comment in the text of a converter -/

/-- The lines of a converter before its comment. -/
def Language.firstLines : Language → List String
  | .python => []
  | .cSharp => ["// <auto-generated />"]

theorem isOneLine_of_firstLines (ends : LineEnds) (language : Language) :
    ∀ line ∈ language.firstLines, ends.IsOneLine line := by
  cases language with
  | python => nofun
  | cSharp => exact List.forall_mem_singleton.2 (LineEnds.isOneLine_literal rfl (by decide))

/-- A text has a comment behind its first lines that another one has not; they do not differ otherwise. -/
structure IsCommented (language : Language) (comment : String) (plain text : Content) : Prop where
  isWhole : text.isWhole = plain.isWhole
  shown : ∃ rest, plain.shown = textOfLines language.firstLines ++ rest ∧
    text.shown = textOfLines language.firstLines ++ (comment ++ "\n" ++ rest)

namespace IsCommented

variable {language : Language} {comment : String} {plain text text' : Content} {ends : LineEnds}

/-- A text is commented in one way only. -/
theorem unique (commented : IsCommented language comment plain text)
    (other : IsCommented language comment plain text') : text = text' := by
  obtain ⟨isWhole, rest, without, shown⟩ := commented
  obtain ⟨isWhole', rest', without', shown'⟩ := other
  rw [without, String.append_right_inj] at without'
  have same : text.shown = text'.shown := by rw [shown, shown', without']
  exact Content.ext same (isWhole.trans isWhole'.symm)

/-- The comment is one more line exactly if no line ends inside it. -/
theorem linesOf_eq_iff (commented : IsCommented language comment plain text) :
    ends.linesOf text.shown =
        (ends.linesOf plain.shown).insertIdx language.firstLines.length comment.toList ↔
      ends.IsOneLine comment := by
  obtain ⟨-, rest, without, shown⟩ := commented
  rw [without, shown]
  have behind (lines : List (List Char)) :
      (language.firstLines.map String.toList ++ lines).insertIdx language.firstLines.length
        comment.toList = language.firstLines.map String.toList ++ comment.toList :: lines := by
    cases language <;> rfl
  have first := isOneLine_of_firstLines ends language
  rw [LineEnds.linesOf_textOfLines_append first, LineEnds.linesOf_textOfLines_append first, behind,
    List.append_cancel_left_eq, LineEnds.linesOf_eq_cons_iff]

theorem of_lines (language : Language) (comment : String) (rest : List String) (isWhole : Bool) :
    IsCommented language comment ⟨textOfLines (language.firstLines ++ rest), isWhole⟩
      ⟨textOfLines (language.firstLines ++ comment :: rest), isWhole⟩ where
  isWhole := rfl
  shown := ⟨textOfLines rest, textOfLines_append _ _, by rw [textOfLines_append, textOfLines_cons]⟩

/-- The comment of a layout changes nothing else in the text of a converter. -/
theorem of_converterText (language : Language) (layout : Layout) (comment : String)
    (conversion : Conversion) :
    IsCommented language comment
      (conversion.converterText language { layout with comment := none })
      (conversion.converterText language { layout with comment := some comment }) := by
  cases language with
  | python =>
    exact of_lines .python comment
      (PythonConverter.lines { layout with comment := none } conversion) _
  | cSharp =>
    exact of_lines .cSharp comment
      (CSharpConverter.lines { layout with comment := none } conversion).tail _

end IsCommented

namespace Generator

variable {generator : Generator} {comment : String}

/-- The generator whose converters have no comment. -/
def silent (generator : Generator) : Generator :=
  { generator with config := { generator.config with generationComment := .bool false } }

/-- **A comment of the converters** of a generator: it begins as comments do, the converters have it and
are otherwise those without a comment, and it is one more line of them exactly if no line ends inside
it. -/
structure HasComment (ends : LineEnds) (generator : Generator) (comment : String) : Prop where
  mark : generator.language.commentMark.toList <+: comment.toList
  text : ∀ conversion text, generator.render conversion = .ok text ↔
    ∃ plain, generator.silent.render conversion = .ok plain ∧
      IsCommented generator.language comment plain text
  line : ∀ conversion plain text, generator.silent.render conversion = .ok plain →
    generator.render conversion = .ok text →
      (ends.linesOf text.shown =
          (ends.linesOf plain.shown).insertIdx generator.language.firstLines.length comment.toList ↔
        ends.IsOneLine comment)

theorem comment_eq_ok (commented : generator.config.generationComment.truthy = true) :
    generator.comment = .ok (some comment) ↔ ∃ line, generator.commandLine = .ok line ∧
      comment = generationComment generator.language line := by
  rw [Generator.comment, if_pos commented]
  cases generator.commandLine <;> simp [eq_comm]

theorem isOneLine_generationComment {ends : LineEnds} {language : Language} {line : String} :
    ends.IsOneLine (generationComment language line) ↔ ends.IsOneLine line := by
  have mark : ends.IsOneLine language.commentMark := by
    cases language <;> exact LineEnds.isOneLine_literal rfl (by decide)
  have program : ends.IsOneLine " Generated by enum_json_converter v1.0.0 : " :=
    LineEnds.isOneLine_literal rfl (by decide)
  rw [generationComment, LineEnds.isOneLine_append, LineEnds.isOneLine_append, and_assoc,
    and_iff_right mark, and_iff_right program]

/-- The comment is what a generator adds to the texts of the silent one. -/
theorem render_eq_ok_iff (found : generator.comment = .ok (some comment)) (conversion : Conversion)
    {text : Content} : generator.render conversion = .ok text ↔
      ∃ plain, generator.silent.render conversion = .ok plain ∧
        IsCommented generator.language comment plain text := by
  have silent : generator.silent.comment = .ok none := rfl
  have usings : generator.silent.usings = generator.usings := rfl
  have language : generator.silent.language = generator.language := rfl
  have jsonHelpers : generator.silent.config.jsonHelpers = generator.config.jsonHelpers := rfl
  -- So the two layouts differ in the comment alone.
  simp only [render, layout, found, silent, usings, language, jsonHelpers]
  cases generator.usings with
  | error cause => simp [bind, Except.bind]
  | ok usings =>
    have added := IsCommented.of_converterText generator.language
      { jsonHelpers := generator.config.jsonHelpers.truthy
        usings := usings.map (·.shown), isWhole := usings.all (·.isWhole) } comment conversion
    simp only [bind, Except.bind, pure, Except.pure, Except.ok.injEq, exists_eq_left']
    exact ⟨fun same => same ▸ added, added.unique⟩

theorem hasComment (ends : LineEnds) (commented : generator.config.generationComment.truthy = true)
    (found : generator.comment = .ok (some comment)) : generator.HasComment ends comment where
  mark := by
    obtain ⟨line, -, rfl⟩ := (comment_eq_ok commented).1 found
    rw [generationComment, String.append_assoc, String.toList_append]
    exact List.prefix_append _ _
  text conversion text := render_eq_ok_iff found conversion
  line conversion plain text silent rendered := by
    obtain ⟨plain', same, added⟩ := (render_eq_ok_iff found conversion).1 rendered
    cases silent.symm.trans same
    exact added.linesOf_eq_iff

end Generator

namespace CommandLine

/-- **The comment of a command is on one line exactly if all that it mentions is**: no text that is
mentioned may hold the end of a line, whichever parameter it is the value of. Then the comment is one more
line of each converter, behind the first lines of its language, and otherwise it is more than a comment.
This is so for each notion of what ends a line. -/
theorem comment_isOneLine_iff (ends : LineEnds) {tree : FileTree} {invocation : Invocation}
    {config : Config} {generator : Generator} {tools : Tools}
    (made : Generator.make invocation.language config (invocation.mention tree) tools = .ok generator)
    (commented : config.generationComment.truthy = true) :
    ((∃ comment, generator.comment = .ok (some comment) ∧ ends.IsOneLine comment) ↔
        ∀ text ∈ invocation.mentioned, TextOnOneLine ends tree text) ∧
      ∀ comment, generator.comment = .ok (some comment) → generator.HasComment ends comment := by
  obtain ⟨known, same, line, -⟩ := Generator.of_make made
  rw [← same] at commented
  refine ⟨?_, fun comment => Generator.hasComment ends commented⟩
  simp only [← mention_iff known, Generator.comment_eq_ok commented, line]
  constructor
  · rintro ⟨_, ⟨words, mentioned, rfl⟩, fits⟩
    exact ⟨words, mentioned, Generator.isOneLine_generationComment.1 fits⟩
  · rintro ⟨words, mentioned, fits⟩
    exact ⟨_, ⟨words, mentioned, rfl⟩, Generator.isOneLine_generationComment.2 fits⟩

set_option maxRecDepth 100000 in
/-- A directory for converters with a line feed in its path ends the comment too early. -/
theorem comment_isOneLine_iff_broken :
    let tree : FileTree := { entries := [(["lamp.py"], .file "".toUTF8)] }
    let invocation : Invocation :=
      { paths := [⟨.slash, ["lamp.py"]⟩], output := ⟨.slash, ["out\nx = 1 #"]⟩ }
    let generator : Generator :=
      { language := .python, config := {}, tool := none
        commandLine := .ok "enum_json_converter lamp.py /out\nx = 1 #" }
    Invocation.read tree ["lamp.py", "out\nx = 1 #"] = .ok invocation ∧
      Generator.make invocation.language {} (invocation.mention tree) = .ok generator ∧
      ({} : Config).generationComment.truthy = true ∧
      (¬ ∃ comment, generator.comment = .ok (some comment) ∧ LineEnds.known.IsOneLine comment) ∧
      ∀ comment, generator.comment = .ok (some comment) → generator.HasComment .known comment := by
  intro tree invocation generator
  have read : Invocation.read tree ["lamp.py", "out\nx = 1 #"] = .ok invocation := rfl
  have mention : invocation.mention tree =
      .ok "enum_json_converter lamp.py /out\nx = 1 #" := by cbv
  have made : Generator.make invocation.language {} (invocation.mention tree) = .ok generator := by
    rw [mention]
    rfl
  have missing : tree.contains (.ofText "/out\nx = 1 #") = .ok false := by cbv
  have commented := comment_isOneLine_iff .known made rfl
  refine ⟨read, made, rfl, fun one => ?_, commented.2⟩
  obtain ⟨there, -⟩ | ⟨-, whole⟩ := commented.1.1 one "/out\nx = 1 #" (by decide)
  · rw [missing] at there
    cases there
  · exact absurd (whole '\n' (by decide)) (by decide)

end CommandLine

end EnumCodec
