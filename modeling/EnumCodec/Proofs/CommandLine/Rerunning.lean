import EnumCodec.Proofs.CommandLine.Failing
import EnumCodec.Proofs.CommandLine.Sources

/-!
# EnumCodec.Proofs.CommandLine.Rerunning

**Running a command again.** A command that replaces files and has ended well can be run again, and then
it changes nothing, unless what its first run brings into being gets in the way of the second one. What
that is follows from the files before the first run: the converters that are asked for, and the directories
on the way to them. A converter in Python may come to lie among the sources; read as one of them, it asks
for no converter, so each of the others is written again over the same text.
-/

namespace EnumCodec

open Activity FileTree
open Declaration (readDeclarations)

/-! ### The directory for converters -/

/-- Names that come first make up no longer a text. -/
theorem utf8ByteSize_intercalate_le (separator : String) (front back : List String) :
    (separator.intercalate front).utf8ByteSize ≤
      (separator.intercalate (front ++ back)).utf8ByteSize := by
  induction front with
  | nil => simp
  | cons name rest ih =>
    cases rest with
    | nil =>
      cases back with
      | nil => simp
      | cons next others =>
        rw [List.singleton_append, String.intercalate_singleton, String.intercalate_cons_cons,
          String.utf8ByteSize_append, String.utf8ByteSize_append]
        omega
    | cons next others =>
      rw [List.cons_append, List.cons_append, String.intercalate_cons_cons,
        String.intercalate_cons_cons, String.utf8ByteSize_append, String.utf8ByteSize_append,
        String.utf8ByteSize_append, String.utf8ByteSize_append]
      rw [List.cons_append] at ih
      omega

namespace FileTree

variable {tree : FileTree}

/-- A directory is in directories. -/
theorem isDirectory_of_append {front back : List String}
    (there : tree.isDirectory ⟨.slash, front ++ back⟩ = true) :
    tree.isDirectory ⟨.slash, front⟩ = true := by
  obtain ⟨goal, located, directory⟩ := isDirectory_iff.1 there
  unfold locate at located
  split at located
  · cases located
  · next size =>
    have begins (names : List String) : tree.start ⟨.slash, names⟩ = [] := rfl
    rw [begins, walk_append] at located
    cases walked : tree.walk [] front with
    | error error =>
      rw [walked] at located
      cases located
    | ok place =>
      rw [walked] at located
      -- The whole path is not too long, and so its beginning is not.
      have short : ¬ maxPathSize < (Path.mk .slash front).text.utf8ByteSize := by
        have longer := utf8ByteSize_intercalate_le "/" front back
        simp only [Path.text, String.utf8ByteSize_append] at size ⊢
        omega
      refine isDirectory_iff.2 ⟨place, by rw [locate, if_neg short, begins, walked], ?_⟩
      cases back with
      | nil =>
        cases located
        exact directory
      | cons name rest =>
        simp only [Except.bind, walk] at located
        split at located
        · next found => exact found
        · cases located

end FileTree

/-! ### Writing again -/

section Writing

variable {config : Config} {settings : OutputSettings} {language : Language} {output : Path}
  {files : List ConverterFile} {first last : WriteState} {paths : List Path}

/-- Where existing files are replaced, converters are written if no two have one path. -/
theorem writeOutcome_eq_ok_iff (unprotected : settings.mode.protectsFiles = false) :
    writeOutcome config settings language output files first = (.ok paths, last) ↔
      ((targetPaths output files).map (·.1)).Nodup ∧ paths = (targetPaths output files).map (·.1) ∧
        outcome (writeFiles settings language (targetPaths output files)) first = (.ok (), last) := by
  by_cases nodup : ((targetPaths output files).map (·.1)).Nodup
  · rw [writeOutcome_of_nodup config language nodup, if_neg (by simp [unprotected])]
    dsimp only
    rcases outcome (writeFiles settings language (targetPaths output files)) first with
      ⟨_ | _, after⟩ <;> simp [nodup, eq_comm]
  · obtain ⟨cause, refused⟩ := writeOutcome_of_shared config language nodup
    rw [refused]
    simp [nodup]

/-- **Converters that have been written are written again**, or some of them are, and nothing changes. -/
theorem writeOutcome_again (unprotected : settings.mode.protectsFiles = false)
    (resolved : output.IsResolved) (units : ∀ file ∈ files, file.path.IsUnit)
    (ran : writeOutcome config settings language output files first = (.ok paths, last))
    {others : List ConverterFile} (some : others.Subperm files) (log : List LogRecord) :
    ∃ log', writeOutcome config settings language output others ⟨last.tree, log⟩ =
      (.ok ((targetPaths output others).map (·.1)), ⟨last.tree, log'⟩) := by
  obtain ⟨nodup, -, written⟩ := (writeOutcome_eq_ok_iff unprotected).1 ran
  have again := writesAgain_of_writeFiles (apart_targetPaths first.tree resolved units nodup) written
  -- Paths that are apart stay so when some are left out and the others change places.
  obtain ⟨kept, perm, sub⟩ := some
  have perm' : (targetPaths output kept).Perm (targetPaths output others) := perm.map _
  have sub' : (targetPaths output kept).Sublist (targetPaths output files) := sub.map _
  have fewer : ∀ target ∈ targetPaths output others,
      WritesAgain settings language last.tree target := fun target mem =>
    again target (sub'.subset (perm'.symm.subset mem))
  obtain ⟨log', rewritten⟩ := writeFiles_again fewer log
  refine ⟨log', (writeOutcome_eq_ok_iff unprotected).2 ⟨?_, rfl, rewritten⟩⟩
  exact (perm'.map _).nodup_iff.1 ((sub'.map _).nodup nodup)

/-- Where a converter has been written the directory for converters is there. -/
theorem isDirectory_of_writeOutcome (unprotected : settings.mode.protectsFiles = false)
    (resolved : output.IsResolved) (units : ∀ file ∈ files, file.path.IsUnit)
    (ran : writeOutcome config settings language output files first = (.ok paths, last))
    {file : ConverterFile} (mem : file ∈ files) : last.tree.isDirectory output = true := by
  obtain ⟨nodup, -, written⟩ := (writeOutcome_eq_ok_iff unprotected).1 ran
  have again := writesAgain_of_writeFiles (apart_targetPaths first.tree resolved units nodup) written
  have target : (output.append file.path, file) ∈ targetPaths output files :=
    List.mem_map.2 ⟨file, mem, rfl⟩
  have there := (again _ target).rewritable.directory
  obtain ⟨directories, name, names, -, -⟩ := (units file mem).names
  -- The directory of the converter lies below the one for converters.
  rw [Path.parent, Path.append, if_pos (units file mem).root, names, ← List.append_assoc,
    List.dropLast_concat, resolved.root] at there
  have below := isDirectory_of_append there
  rwa [← resolved.root] at below

/-- Writing no converters changes nothing. -/
theorem writeOutcome_nil (unprotected : settings.mode.protectsFiles = false)
    (ran : writeOutcome config settings language output [] first = (.ok paths, last)) :
    last = first := by
  obtain ⟨-, -, written⟩ := (writeOutcome_eq_ok_iff unprotected).1 ran
  cases written
  rfl

end Writing

/-! ### Several items -/

namespace Activity

variable {ε α β : Type} {first second : α → Except ε (List β)}

/-- What is there of a result that is a list. -/
def itemsOf (result : Except ε (List β)) : List β :=
  result.toOption.getD []

theorem mapM_eq_ok_iff {items : List α} {values : List (List β)} :
    items.mapM first = .ok values ↔
      (∀ item ∈ items, first item = .ok (itemsOf (first item))) ∧
        values = items.map fun item => itemsOf (first item) := by
  induction items generalizing values with
  | nil => simp [pure, Except.pure, eq_comm]
  | cons item rest ih =>
    rw [List.mapM_cons, result_bind_eq_ok, List.forall_mem_cons, List.map_cons]
    constructor
    · rintro ⟨here, found, all⟩
      obtain ⟨others, found', all⟩ := result_bind_eq_ok.1 all
      cases all
      obtain ⟨each, rfl⟩ := ih.1 found'
      rw [found]
      exact ⟨⟨rfl, each⟩, rfl⟩
    · rintro ⟨⟨here, each⟩, rfl⟩
      exact ⟨_, here, result_bind_eq_ok.2 ⟨_, ih.2 ⟨each, rfl⟩, rfl⟩⟩

/-- What gives nothing can be left out. -/
theorem flatMap_filter_eq {f : α → List β} {keep : α → Bool} {items : List α}
    (none : ∀ item ∈ items, keep item = false → f item = []) :
    (items.filter keep).flatMap f = items.flatMap f := by
  induction items with
  | nil => rfl
  | cons item rest ih =>
    obtain ⟨here, others⟩ := List.forall_mem_cons.1 none
    cases keeps : keep item with
    | true => rw [List.filter_cons_of_pos keeps, List.flatMap_cons, List.flatMap_cons, ih others]
    | false =>
      rw [List.filter_cons_of_neg (by simp [keeps]), List.flatMap_cons, here keeps, ih others,
        List.nil_append]

/-- Where some items give the same as before and the others give nothing, no more comes of all of them than
before. -/
theorem exists_mapM_subperm {old new : List α} {values : List (List β)} (keep : α → Bool)
    (perm : (new.filter keep).Perm (old.filter keep)) (all : old.mapM first = .ok values)
    (kept : ∀ item ∈ new, keep item = true → second item = first item)
    (dropped : ∀ item ∈ new, keep item = false → second item = .ok []) :
    ∃ others, new.mapM second = .ok others ∧ others.flatten.Subperm values.flatten := by
  obtain ⟨each, rfl⟩ := mapM_eq_ok_iff.1 all
  refine ⟨_, mapM_eq_ok_iff.2 ⟨fun item mem => ?_, rfl⟩, ?_⟩
  · cases keeps : keep item with
    | true =>
      have there := (List.mem_filter.1 (perm.subset (List.mem_filter.2 ⟨mem, keeps⟩))).1
      rw [kept item mem keeps]
      exact each item there
    | false =>
      rw [dropped item mem keeps]
      rfl
  · rw [← List.flatMap_def, ← List.flatMap_def]
    -- Only the items that are kept give anything, and they are those of before in another order.
    have fewer : new.flatMap (fun item => itemsOf (second item)) =
        (new.filter keep).flatMap fun item => itemsOf (first item) := by
      rw [← flatMap_filter_eq fun item mem drops => by rw [dropped item mem drops]; rfl]
      refine List.flatMap_congr fun item mem => ?_
      obtain ⟨inside, keeps⟩ := List.mem_filter.1 mem
      rw [kept item inside keeps]
    rw [fewer]
    exact (perm.flatMap_right _).subperm.trans (List.filter_sublist.flatMap _).subperm

end Activity

namespace CommandLine

variable {before after : FileTree} {arguments : List String} {invocation : Invocation}

/-! ### Commands that can be run again -/

/-- **A conversion that a command writes a converter for**, in its language. -/
structure Invocation.Gives (tree : FileTree) (invocation : Invocation) (language : Language)
    (module : String) (conversion : Conversion) : Prop where
  language : Language.ofName? invocation.language = some language
  asks : invocation.Asks tree module conversion

/-- The path of a converter. -/
def Invocation.targetOf (invocation : Invocation) (language : Language) (conversion : Conversion) :
    Path :=
  invocation.output.append (conversion.unitPath language)

/-- Is the place that of a converter? -/
def Invocation.Overwrites (tree : FileTree) (invocation : Invocation) (place : Place) : Prop :=
  ∃ language module conversion, invocation.Gives tree language module conversion ∧
    tree.placeOf (invocation.targetOf language conversion) = place

/-- Is the place that of a converter, or that of a directory on the way to one? -/
def Invocation.Reaches (tree : FileTree) (invocation : Invocation) (place : Place) : Prop :=
  ∃ language module conversion, invocation.Gives tree language module conversion ∧
    tree.Passes (invocation.targetOf language conversion) place

/-- Have the converters no comment? -/
def Invocation.IsSilent (tree : FileTree) (invocation : Invocation) : Prop :=
  ∃ config, readConfig tree invocation = .ok config ∧ config.generationComment.truthy = false

/-- **A converter that can be read as a source**: it is in Python, its names are no keywords and its comment
is one line, so it is a module of the language; and where it lies it is a module of the command. -/
structure Invocation.CanReread (tree : FileTree) (invocation : Invocation) (language : Language)
    (module : String) (conversion : Conversion) : Prop where
  python : language = .python
  module : Source.IsReference module
  names : conversion.AvoidsKeywords
  comment : invocation.IsSilent tree ∨
    ∃ line, invocation.mention tree = .ok line ∧ Reading.isUnbroken line = true
  below : ∃ name, invocation.moduleOf (invocation.targetOf language conversion) = .ok name

/-- **A command whose converters do not get in its way.** Its configuration is not written over. Its comment
is worded alike when the converters are there: neither the directory for them nor the name of the module,
taken for a path, comes into being with them. Where something new is read as a source it is a converter, and
the module has not been given a name, which would be too many sources for one. Any converter that is read as
a source can be read as one. -/
structure Invocation.IsRepeatable (tree : FileTree) (invocation : Invocation) : Prop where
  relative : ∀ module, invocation.module = some module → IsRelative module
  config : ∀ path, invocation.config = some path → ¬ invocation.Overwrites tree (tree.placeOf path)
  comment : invocation.IsSilent tree ∨
    ∀ text, text = invocation.output.text ∨ invocation.module = some text →
      Slashless text ∨ ¬ tree.Appears (invocation.Reaches tree) (.ofText text)
  sources : ∀ place, invocation.Reaches tree place → tree.get? place = none →
    invocation.Reads tree place → invocation.module = none ∧ invocation.Overwrites tree place
  reread : ∀ language module conversion, invocation.Gives tree language module conversion →
    invocation.Reads tree (tree.placeOf (invocation.targetOf language conversion)) →
      invocation.CanReread tree language module conversion

/-! ### What a first run leaves -/

/-- **What a first run leaves** that has ended well: converters for all that is asked for have been written,
and nothing else but directories on the way to them has come. -/
structure HasWritten (before after : FileTree) (invocation : Invocation) (config : Config)
    (generator : Generator) (files : List ConverterFile) : Prop where
  applied : ∃ given, readConfig before invocation = .ok given ∧ applyFlags invocation given = .ok config
  one : invocation.module.isSome = true → (invocation.sources before).length = 1
  makes : Generator.make invocation.language config (invocation.mention before) = .ok generator
  given : ∃ groups, (invocation.sources before).mapM (sourceConverters before generator invocation) =
    .ok groups ∧ groups.flatten = files
  resolved : invocation.output.IsResolved
  units : ∀ file ∈ files, file.path.IsUnit
  nodup : ((targetPaths invocation.output files).map (·.1)).Nodup
  whole : ∀ file ∈ files, file.content.isWhole = true
  holds : Holds before after (OnTheWay before (targetPaths invocation.output files))
    (targetPaths invocation.output files)

theorem path_of_converterOf {generator : Generator} {conversion : Conversion} {file : ConverterFile}
    (made : generator.converterOf conversion = .ok file) :
    file.path = conversion.unitPath generator.language ∧
      generator.render conversion = .ok file.content := by
  unfold Generator.converterOf at made
  split at made
  · cases made
  · obtain ⟨text, unformatted, rfl⟩ := result_map_eq_ok.1 made
    exact ⟨rfl, Generator.render_of_unformatted unformatted⟩

/-- A first run leaves what has been written. -/
theorem hasWritten_of_outcomes {config : Config} {settings : OutputSettings} {language : Language}
    {files : List ConverterFile} {made : GeneratorState} {last : WriteState} {paths : List Path}
    {log : List LogRecord}
    (resolved : invocation.output.IsResolved) (units : ∀ file ∈ files, file.path.IsUnit)
    (unprotected : settings.mode.protectsFiles = false)
    (generated : outcome (generateAll before invocation) {} = (.ok (config, language, files), made))
    (wrote : writeOutcome config settings language invocation.output files ⟨before, log⟩ =
      (.ok paths, last)) :
    ∃ generator, generator.language = language ∧
      HasWritten before last.tree invocation config generator files := by
  obtain ⟨given, read, flags, one, generator, groups, makes, all, known, rfl⟩ :=
    generateAll_eq_ok_iff.1 generated
  obtain ⟨nodup, -, written⟩ := (writeOutcome_eq_ok_iff unprotected).1 wrote
  -- No formatter is there, so each source is given its converters whatever came before it.
  obtain ⟨_, ran⟩ := mapM_generateSource_does (isFresh_of_make makes) (invocation.sources before)
  obtain ⟨after, same, whole, holds⟩ | ⟨_, _, _, _, _, _, _, -, same, -⟩ :=
    writeFiles_run settings language (targetPaths invocation.output groups.flatten)
      ⟨before, log⟩
  · rw [written] at same
    cases same
    refine ⟨generator, known, ⟨given, read, flags⟩, one, makes, ⟨groups, ?_, rfl⟩, resolved, units, nodup,
      fun file mem => whole _ (List.mem_map.2 ⟨file, mem, rfl⟩), holds⟩
    exact congrArg Prod.fst (ran.symm.trans all)
  · rw [written] at same
    cases same

namespace HasWritten

variable {config : Config} {generator : Generator} {files : List ConverterFile} {place : Place}
  (written : HasWritten before after invocation config generator files)

include written

/-- Each of the converters is made of a conversion that the command asks for. -/
theorem gives {file : ConverterFile} (mem : file ∈ files) :
    ∃ module conversion, invocation.Gives before generator.language module conversion ∧
      invocation.output.append file.path = invocation.targetOf generator.language conversion := by
  obtain ⟨groups, given, rfl⟩ := written.given
  obtain ⟨module, conversion, asks, made⟩ := asks_of_sourceConverters given file mem
  refine ⟨module, conversion, ⟨(Generator.of_make written.makes).1, asks⟩, ?_⟩
  rw [Invocation.targetOf, (path_of_converterOf made).1]

/-- A converter has been written where the command writes one. -/
theorem exists_file {language : Language} {module : String} {conversion : Conversion}
    (gives : invocation.Gives before language module conversion) :
    language = generator.language ∧ ∃ file ∈ files, generator.converterOf conversion = .ok file ∧
      invocation.output.append file.path = invocation.targetOf language conversion := by
  obtain rfl : language = generator.language :=
    Option.some.inj (gives.language.symm.trans (Generator.of_make written.makes).1)
  obtain ⟨groups, given, rfl⟩ := written.given
  obtain ⟨file, mem, made⟩ := exists_file_of_asks given gives.asks
  refine ⟨rfl, file, mem, made, ?_⟩
  rw [Invocation.targetOf, (path_of_converterOf made).1]

/-- Converters have been written only where the command writes some. -/
theorem unwritten (away : ¬ invocation.Overwrites before place) :
    lastContent? before (targetPaths invocation.output files) place = none := by
  refine lastContent?_eq_none fun target mem same => away ?_
  obtain ⟨file, inside, rfl⟩ := List.mem_map.1 mem
  obtain ⟨module, conversion, gives, target⟩ := written.gives inside
  exact ⟨_, module, conversion, gives, by rw [← target]; exact same⟩

/-- Something has come only where the command writes converters, and on the way there. -/
theorem writes : Writes before after (invocation.Reaches before)
    (lastContent? before (targetPaths invocation.output files)) := by
  refine written.holds.writes.mono fun place way => ?_
  obtain ⟨target, mem, passes⟩ := way
  obtain ⟨file, inside, rfl⟩ := List.mem_map.1 mem
  obtain ⟨module, conversion, gives, target⟩ := written.gives inside
  exact ⟨_, module, conversion, gives, by rw [← target]; exact passes⟩

/-- The path of a converter is made up of the names that lead to its place. -/
theorem target_eq {file : ConverterFile} (mem : file ∈ files) :
    invocation.output.append file.path =
      ⟨.slash, before.placeOf (invocation.output.append file.path)⟩ := by
  have isUnit := written.units file mem
  rw [placeOf_append written.resolved isUnit, Path.append, if_pos isUnit.root, written.resolved.root]

/-- Each of the converters can be read where it has been written. -/
theorem read {file : ConverterFile} (mem : file ∈ files) :
    after.read (invocation.output.append file.path) = .ok file.content.bytes := by
  have apart := apart_targetPaths before written.resolved written.units written.nodup
  obtain ⟨front, back, split⟩ := List.append_of_mem
    (show (invocation.output.append file.path, file) ∈ targetPaths invocation.output files from
      List.mem_map.2 ⟨file, mem, rfl⟩)
  have holds := written.holds
  rw [split] at holds
  refine holds.read fun later inside => Ne.symm ?_
  have distinct := apart.distinct
  rw [split, List.pairwise_append, List.pairwise_cons] at distinct
  exact distinct.2.1.1 later inside

end HasWritten

/-! ### What a second run generates -/

namespace HasWritten

variable {config : Config} {generator : Generator} {files : List ConverterFile}
  (written : HasWritten before after invocation config generator files)
  (repeatable : invocation.IsRepeatable before)

include written

/-- In silence the generator makes no comments. -/
theorem generationComment_of_isSilent (silent : invocation.IsSilent before) :
    generator.config.generationComment.truthy = false := by
  obtain ⟨given, read, flags⟩ := written.applied
  obtain ⟨given', read', off⟩ := silent
  cases read.symm.trans read'
  obtain ⟨output, formatter, rfl, -⟩ := applyFlags_eq_ok flags
  rw [(Generator.of_make written.makes).2.1]
  exact off

/-- **A converter that is read again** asks for nothing, whatever the generator. -/
theorem sourceConverters_target {language : Language} {module : String} {conversion : Conversion}
    (gives : invocation.Gives before language module conversion)
    (can : invocation.CanReread before language module conversion) (other : Generator) :
    sourceConverters after other invocation (invocation.targetOf language conversion) = .ok [] := by
  obtain ⟨rfl, file, mem, made, target⟩ := written.exists_file gives
  obtain ⟨source, named, read, parses, declares, asked⟩ := gives.asks
  have own := can.module.isDottedName
  obtain ⟨declared, labels⟩ :=
    conversionsOf_isDeclared Declaration.isKind_dottedName (.inr own) parses declares conversion asked
  have names := declared.isWellNamed (.inr own)
  have python := declared.hasPythonNames can.module can.names
  have oneLine : generator.MentionsOneLine := by
    refine can.comment.imp written.generationComment_of_isSilent fun ⟨line, mentioned, unbroken⟩ => ?_
    exact ⟨line, (Generator.of_make written.makes).2.2.1.trans mentioned, unbroken⟩
  obtain ⟨layout, unbroken, -, content⟩ :=
    oneLine.isPythonText can.python (path_of_converterOf made).2
  -- What has been written is the text of a converter, with line feeds only.
  have bytes : file.content.bytes = (PythonConverter.text layout conversion).toUTF8 := by
    rw [Content.bytes, Content.encode?, if_pos (written.whole file mem), content]
    rfl
  have unified : '\r' ∉ (PythonConverter.text layout conversion).toList := fun found =>
    (PythonConverter.mem_text unbroken names labels found).elim (by decide) (by decide)
  have text := readText_of_read (bytes ▸ target ▸ written.read mem) unified
  obtain ⟨name, below⟩ := can.below
  rw [sourceConverters, below]
  dsimp only
  rw [text]
  dsimp only
  rw [PythonConverter.convertersOf_text unbroken names labels python]
  rfl

/-- A source over which no converter has been written gives the same converters again. -/
theorem sourceConverters_again (real : before.IsReal) (isRead : invocation.IsRead before)
    {other : Generator} (same : other.convertersOf = generator.convertersOf) {path : Path}
    (source : path ∈ invocation.sources before) (away : ¬ invocation.Overwrites before path.names) :
    sourceConverters after other invocation path =
      sourceConverters before generator invocation path := by
  obtain ⟨groups, given, -⟩ := written.given
  obtain ⟨files, -, one⟩ := exists_of_mapM_eq_ok given source
  obtain ⟨_, text, _, _, -, read, -⟩ := sourceConverters_eq_ok_iff.1 one
  have place : before.placeOf path = path.names := by
    have absolute := isAbsolute_of_mem_sources real isRead source
    rw [placeOf, start, absolute.root, if_neg (by decide),
      follow_eq_append fun mem => (absolute.names _ mem).2 rfl, List.nil_append]
  -- Nothing has been written where the source is, so it has the text that it had.
  have unwritten := written.unwritten (place.symm ▸ away)
  have again : after.read path = before.read path := by
    cases old : before.read path with
    | error cause => simp [readText, old] at read
    | ok bytes => exact read_of_unwritten written.writes old unwritten
  rw [sourceConverters_of_read again]
  unfold sourceConverters
  rw [same]

include repeatable

/-- The configuration is read again. -/
theorem readConfig_again {given : Config} (read : readConfig before invocation = .ok given) :
    readConfig after invocation = .ok given := by
  unfold readConfig at read ⊢
  cases named : invocation.config with
  | none =>
    rw [named] at read
    exact read
  | some path =>
    rw [named] at read
    have unwritten := written.unwritten (repeatable.config path named)
    cases old : before.read path with
    | error cause =>
      simp only [readText, old] at read
      cases read
    | ok bytes =>
      simp only [readText, old, read_of_unwritten written.writes old unwritten] at read ⊢
      exact read

variable (real : before.IsReal) (isRead : invocation.IsRead before)

include isRead

/-- Where a module has been given its name there is one source again. -/
theorem length_sources_again (named : invocation.module.isSome = true) :
    (invocation.sources after).length = 1 := by
  have perm := filter_sources_perm written.writes isRead.paths (fun _ => true)
    fun place reaches new reads => by simp [(repeatable.sources place reaches new reads).1] at named
  rw [List.filter_true, List.filter_true] at perm
  rw [perm.length_eq, written.one named]

include real

/-- The command line is mentioned again in the same words, if it is mentioned at all. -/
theorem mention_again (heard : ¬ invocation.IsSilent before) :
    invocation.mention after = invocation.mention before := by
  have keeps := written.writes.keeps
  have words (text : String) (mentioned : text = invocation.output.text ∨ invocation.module = some text) :
      SameWords before after (.text text) := by
    rcases repeatable.comment.resolve_left heard text mentioned with slashless | hidden
    · exact sameWords_of_slashless keeps real.current slashless
    · exact sameWords_of_contains (contains_of_not_appears written.writes hidden)
  exact mention_of_keeps keeps real isRead (words _ (.inl rfl)) fun module named => words _ (.inr named)

/-- The second generator gives the same converters. -/
theorem make_again : ∃ other,
    Generator.make invocation.language config (invocation.mention after) = .ok other ∧
      other.convertersOf = generator.convertersOf := by
  by_cases silent : invocation.IsSilent before
  · have off := written.generationComment_of_isSilent silent
    refine ⟨generator.mentioning (invocation.mention after), ?_,
      Generator.convertersOf_mentioning off _⟩
    rw [Generator.make_mentioning invocation.language config (invocation.mention before), written.makes]
    rfl
  · rw [written.mention_again repeatable real isRead silent]
    exact ⟨generator, written.makes, rfl⟩

/-- **What a second run generates**: some of the converters that the first one has. -/
theorem generates_again : ∃ others made,
    outcome (generateAll after invocation) {} = (.ok (config, generator.language, others), made) ∧
      others.Subperm files := by
  classical
  obtain ⟨given, read, flags⟩ := written.applied
  obtain ⟨other, makes, same⟩ := written.make_again repeatable real isRead
  obtain ⟨groups, all, rfl⟩ := written.given
  have perm := filter_sources_perm written.writes isRead.paths
    (fun path => decide ¬ invocation.Overwrites before path.names) fun place reaches new reads =>
      decide_eq_false (not_not_intro (repeatable.sources place reaches new reads).2)
  -- The sources that stay as they are give what they gave, and those that are converters give nothing.
  have kept : ∀ path ∈ invocation.sources after,
      decide (¬ invocation.Overwrites before path.names) = true →
        sourceConverters after other invocation path =
          sourceConverters before generator invocation path := by
    intro path mem keeps
    have source := (List.mem_filter.1 (perm.subset (List.mem_filter.2 ⟨mem, keeps⟩))).1
    exact written.sourceConverters_again real isRead same source (of_decide_eq_true keeps)
  have dropped : ∀ path ∈ invocation.sources after,
      decide (¬ invocation.Overwrites before path.names) = false →
        sourceConverters after other invocation path = .ok [] := by
    intro path mem drops
    obtain ⟨language, module, conversion, gives, place⟩ := not_not.1 (of_decide_eq_false drops)
    obtain ⟨root, reads⟩ := reads_of_mem_sources written.writes isRead.paths mem
    obtain ⟨-, file, inside, -, target⟩ := written.exists_file gives
    have here : path = invocation.targetOf language conversion := by
      have names := written.target_eq inside
      rw [target, place, ← root] at names
      exact names.symm
    rw [here]
    exact written.sourceConverters_target gives
      (repeatable.reread language module conversion gives (place.symm ▸ reads)) other
  obtain ⟨groups', all', fewer⟩ := exists_mapM_subperm _ perm all kept dropped
  obtain ⟨last, ran⟩ := mapM_generateSource_does (isFresh_of_make makes) (invocation.sources after)
  have known := (Generator.of_make makes).1.symm.trans (Generator.of_make written.makes).1
  exact ⟨groups'.flatten, last, generateAll_eq_ok_iff.2 ⟨given, written.readConfig_again repeatable read,
    flags, written.length_sources_again repeatable isRead, other, groups', makes, all' ▸ ran,
    Option.some.inj known, rfl⟩, fewer⟩

end HasWritten

/-! ### Running again -/

/-- What a command has done that has ended well. -/
theorem outcomes_of_run (ended : (run before arguments).exitCode = 0) :
    ∃ invocation config language files made paths last,
      Invocation.read before arguments = .ok invocation ∧
      outcome (generateAll before invocation) {} = (.ok (config, language, files), made) ∧
      outcome (writeConverters config language invocation.output files) ⟨before, made.log⟩ =
        (.ok paths, last) := by
  unfold run at ended
  split at ended
  · exact absurd ended (exitCode_ofAbort _ _ _)
  · next invocation read =>
    unfold Invocation.run at ended
    rcases generates : outcome (generateAll before invocation) {} with
      ⟨abort | ⟨config, language, files⟩, made⟩
    · have ran : (generateAll before invocation).run.run {} = (.error abort, made) := generates
      rw [ran] at ended
      exact absurd ended (exitCode_ofAbort _ _ _)
    · have ran : (generateAll before invocation).run.run {} = (.ok (config, language, files), made) :=
        generates
      rw [ran] at ended
      dsimp only at ended
      unfold writeAll at ended
      rcases writes : outcome (writeConverters config language invocation.output files)
        ⟨before, made.log⟩ with ⟨failure | paths, last⟩
      · have wrote : (writeConverters config language invocation.output files).run.run
            ⟨before, made.log⟩ = (.error failure, last) := writes
        rw [wrote] at ended
        dsimp only at ended
        split at ended
        · next same => cases same
        · exact absurd ended (exitCode_ofAbort _ _ _)
        · exact absurd ended (exitCode_ofAbort _ _ _)
      · exact ⟨invocation, config, language, files, made, paths, last, read, generates, writes⟩

/-- **Running a command again** ends well and changes nothing, if the command replaces files, its first run
has ended well, and its converters do not get in its way. -/
theorem run_again (real : before.IsReal) (read : Invocation.read before arguments = .ok invocation)
    (forced : invocation.force = true) (repeatable : invocation.IsRepeatable before)
    (ended : (run before arguments).exitCode = 0) :
    (run (run before arguments).tree arguments).exitCode = 0 ∧
      (run (run before arguments).tree arguments).tree = (run before arguments).tree := by
  obtain ⟨invocation', config, language, files, made, paths, last, read', generated, wrote⟩ :=
    outcomes_of_run ended
  cases read.symm.trans read'
  obtain ⟨-, left⟩ := run_of_outcomes read generated wrote
  rw [left]
  obtain ⟨isRead, absolute⟩ := read_isRead real read
  -- The converters come to lie below the directory for them, each at a place of its own.
  have resolved : invocation.output.IsResolved :=
    ⟨absolute.root, fun mem => (absolute.names _ mem).2 rfl⟩
  have units := isUnit_of_generateAll real isRead repeatable.relative generated
  obtain ⟨settings, output, unprotected⟩ : ∃ settings, config.output = .settings settings ∧
      settings.mode.protectsFiles = false := by
    obtain ⟨given, -, flags, -⟩ := generateAll_eq_ok_iff.1 generated
    obtain ⟨output, formatter, rfl, mode⟩ := applyFlags_eq_ok flags
    rw [if_pos forced] at mode
    obtain ⟨settings, rfl⟩ := mode
    exact ⟨_, rfl, rfl⟩
  rw [outcome_writeConverters config language output] at wrote
  cases files with
  | nil =>
    -- Nothing has been written, so both runs begin with the same tree.
    cases writeOutcome_nil unprotected wrote
    exact ⟨ended, left⟩
  | cons file rest =>
    have directory := isDirectory_of_writeOutcome unprotected resolved units wrote List.mem_cons_self
    obtain ⟨generator, rfl, written⟩ := hasWritten_of_outcomes resolved units unprotected generated wrote
    obtain ⟨others, made', generates, fewer⟩ := written.generates_again repeatable real isRead
    obtain ⟨log, again⟩ := writeOutcome_again unprotected resolved units wrote fewer made'.log
    rw [← outcome_writeConverters config generator.language output] at again
    have rerun :=
      run_of_outcomes (read_of_keeps written.writes.keeps read fun _ => directory) generates again
    exact rerun

/-- Some directories, some files with their texts, and a configuration that leaves out the check of
converters and, if it is told to, something more. -/
def treeOf (directories : List Place) (files : List (Place × String)) (more : String := "") :
    FileTree where
  entries := directories.map (·, .directory) ++
    (files ++ [(["c.json"], "\x7b" ++ more ++
      "\"output\": \x7b\"validate_before_write\": false\x7d\x7d")]).map fun (place, text) =>
        (place, .file text.toUTF8)

/-- Leaves out the methods for JSON. -/
def brief : String := "\"add_json_helpers\": false, "

/-- The source of an enum with a converter. -/
def lampText (converter : String) : String :=
  "@EnumJsonConverter('L')\n@JsonConverter('" ++ converter ++ "')\nclass L(Enum):\n A = 1\n"

/-- A package with an enum, and the directory in it for converters. -/
def lampPackage : FileTree :=
  treeOf [["pkg"], ["pkg", "gen"]] [(["pkg", "lamp.py"], lampText "B")]

/-- Arguments that ask for the converters of the package. -/
def lampArguments : List String := ["pkg", "pkg/gen", "--force", "--config", "c.json"]

/-- The tree of the package is as storage can have it. -/
theorem lampPackage_isReal : lampPackage.IsReal where
  names := by decide
  current := rfl

/-- The source of the package asks for one converter, in the directory for them. -/
theorem lampPackage_asks {invocation : Invocation} (unnamed : invocation.module = none)
    (rootless : invocation.root = none)
    (sources : invocation.sources lampPackage = [⟨.slash, ["pkg", "lamp.py"]⟩]) {module : String}
    {conversion : Conversion} (asks : invocation.Asks lampPackage module conversion) :
    module = "lamp" ∧ conversion.unitPath .python = ⟨.current, ["b.py"]⟩ ∧
      conversion.AvoidsKeywords := by
  obtain ⟨source, named, read, parses, declares, mem⟩ := asks
  rw [sources] at source
  rw [List.mem_singleton.1 source] at named read
  rw [Invocation.moduleOf, unnamed, rootless] at named
  obtain rfl : "lamp" = module := Except.ok.inj named
  have all : ((readText lampPackage ⟨.slash, ["pkg", "lamp.py"]⟩).toOption.bind fun text =>
      (Source.readModule text).toOption.bind fun parsed =>
        (readDeclarations "lamp" parsed).toOption.map fun declarations =>
          (Generator.conversionsOf declarations).all fun conversion =>
            decide (conversion.unitPath .python = ⟨.current, ["b.py"]⟩ ∧ conversion.AvoidsKeywords)) =
      some true := by decide +kernel
  rw [read, Except.toOption, Option.bind_some, parses, Except.toOption, Option.bind_some, declares,
    Except.toOption, Option.map_some, Option.some.injEq, List.all_eq_true] at all
  exact ⟨rfl, of_decide_eq_true (all conversion mem)⟩

/-- The converter of the package gets in no way, although it lies among the sources. -/
theorem lampPackage_isRepeatable {invocation : Invocation} (python : invocation.language = "python")
    (unnamed : invocation.module = none) (rootless : invocation.root = none)
    (config : invocation.config = some ⟨.slash, ["c.json"]⟩)
    (output : invocation.output = ⟨.slash, ["pkg", "gen"]⟩)
    (sources : invocation.sources lampPackage = [⟨.slash, ["pkg", "lamp.py"]⟩])
    (mentioned : (invocation.mention lampPackage).toOption.map Reading.isUnbroken = some true) :
    invocation.IsRepeatable lampPackage := by
  have gives {language : Language} {module : String} {conversion : Conversion}
      (given : invocation.Gives lampPackage language module conversion) :
      language = .python ∧ module = "lamp" ∧ conversion.AvoidsKeywords ∧
        invocation.targetOf language conversion = ⟨.slash, ["pkg", "gen", "b.py"]⟩ := by
    have known := given.language
    rw [python] at known
    obtain rfl : Language.python = language := Option.some.inj known
    obtain ⟨named, unit, avoids⟩ := lampPackage_asks unnamed rootless sources given.asks
    exact ⟨rfl, named, avoids, by rw [Invocation.targetOf, unit, output]; rfl⟩
  refine ⟨by simp [unnamed], ?_, .inr ?_, ?_, ?_⟩
  · rintro path same ⟨language, module, conversion, given, place⟩
    rw [config] at same
    cases same
    rw [(gives given).2.2.2] at place
    exact absurd place (by decide)
  · rintro text (rfl | named)
    · -- The directory is there already.
      refine .inr fun appears => ?_
      have there : lampPackage.contains (.ofText invocation.output.text) = .ok true := by
        rw [output]
        decide +kernel
      have absent := appears.1
      rw [there] at absent
      cases absent
    · rw [unnamed] at named
      cases named
  · rintro place ⟨language, module, conversion, given, names, sub, rfl⟩ absent -
    refine ⟨unnamed, language, module, conversion, given, ?_⟩
    rw [(gives given).2.2.2] at sub absent ⊢
    -- Of what is on the way only the converter itself is new.
    obtain rfl | ⟨_, rfl, rfl | ⟨_, rfl, rfl | rfl⟩⟩ : names = [] ∨ ∃ rest, names = "pkg" :: rest ∧
        (rest = [] ∨ ∃ last, rest = "gen" :: last ∧ (last = [] ∨ last = ["b.py"])) := by
      simpa [List.prefix_cons_iff] using sub
    · cases absent
    · cases absent
    · cases absent
    · rfl
  · intro language module conversion given _
    obtain ⟨rfl, rfl, avoids, target⟩ := gives given
    refine ⟨rfl, by decide, avoids, .inr ?_, ?_⟩
    · obtain ⟨line, found, unbroken⟩ := Option.map_eq_some_iff.1 mentioned
      exact ⟨line, result_toOption_eq_some.1 found, unbroken⟩
    · rw [target, Invocation.moduleOf, unnamed, rootless]
      exact ⟨_, rfl⟩

set_option maxRecDepth 100000 in
/-- The converter of the package is written again, although it is then read as a source. -/
theorem run_again_package :
    let first := run lampPackage lampArguments
    ∃ invocation, lampPackage.IsReal ∧ Invocation.read lampPackage lampArguments = .ok invocation ∧
      invocation.force = true ∧ invocation.IsRepeatable lampPackage ∧ first.exitCode = 0 ∧
      (run first.tree lampArguments).exitCode = 0 ∧
      (run first.tree lampArguments).tree = first.tree := by
  have asked : (Invocation.read lampPackage lampArguments).toOption.map (fun invocation =>
      decide (invocation.force = true ∧ invocation.language = "python" ∧ invocation.module = none ∧
        invocation.root = none ∧ invocation.config = some ⟨.slash, ["c.json"]⟩ ∧
        invocation.output = ⟨.slash, ["pkg", "gen"]⟩ ∧
        invocation.sources lampPackage = [⟨.slash, ["pkg", "lamp.py"]⟩] ∧
        (invocation.mention lampPackage).toOption.map Reading.isUnbroken = some true)) = some true := by
    decide +kernel
  obtain ⟨invocation, reads, asked⟩ := Option.map_eq_some_iff.1 asked
  have read := result_toOption_eq_some.1 reads
  obtain ⟨forced, python, unnamed, rootless, config, output, sources, mentioned⟩ :=
    of_decide_eq_true asked
  have repeatable :=
    lampPackage_isRepeatable python unnamed rootless config output sources mentioned
  have ended : (run lampPackage lampArguments).exitCode = 0 := by decide +kernel
  exact ⟨invocation, lampPackage_isReal, read, forced, repeatable, ended,
    run_again lampPackage_isReal read forced repeatable ended⟩

/-! ### Commands that cannot be run again -/

/-- A command, and the files on which it is run. -/
structure Command where
  tree : FileTree
  arguments : List String

namespace Command

/-- The first run of a command. -/
def first (command : Command) : Outcome :=
  run command.tree command.arguments

/-- Its second run. -/
def second (command : Command) : Outcome :=
  run command.first.tree command.arguments

/-- Both runs end well, but the second one leaves another text in a file. -/
def DiffersAt (command : Command) (place : Place) : Prop :=
  command.first.exitCode = 0 ∧ command.second.exitCode = 0 ∧
    command.second.tree.get? place ≠ command.first.tree.get? place

/-- The first run ends well and the second one does not. -/
def FailsAgain (command : Command) : Prop :=
  command.first.exitCode = 0 ∧ command.second.exitCode ≠ 0

instance (command : Command) (place : Place) : Decidable (command.DiffersAt place) :=
  inferInstanceAs (Decidable (_ ∧ _))

instance (command : Command) : Decidable command.FailsAgain :=
  inferInstanceAs (Decidable (_ ∧ _))

end Command

/-- The characters of bytes that are all ASCII. -/
def asciiChars (bytes : ByteArray) : List Char :=
  bytes.data.toList.map fun byte => Char.ofNat byte.toNat

theorem fromUTF8?_of_ascii {bytes : ByteArray} (ascii : ∀ byte ∈ bytes.data.toList, byte < 128) :
    String.fromUTF8? bytes = some (String.ofList (asciiChars bytes)) := by
  have each : ∀ byte ∈ bytes.data.toList, String.utf8EncodeChar (Char.ofNat byte.toNat) = [byte] := by
    intro byte mem
    have small : byte.toNat < 128 := ascii byte mem
    have value : (Char.ofNat byte.toNat).val.toNat = byte.toNat :=
      (Char.toNat_ofNat byte.toNat).trans (if_pos (.inl (by omega)))
    simp [String.utf8EncodeChar, value, Nat.le_of_lt_succ small]
  have encoded : (String.ofList (asciiChars bytes)).toUTF8 = bytes := by
    apply ByteArray.ext
    rw [String.toUTF8, String.toByteArray_ofList, List.utf8Encode, List.data_toByteArray, asciiChars,
      List.flatMap_map, List.flatMap_congr each, List.flatMap_singleton', Array.toArray_toList]
  have decoded : String.fromUTF8? (String.ofList (asciiChars bytes)).toUTF8 =
      some (String.ofList (asciiChars bytes)) := dif_pos (String.isValidUTF8 _)
  rwa [encoded] at decoded

namespace Command

variable {command : Command}

/-- The characters of a file of ASCII characters after a first run that has ended well, and what the second
one is asked for. -/
def charsAfter? (command : Command) (path : Path) : Option (List Char × Invocation) :=
  match Invocation.read command.first.tree command.arguments, command.first.tree.read path with
  | .ok invocation, .ok bytes =>
    if command.first.exitCode == 0 && bytes.data.toList.all (· < 128) then
      some (Text.unifyNewlines (asciiChars bytes), invocation)
    else none
  | _, _ => none

theorem of_charsAfter? {path : Path} {chars : List Char}
    (found : command.charsAfter? path = some (chars, invocation)) :
    command.first.exitCode = 0 ∧
      Invocation.read command.first.tree command.arguments = .ok invocation ∧
      readText command.first.tree path = .ok (String.ofList chars) := by
  unfold charsAfter? at found
  split at found
  · next invocation' bytes read holds =>
    split at found
    · next good =>
      cases found
      simp only [Bool.and_eq_true, beq_iff_eq, List.all_eq_true, decide_eq_true_eq] at good
      refine ⟨good.1, read, ?_⟩
      rw [readText, holds]
      dsimp only
      rw [fromUTF8?_of_ascii good.2]
      dsimp only
      rw [String.toList_ofList]
    · cases found
  · cases found

/-- A first run that leaves a source that is no module. -/
theorem failsAgain_of_source (path : Path)
    (left : (command.charsAfter? path).any (fun (chars, invocation) =>
      decide (path ∈ invocation.sources command.first.tree) &&
        (Source.tokens? (Text.unifyNewlines chars)).all fun tokens =>
          (Source.moduleOfTokens (4 * chars.length + 8) tokens).isNone) = true) :
    command.FailsAgain := by
  obtain ⟨⟨chars, invocation⟩, found, fails⟩ := (Option.any_eq_true _ _).1 left
  obtain ⟨ended, read, text⟩ := of_charsAfter? found
  simp only [Bool.and_eq_true, decide_eq_true_eq] at fails
  have broken : ∃ cause, Source.readModule (String.ofList chars) = .error cause := by
    unfold Source.readModule
    rw [String.toList_ofList]
    dsimp only
    split
    · exact ⟨_, rfl⟩
    · split
      · exact ⟨_, rfl⟩
      · next tokens some =>
        rw [some, Option.all_some, Option.isNone_iff_eq_none] at fails
        rw [fails.2]
        exact ⟨_, rfl⟩
  obtain ⟨cause, broken⟩ := broken
  have faulty : Faulty command.first.tree invocation .absent :=
    .source fails.1 (.malformed text broken)
  exact ⟨ended, (faulty.endsUntouched read).exitCode⟩

/-- A first run that leaves a configuration that is no document. -/
theorem failsAgain_of_config (path : Path)
    (left : (command.charsAfter? path).any (fun (chars, invocation) =>
      decide (invocation.config = some path) &&
        (Json.readValue (chars.length + 1) (Json.skipBlanks chars)).isNone) = true) :
    command.FailsAgain := by
  obtain ⟨⟨chars, invocation⟩, found, fails⟩ := (Option.any_eq_true _ _).1 left
  obtain ⟨ended, read, text⟩ := of_charsAfter? found
  simp only [Bool.and_eq_true, decide_eq_true_eq, Option.isNone_iff_eq_none] at fails
  have broken : Json.read? (String.ofList chars) = none := by
    rw [Json.read?, String.toList_ofList, fails.2]
  refine ⟨ended, (endsUntouched_of_generateAll read fun (_, _, _) made ran => ?_).exitCode⟩
  obtain ⟨given, config, -⟩ := generateAll_eq_ok_iff.1 ran
  simp only [readConfig, fails.1, text, broken] at config
  cases config

end Command

/-- The directory for converters is made by the first run. -/
def newDirectory : Command where
  tree := treeOf [] [(["lamp.py"], lampText "B")]
  arguments := ["lamp.py", "out", "-lcs", "-f", "-cc.json"]

/-- The name of the module is the path of a converter. -/
def convertedModule : Command where
  tree := treeOf [["out"]] [(["lamp.py"], lampText "B")]
  arguments := ["lamp.py", "out", "-lcs", "-f", "-cc.json", "-mout/B.g.cs"]

/-- The name of the module leads away, so that a converter comes to the place of the directory for them. -/
def awayModule : Command where
  tree := treeOf [] [(["lamp.py"],
    "from . import B\n@EnumJsonConverter('L')\n@JsonConverter(B)\nclass L(Enum):\n A = 1\n")]
  arguments := ["lamp.py", "x/b.py", "-f", "-cc.json", "-m/x.c"]

/-- The configuration is at the path of a converter. -/
def convertedConfig : Command where
  tree := treeOf [] [(["lamp.py"], lampText "B"),
    (["B.g.cs"], "\x7b\"output\": \x7b\"validate_before_write\": false\x7d\x7d")]
  arguments := ["lamp.py", ".", "-lcs", "-f", "-cB.g.cs"]

/-- A converter becomes a second source, and the module has been given a name. -/
def namedPackage : Command where
  tree := treeOf [["pkg"]] [(["pkg", "lamp.py"], lampText "B")]
  arguments := ["pkg", "pkg", "-f", "-cc.json", "-mm"]

/-- A directory on the way to a converter looks like a source. -/
def sourceDirectory : Command where
  tree := treeOf [["pkg"]] [(["pkg", "lamp.py"], lampText "B")]
  arguments := ["pkg", "pkg/x.py", "-f", "-cc.json"]

/-- A converter becomes a source that is not below the root. -/
def narrowRoot : Command where
  tree := treeOf [["pkg"], ["pkg", "sub"]] [(["pkg", "sub", "lamp.py"], lampText "B")]
  arguments := ["pkg", "pkg", "-f", "-cc.json", "-rpkg/sub"]

/-- A converter in the other language is written over the source. -/
def convertedSource : Command where
  tree := treeOf [["out"]] [(["out", "B.g.cs"], lampText "B")]
  arguments := ["out/B.g.cs", "out", "-lcs", "-f", "-cc.json"]

/-- The module of the enum cannot be named. -/
def namelessModule : Command where
  tree := treeOf [["pkg"]] [(["pkg", "my-lamp.py"], lampText "B")] brief
  arguments := ["pkg", "pkg", "-f", "-cc.json"]

/-- The name of the converter is a keyword. -/
def keywordConverter : Command where
  tree := treeOf [["pkg"]] [(["pkg", "lamp.py"], lampText "class")] brief
  arguments := ["pkg", "pkg", "-f", "-cc.json"]

/-- The comment is on two lines. -/
def brokenComment : Command where
  tree := treeOf [["pkg"], ["pkg", "a\nb"]] [(["pkg", "lamp.py"], lampText "B")] brief
  arguments := ["pkg", "pkg/a\nb", "-f", "-cc.json"]

section

set_option maxRecDepth 100000

/-- What comes into being is worded differently. -/
theorem worded_unlike :
    newDirectory.DiffersAt ["out", "B.g.cs"] ∧ convertedModule.DiffersAt ["out", "B.g.cs"] :=
  ⟨by decide +kernel, by decide +kernel⟩

/-- A converter, or a directory on the way to one, cannot be where it has come. -/
theorem placed_unlike :
    awayModule.FailsAgain ∧ namedPackage.FailsAgain ∧ sourceDirectory.FailsAgain ∧
      narrowRoot.FailsAgain :=
  ⟨by decide +kernel, by decide +kernel, by decide +kernel, by decide +kernel⟩

/-- A converter is neither the configuration that was there nor a module. -/
theorem read_unlike :
    convertedConfig.FailsAgain ∧ convertedSource.FailsAgain ∧ namelessModule.FailsAgain ∧
      keywordConverter.FailsAgain ∧ brokenComment.FailsAgain :=
  ⟨Command.failsAgain_of_config ⟨.slash, ["B.g.cs"]⟩ (by decide +kernel),
    Command.failsAgain_of_source ⟨.slash, ["out", "B.g.cs"]⟩ (by decide +kernel),
    Command.failsAgain_of_source ⟨.slash, ["pkg", "b.py"]⟩ (by decide +kernel),
    Command.failsAgain_of_source ⟨.slash, ["pkg", "class.py"]⟩ (by decide +kernel),
    Command.failsAgain_of_source ⟨.slash, ["pkg", "a\nb", "b.py"]⟩ (by decide +kernel)⟩

end

/-- **What running again is not.** A directory for converters that the first run has made is mentioned in
other words by the second one, and so is the name of a module that is the path of a converter. The other
commands fail: each of them leaves out one more of the conditions under which a command can be run again. -/
theorem run_again_unlike :
    (newDirectory.DiffersAt ["out", "B.g.cs"] ∧ convertedModule.DiffersAt ["out", "B.g.cs"]) ∧
      (awayModule.FailsAgain ∧ namedPackage.FailsAgain ∧ sourceDirectory.FailsAgain ∧
        narrowRoot.FailsAgain) ∧
      convertedConfig.FailsAgain ∧ convertedSource.FailsAgain ∧ namelessModule.FailsAgain ∧
      keywordConverter.FailsAgain ∧ brokenComment.FailsAgain :=
  ⟨worded_unlike, placed_unlike, read_unlike⟩

end CommandLine

end EnumCodec
