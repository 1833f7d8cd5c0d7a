import EnumCodec.Proofs.Generator.Generation
import Mathlib.Data.Finset.Card

/-!
# EnumCodec.Proofs.Generator.Caching

**The texts that a generator keeps, over whole sessions.** Every text that a conversion is given is
recorded together with the configuration of that moment. The texts that are kept are at any time those
of the first recorded emissions under a configuration that keeps texts, one for each conversion, so that
a text depends on the record alone: it is the one of the first such emission, or made anew.
-/

namespace EnumCodec

open Declaration (readDeclarations)

/-! ### The record of a session -/

/-- A text that a conversion has been given, and the configuration of that moment. -/
structure Emission where
  conversion : Conversion
  text : Content
  config : Config

namespace Emission

/-- Is the text kept for equal conversions? -/
def isKept (emission : Emission) : Bool :=
  emission.config.cacheOutput.truthy

/-- The first of some emissions whose text is kept for a conversion. -/
def first? (made : List Emission) (conversion : Conversion) : Option Emission :=
  made.find? fun emission => emission.isKept && emission.conversion = conversion

/-- The conversions for which texts of some emissions are kept. -/
def keptConversions (made : List Emission) : List Conversion :=
  (made.filter isKept).map (·.conversion)

/-- **What an emission must be, given those before it.** If texts are kept now and one has been kept
for an equal conversion, it is the text of the first such emission; else it is made anew under the
configuration of this moment. -/
def Follows (generator : Generator) (earlier : List Emission) (emission : Emission) : Prop :=
  match if emission.isKept then first? earlier emission.conversion else none with
  | some first => emission.text = first.text
  | none =>
    { generator with config := emission.config }.unformatted emission.conversion =
      .ok emission.text

end Emission

namespace Session

variable (session : Session)

/-- The conversions whose texts a step asks for, in order. Those of a module end before the first whose
enum could not be imported. -/
def requests : Step → List Conversion
  | .generate source module =>
    match Source.readModule source with
    | .error _ => []
    | .ok tree =>
      match readDeclarations module tree with
      | .error _ => []
      | .ok declarations =>
        (Generator.conversionsOf declarations).takeWhile (!session.generator.lacksModule ·)
  | .emit conversion => [conversion]
  | .assign _ _ => []
  | .write _ _ => []

/-- The emissions of some conversions one after the other, up to the first that fails, and the session
after them. -/
def emitAll (session : Session) : List Conversion → List Emission × Session
  | [] => ([], session)
  | conversion :: rest =>
    match session.perform (session.generator.emit conversion) with
    | (.error _, after) => ([], after)
    | (.ok text, after) =>
      (⟨conversion, text, session.generator.config⟩ :: (after.emitAll rest).1,
        (after.emitAll rest).2)

/-- The emissions of a step. -/
def emissions (step : Step) : List Emission :=
  (session.emitAll (session.requests step)).1

/-- The session after some steps. -/
def run (session : Session) : List Step → Session
  | [] => session
  | step :: rest => (session.step step).2.run rest

/-- The emissions of some steps in order. -/
def history (session : Session) : List Step → List Emission
  | [] => []
  | step :: rest => session.emissions step ++ (session.step step).2.history rest

/-- A new session with the same configuration, but for texts not being kept. -/
def anew : Session where
  generator := { session.generator with
    config := { session.generator.config with cacheOutput := .bool false } }

end Session

open Emission

variable {generator : Generator} {memory kept : Memory} {cache : List (Conversion × Content)}
  {made earlier : List Emission} {conversion : Conversion} {text : Content}

/-! ### What is kept -/

/-- **The invariant.** Exactly the texts of first emissions are kept, each under its own conversion. -/
structure KeptFrom (made : List Emission) (cache : List (Conversion × Content)) : Prop where
  lookup : ∀ conversion, cache.lookup conversion = (first? made conversion).map (·.text)
  nodup : (cache.map (·.1)).Nodup

theorem keptFrom_nil : KeptFrom [] [] :=
  ⟨fun _ => rfl, List.nodup_nil⟩

theorem first?_append (made more : List Emission) (conversion : Conversion) :
    first? (made ++ more) conversion = (first? made conversion).or (first? more conversion) :=
  List.find?_append

theorem first?_eq_none_iff :
    first? made conversion = none ↔ conversion ∉ keptConversions made := by
  rw [first?, List.find?_eq_none]
  simp only [keptConversions, List.mem_map, List.mem_filter, Bool.and_eq_true, decide_eq_true_eq]
  constructor
  · rintro none ⟨emission, ⟨mem, isKept⟩, rfl⟩
    exact none emission mem ⟨isKept, rfl⟩
  · rintro absent emission mem ⟨isKept, rfl⟩
    exact absent ⟨emission, ⟨mem, isKept⟩, rfl⟩

/-- There are as many texts kept as there are conversions for which a text has been kept. -/
theorem KeptFrom.length_eq (keptFrom : KeptFrom made cache) :
    cache.length = (keptConversions made).toFinset.card := by
  have same : (cache.map (·.1)).toFinset = (keptConversions made).toFinset := by
    ext conversion
    rw [List.mem_toFinset, List.mem_toFinset]
    apply not_iff_not.1
    rw [← Entries.lookup_eq_none_iff, keptFrom.lookup, ← first?_eq_none_iff, Option.map_eq_none_iff]
  rw [← same, List.toFinset_card_of_nodup keptFrom.nodup, List.length_map]

/-- The text that is kept for a conversion follows from the record alone. -/
theorem KeptFrom.kept?_eq (keptFrom : KeptFrom made memory.cache) (generator : Generator)
    (conversion : Conversion) :
    generator.kept? conversion memory =
      (if generator.config.cacheOutput.truthy then first? made conversion else none).map (·.text) := by
  unfold Generator.kept?
  by_cases keeps : generator.config.cacheOutput.truthy
  · rw [if_pos keeps, if_pos keeps, keptFrom.lookup]
  · rw [if_neg keeps, if_neg keeps, Option.map_none]

/-- What a conversion is given follows from the record alone, where no formatter can be used. -/
theorem KeptFrom.give_fst (keptFrom : KeptFrom made memory.cache) (unusable : generator.tools.Unusable)
    (idle : memory.formatters.IsIdle) (conversion : Conversion) :
    (generator.give conversion memory).1 =
      match if generator.config.cacheOutput.truthy then first? made conversion else none with
      | some first => .ok first.text
      | none => generator.unformatted conversion := by
  obtain ⟨formatters, -, given⟩ := generator.give_of_unusable unusable conversion idle
  rw [given, keptFrom.kept?_eq]
  cases (if generator.config.cacheOutput.truthy then first? made conversion else none) with
  | some first => rfl
  | none => cases generator.unformatted conversion <;> rfl

theorem first?_singleton (emission : Emission) (conversion : Conversion) :
    first? [emission] conversion =
      if emission.isKept ∧ emission.conversion = conversion then some emission else none := by
  by_cases found : emission.isKept ∧ emission.conversion = conversion <;>
    simp [first?, found]

/-- An emission whose text is not new, or not kept, changes nothing about what is kept. -/
theorem KeptFrom.append_same (keptFrom : KeptFrom made cache) (emission : Emission)
    (old : emission.isKept = true → first? made emission.conversion ≠ none) :
    KeptFrom (made ++ [emission]) cache where
  lookup conversion := by
    rw [keptFrom.lookup, first?_append, first?_singleton]
    split
    · next found =>
      obtain ⟨first, eq⟩ := Option.ne_none_iff_exists'.1 (old found.1)
      rw [← found.2, eq]
      rfl
    · rw [Option.or_none]
  nodup := keptFrom.nodup

/-- A new text that is kept comes to those that are kept. -/
theorem KeptFrom.append_new (keptFrom : KeptFrom made cache) (emission : Emission)
    (isKept : emission.isKept = true) (new : first? made emission.conversion = none) :
    KeptFrom (made ++ [emission]) ((emission.conversion, emission.text) :: cache) where
  lookup conversion := by
    rw [Entries.lookup_cons_eq, keptFrom.lookup, first?_append, first?_singleton]
    by_cases same : conversion = emission.conversion
    · simp [same, isKept, new]
    · simp [same, Ne.symm same]
  nodup := by
    have absent : cache.lookup emission.conversion = none := by rw [keptFrom.lookup, new]; rfl
    rw [List.map_cons, List.nodup_cons]
    exact ⟨(Entries.lookup_eq_none_iff _ _).1 absent, keptFrom.nodup⟩

/-- **One emission** follows from those before it, and the texts kept after it are those of the longer
record. -/
theorem KeptFrom.give (keptFrom : KeptFrom made memory.cache) (unusable : generator.tools.Unusable)
    (idle : memory.formatters.IsIdle)
    (given : generator.give conversion memory = (.ok text, kept)) :
    Follows generator made ⟨conversion, text, generator.config⟩ ∧
      KeptFrom (made ++ [⟨conversion, text, generator.config⟩]) kept.cache := by
  obtain ⟨formatters, -, same⟩ := generator.give_of_unusable unusable conversion idle
  rw [given, keptFrom.kept?_eq] at same
  by_cases keeps : generator.config.cacheOutput.truthy
  · rw [if_pos keeps] at same
    cases found : first? made conversion with
    | some first =>
      rw [found] at same
      cases same
      refine ⟨?_, keptFrom.append_same _ fun _ => by simp [found]⟩
      simp [Follows, isKept, keeps, found]
    | none =>
      rw [found] at same
      dsimp only [Option.map_none] at same
      cases made : generator.unformatted conversion with
      | error failure =>
        rw [made] at same
        cases same
      | ok rendered =>
        rw [made] at same
        dsimp only at same
        rw [if_pos keeps] at same
        cases same
        refine ⟨?_, keptFrom.append_new ⟨conversion, text, generator.config⟩ keeps found⟩
        simpa [Follows, isKept, keeps, found] using made
  · rw [if_neg keeps] at same
    dsimp only [Option.map_none] at same
    cases made : generator.unformatted conversion with
    | error failure =>
      rw [made] at same
      cases same
    | ok rendered =>
      rw [made] at same
      dsimp only at same
      rw [if_neg keeps] at same
      cases same
      refine ⟨?_, keptFrom.append_same _ fun isKept => absurd isKept keeps⟩
      simpa [Follows, isKept, keeps] using made

/-- A failure keeps nothing. -/
theorem give_error {failure : Failure}
    (given : generator.give conversion memory = (.error failure, kept)) : kept.cache = memory.cache := by
  unfold Generator.give at given
  split at given
  · cases given
  · split at given
    · cases given
      rfl
    · split at given
      · cases given
        rfl
      · cases given

/-! ### Emissions in order -/

/-- Each of some emissions follows from those before it. -/
def AllFollow (generator : Generator) (earlier : List Emission) : List Emission → Prop
  | [] => True
  | emission :: rest =>
    Follows generator earlier emission ∧ AllFollow generator (earlier ++ [emission]) rest

theorem AllFollow.append {more : List Emission} (first : AllFollow generator earlier made)
    (second : AllFollow generator (earlier ++ made) more) :
    AllFollow generator earlier (made ++ more) := by
  induction made generalizing earlier with
  | nil => simpa using second
  | cons emission rest ih => exact ⟨first.1, ih first.2 (by simpa using second)⟩

/-- An emission in a record follows from the part of the record before it. -/
theorem AllFollow.follows {front back : List Emission} {emission : Emission}
    (all : AllFollow generator earlier (front ++ emission :: back)) :
    Follows generator (earlier ++ front) emission := by
  induction front generalizing earlier with
  | nil => simpa using all.1
  | cons first rest ih => simpa using ih all.2

/-- What an emission must be does not depend on the configuration that a generator has otherwise. -/
theorem AllFollow.congr {other : Generator} (config : Config)
    (same : other = { generator with config }) (all : AllFollow other earlier made) :
    AllFollow generator earlier made := by
  subst same
  induction made generalizing earlier with
  | nil => trivial
  | cons emission rest ih => exact ⟨all.1, ih all.2⟩

namespace Session

variable {session : Session}

/-- A session emits what its generator gives. -/
theorem perform_emit (session : Session) (conversion : Conversion) :
    session.perform (session.generator.emit conversion) =
      ((session.generator.give conversion session.toMemory).1,
        { session with toMemory := (session.generator.give conversion session.toMemory).2 }) :=
  (session.generator.emit_does conversion session.toMemory).perform

/-- The emissions of some conversions, one by one. -/
theorem emitAll_cons (session : Session) (conversion : Conversion) (rest : List Conversion) :
    session.emitAll (conversion :: rest) =
      match session.generator.give conversion session.toMemory with
      | (.error _, kept) => ([], { session with toMemory := kept })
      | (.ok text, kept) =>
        let after : Session := { session with toMemory := kept }
        (⟨conversion, text, session.generator.config⟩ :: (after.emitAll rest).1,
          (after.emitAll rest).2) := by
  rw [emitAll, perform_emit]
  rcases session.generator.give conversion session.toMemory with ⟨_ | text, kept⟩ <;> rfl

/-- Where nothing has been emitted, the texts that are kept are the same. -/
theorem cache_emitAll_of_nil {conversions : List Conversion}
    (none : (session.emitAll conversions).1 = []) :
    (session.emitAll conversions).2.cache = session.cache := by
  cases conversions with
  | nil => rfl
  | cons conversion rest =>
    rw [emitAll_cons] at none ⊢
    rcases given : session.generator.give conversion session.toMemory with ⟨failure | text, kept⟩
    · exact give_error given
    · rw [given] at none
      cases none

/-- No formatter can be used in the session. -/
structure IsPlain (session : Session) : Prop where
  unusable : session.generator.tools.Unusable
  idle : session.formatters.IsIdle

/-- Giving a text does not make a formatter of use. -/
theorem IsPlain.give (isPlain : session.IsPlain) (conversion : Conversion) :
    IsPlain { session with
      toMemory := (session.generator.give conversion session.toMemory).2 } where
  unusable := isPlain.unusable
  idle := by
    obtain ⟨formatters, idle, given⟩ :=
      session.generator.give_of_unusable isPlain.unusable conversion isPlain.idle
    rw [given]
    cases session.generator.kept? conversion session.toMemory with
    | some text => exact idle
    | none => cases session.generator.unformatted conversion <;> exact idle

/-- **Emissions one after the other** follow from those before them and keep the invariant. -/
theorem emitAll_follow (session : Session) (isPlain : session.IsPlain)
    (keptFrom : KeptFrom made session.cache) (conversions : List Conversion) :
    AllFollow session.generator made (session.emitAll conversions).1 ∧
      KeptFrom (made ++ (session.emitAll conversions).1) (session.emitAll conversions).2.cache ∧
      (session.emitAll conversions).2.formatters.IsIdle := by
  induction conversions generalizing session made with
  | nil => exact ⟨trivial, by simpa [emitAll] using keptFrom, isPlain.idle⟩
  | cons conversion rest ih =>
    have still := isPlain.give conversion
    rw [emitAll_cons]
    rcases given : session.generator.give conversion session.toMemory with ⟨failure | text, kept⟩ <;>
      rw [given] at still
    · refine ⟨trivial, ?_, still.idle⟩
      rw [List.append_nil]
      exact (give_error given).symm ▸ keptFrom
    · obtain ⟨follows, one⟩ := keptFrom.give isPlain.unusable isPlain.idle given
      obtain ⟨all, last, idle⟩ := ih { session with toMemory := kept } still one
      exact ⟨⟨follows, all⟩, by simpa using last, idle⟩

/-! ### Steps -/

/-- The texts of a module are those of its conversions, which end before one that lacks a module. -/
theorem giveAll_eq_emitAll (session : Session) (conversions : List Conversion) :
    (session.generator.giveAll conversions session.toMemory).2 =
        (session.emitAll (conversions.takeWhile (!session.generator.lacksModule ·))).2.toMemory ∧
      ∀ files, (session.generator.giveAll conversions session.toMemory).1 = .ok files →
        files = (session.emitAll (conversions.takeWhile (!session.generator.lacksModule ·))).1.map
          fun emission => session.generator.fileOf emission.conversion emission.text := by
  induction conversions generalizing session with
  | nil => exact ⟨rfl, fun files eq => by cases eq; rfl⟩
  | cons conversion rest ih =>
    rw [Generator.giveAll]
    by_cases lacks : session.generator.lacksModule conversion
    · rw [if_pos lacks, List.takeWhile_cons_of_neg (by simp [lacks])]
      exact ⟨rfl, fun files eq => by cases eq⟩
    · rw [if_neg lacks, List.takeWhile_cons_of_pos (by simp [lacks]), emitAll_cons]
      rcases session.generator.give conversion session.toMemory with ⟨failure | text, kept⟩
      · exact ⟨rfl, fun files eq => by cases eq⟩
      · obtain ⟨memories, results⟩ := ih { session with toMemory := kept }
        refine ⟨memories, fun files eq => ?_⟩
        cases later : (session.generator.giveAll rest kept).1 with
        | error failure =>
          simp [later, Except.map] at eq
        | ok others =>
          simp only [later, Except.map, Except.ok.injEq] at eq
          rw [← eq, List.map_cons, results others later]

/-- The files of a module are those of its emissions, and so is the memory after them. -/
theorem files_eq_emitAll (session : Session) (source module : String) :
    (session.generator.files source module session.toMemory).2 =
        (session.emitAll (session.requests (.generate source module))).2.toMemory ∧
      ∀ files, (session.generator.files source module session.toMemory).1 = .ok files →
        files = (session.emissions (.generate source module)).map fun emission =>
          session.generator.fileOf emission.conversion emission.text := by
  unfold emissions requests Generator.files
  dsimp only
  cases parsed : Source.readModule source with
  | error cause => simp [emitAll]
  | ok tree =>
    dsimp only
    cases declared : readDeclarations module tree with
    | error failure => simp [emitAll]
    | ok declarations => exact session.giveAll_eq_emitAll _

/-- The memory after a step is that after its emissions. -/
theorem toMemory_step (session : Session) (step : Step) :
    (session.step step).2.toMemory = (session.emitAll (session.requests step)).2.toMemory := by
  cases step with
  | generate source module =>
    rw [Session.step, (session.generator.generateModule_does source module session.toMemory).perform]
    exact (session.files_eq_emitAll source module).1
  | emit conversion =>
    rw [Session.step, perform_emit]
    dsimp only [requests]
    rw [emitAll_cons]
    rcases session.generator.give conversion session.toMemory with ⟨_ | text, kept⟩ <;> rfl
  | assign key value =>
    rw [Session.step, assign]
    dsimp only
    split
    · rfl
    · split <;> rfl
  | write files directory => rfl

/-- A step changes nothing of the generator but the configuration. -/
theorem generator_step (session : Session) (step : Step) :
    (session.step step).2.generator =
      { session.generator with config := (session.step step).2.generator.config } := by
  cases step with
  | generate source module => rfl
  | emit conversion => rfl
  | assign key value =>
    rw [Session.step, assign]
    dsimp only
    split
    · rfl
    · split <;> rfl
  | write files directory => rfl

/-- A session changes nothing of the generator but the configuration. -/
theorem generator_run (session : Session) (steps : List Step) :
    (session.run steps).generator =
      { session.generator with config := (session.run steps).generator.config } := by
  induction steps generalizing session with
  | nil => rfl
  | cons step rest ih =>
    rw [run, ih, generator_step]

/-- **One step** keeps the invariant, and its emissions follow from the record. -/
theorem step_follow (session : Session) (isPlain : session.IsPlain)
    (keptFrom : KeptFrom made session.cache) (step : Step) :
    AllFollow session.generator made (session.emissions step) ∧
      KeptFrom (made ++ session.emissions step) (session.step step).2.cache ∧
      (session.step step).2.IsPlain := by
  obtain ⟨all, keptFrom, idle⟩ := session.emitAll_follow isPlain keptFrom (session.requests step)
  refine ⟨all, ?_, ?_, ?_⟩
  · rw [toMemory_step]
    exact keptFrom
  · rw [generator_step]
    exact isPlain.unusable
  · rw [toMemory_step]
    exact idle

/-- **A whole session** keeps the invariant, and all its emissions follow from those before them. -/
theorem history_follow (session : Session) (isPlain : session.IsPlain)
    (keptFrom : KeptFrom made session.cache) (steps : List Step) :
    AllFollow session.generator made (session.history steps) ∧
      KeptFrom (made ++ session.history steps) (session.run steps).cache ∧
      (session.run steps).IsPlain := by
  induction steps generalizing session made with
  | nil => exact ⟨trivial, by simpa [history, run] using keptFrom, isPlain⟩
  | cons step rest ih =>
    obtain ⟨one, between, still⟩ := session.step_follow isPlain keptFrom step
    obtain ⟨all, last, plain⟩ := ih (session.step step).2 still between
    refine ⟨one.append (all.congr _ (session.generator_step step)), ?_, plain⟩
    rw [history, ← List.append_assoc]
    exact last

end Session

/-! ### Texts that are as good as new -/

/-- Every text that is kept is the one that would be made anew. -/
def Renders (generator : Generator) (cache : List (Conversion × Content)) : Prop :=
  ∀ conversion text, cache.lookup conversion = some text →
    generator.unformatted conversion = .ok text

theorem renders_nil (generator : Generator) : Renders generator [] := nofun

/-- If nothing has been emitted under another configuration, what is kept is as good as new. -/
theorem KeptFrom.renders (keptFrom : KeptFrom made cache) (all : AllFollow generator [] made)
    (same : ∀ emission ∈ made, emission.config = generator.config) : Renders generator cache := by
  intro conversion text found
  rw [keptFrom.lookup, Option.map_eq_some_iff] at found
  obtain ⟨emission, first, rfl⟩ := found
  obtain ⟨wanted, front, back, rfl, others⟩ := List.find?_eq_some_iff_append.1 first
  simp only [Bool.and_eq_true, decide_eq_true_eq] at wanted
  obtain ⟨isKept, rfl⟩ := wanted
  -- No earlier emission of this conversion has been kept, so this one was made anew.
  have new : first? front emission.conversion = none := by
    rw [first?, List.find?_eq_none]
    intro earlier mem
    simpa [← Bool.not_eq_true, imp_iff_not_or] using others earlier mem
  have follows := all.follows
  rw [List.nil_append, Follows, if_pos isKept, new] at follows
  rwa [same emission (by simp)] at follows

/-- The memory of a generator that cannot use any formatter, with texts that are as good as new. -/
structure IsFresh (generator : Generator) (memory : Memory) : Prop where
  unusable : generator.tools.Unusable
  idle : memory.formatters.IsIdle
  renders : Renders generator memory.cache

theorem IsFresh.start (unusable : generator.tools.Unusable) : IsFresh generator {} :=
  ⟨unusable, FormatterState.isIdle_default, renders_nil generator⟩

/-- Giving a text keeps what is kept as good as new. -/
theorem IsFresh.give (fresh : IsFresh generator memory) (conversion : Conversion) :
    (generator.give conversion memory).1 = generator.unformatted conversion ∧
      IsFresh generator (generator.give conversion memory).2 := by
  obtain ⟨unusable, idle, renders⟩ := fresh
  obtain ⟨formatters, still, given⟩ := generator.give_of_unusable unusable conversion idle
  rw [given]
  cases found : generator.kept? conversion memory with
  | some text =>
    unfold Generator.kept? at found
    split at found
    · exact ⟨(renders conversion text found).symm, unusable, still, renders⟩
    · cases found
  | none =>
    cases made : generator.unformatted conversion with
    | error failure => exact ⟨rfl, unusable, still, renders⟩
    | ok text =>
      refine ⟨rfl, unusable, still, fun other known found => ?_⟩
      dsimp only at found
      split at found
      · rw [Entries.lookup_cons_eq] at found
        split at found
        · next same =>
          cases found
          rw [same, made]
        · exact renders other known found
      · exact renders other known found

/-- The generator that keeps no texts. -/
def Generator.forgetful (generator : Generator) : Generator :=
  { generator with config := { generator.config with cacheOutput := .bool false } }

/-- A generator that keeps no texts makes each of them anew. -/
theorem isFresh_forgetful (unusable : generator.tools.Unusable) : IsFresh generator.forgetful {} :=
  .start unusable

/-- The file of a conversion as it is made anew where no formatter can be used. -/
def Generator.converterOf (generator : Generator) (conversion : Conversion) :
    Except Failure ConverterFile :=
  if generator.lacksModule conversion then .error (.missingModule conversion.target.enumName)
  else (generator.unformatted conversion).map (generator.fileOf conversion)

/-- The files of a module as they are made anew where no formatter can be used. -/
def Generator.convertersOf (generator : Generator) (source module : String) :
    Except Failure (List ConverterFile) :=
  match Source.readModule source with
  | .error cause => .error (.source cause)
  | .ok tree =>
    match readDeclarations module tree with
    | .error _ => .error .integerTooLarge
    | .ok declarations => (Generator.conversionsOf declarations).mapM generator.converterOf

/-- A fresh memory does not show in files, and stays fresh. -/
theorem IsFresh.giveAll (fresh : IsFresh generator memory) (conversions : List Conversion) :
    (generator.giveAll conversions memory).1 = conversions.mapM generator.converterOf ∧
      IsFresh generator (generator.giveAll conversions memory).2 := by
  induction conversions generalizing memory with
  | nil => exact ⟨rfl, fresh⟩
  | cons conversion rest ih =>
    rw [Generator.giveAll, List.mapM_cons, Generator.converterOf]
    by_cases lacks : generator.lacksModule conversion
    · simp only [if_pos lacks]
      exact ⟨rfl, fresh⟩
    · simp only [if_neg lacks]
      obtain ⟨result, later⟩ := fresh.give conversion
      rcases given : generator.give conversion memory with ⟨failure | text, kept⟩ <;>
        rw [given] at result later <;> rw [← result]
      · exact ⟨rfl, later⟩
      · obtain ⟨others, last⟩ := ih later
        refine ⟨?_, last⟩
        dsimp only
        rw [others]
        cases rest.mapM generator.converterOf <;> rfl

/-- A fresh memory does not show in the files of a module, and stays fresh. -/
theorem IsFresh.files (fresh : IsFresh generator memory) (source module : String) :
    (generator.files source module memory).1 = generator.convertersOf source module ∧
      IsFresh generator (generator.files source module memory).2 := by
  unfold Generator.files Generator.convertersOf
  cases Source.readModule source with
  | error cause => exact ⟨rfl, fresh⟩
  | ok tree =>
    dsimp only
    cases readDeclarations module tree with
    | error failure => exact ⟨rfl, fresh⟩
    | ok declarations => exact fresh.giveAll _

/-! ### Whole sessions -/

/-- **The texts of a whole session**, where no formatter is there. Every emission follows from those before
it: it has the text of the first one of an equal conversion whose text has been kept, if texts are kept at
its moment, and else a text made anew under the configuration of its moment. There are as many texts kept
as there are conversions for which a text has been kept. The answers to further steps follow from the
record, a step without an emission leaves what is kept alone, and as long as nothing has been emitted under
another configuration the answers are those of a new generator that keeps no texts. -/
theorem session_texts (generator : Generator) (tree : FileTree) (steps : List Session.Step) :
    let start : Session := { generator := { generator with tools := .absent }, tree }
    let made := start.history steps
    let session := start.run steps
    (∀ front emission back, made = front ++ emission :: back → Follows generator front emission) ∧
    session.cache.length = (keptConversions made).toFinset.card ∧
    (∀ conversion, (session.step (.emit conversion)).1 = Except.map .text
      (match if session.generator.config.cacheOutput.truthy then first? made conversion else none with
      | some first => .ok first.text
      | none => session.generator.unformatted conversion)) ∧
    (∀ source module files, (session.step (.generate source module)).1 = .ok (.files files) →
      files = (session.emissions (.generate source module)).map fun emission =>
        session.generator.fileOf emission.conversion emission.text) ∧
    (∀ step, session.emissions step = [] → (session.step step).2.cache = session.cache) ∧
    ((∀ emission ∈ made, emission.config = session.generator.config) →
      (∀ conversion, (session.step (.emit conversion)).1 =
        (session.anew.step (.emit conversion)).1) ∧
      ∀ source module, (session.step (.generate source module)).1 =
        (session.anew.step (.generate source module)).1) := by
  intro start made session
  have startIsPlain : start.IsPlain := ⟨Tools.unusable_absent, FormatterState.isIdle_default⟩
  obtain ⟨all, keptFrom, isPlain⟩ := start.history_follow startIsPlain keptFrom_nil steps
  rw [List.nil_append] at keptFrom
  have emitted (session : Session) (conversion : Conversion) :
      (session.step (.emit conversion)).1 =
        (session.generator.give conversion session.toMemory).1.map .text := by
    rw [Session.step, Session.perform_emit]
  have generated (session : Session) (source module : String) :
      (session.step (.generate source module)).1 =
        (session.generator.files source module session.toMemory).1.map .files := by
    rw [Session.step, (session.generator.generateModule_does source module session.toMemory).perform]
  refine ⟨fun front emission back split => ?_, keptFrom.length_eq, fun conversion => ?_,
    fun source module files answered => ?_, fun step none => ?_, fun same => ?_⟩
  · have follows : AllFollow start.generator [] (front ++ emission :: back) := split ▸ all
    have here := follows.follows
    rw [List.nil_append] at here
    exact here
  · rw [emitted, keptFrom.give_fst isPlain.unusable isPlain.idle]
  · rw [generated] at answered
    cases made : (session.generator.files source module session.toMemory).1 with
    | error failure =>
      rw [made] at answered
      cases answered
    | ok others =>
      rw [made] at answered
      cases answered
      exact (session.files_eq_emitAll source module).2 files made
  · rw [Session.toMemory_step]
    exact Session.cache_emitAll_of_nil none
  · have follow : AllFollow session.generator [] made := by
      refine all.congr start.generator.config ?_
      rw [start.generator_run steps]
    have fresh : IsFresh session.generator session.toMemory :=
      ⟨isPlain.unusable, isPlain.idle, keptFrom.renders follow same⟩
    have fresh' : IsFresh session.generator.forgetful {} := isFresh_forgetful isPlain.unusable
    refine ⟨fun conversion => ?_, fun source module => ?_⟩
    · rw [emitted, emitted, (fresh.give conversion).1]
      exact congrArg _ (fresh'.give conversion).1.symm
    · rw [generated, generated, (fresh.files source module).1]
      exact congrArg _ (fresh'.files source module).1.symm

end EnumCodec
