import EnumCodec.Proofs.Declaration.Literals
import EnumCodec.Proofs.Generator.Validity

/-!
# EnumCodec.Proofs.Generator.Completion

**Generating returns.** A generator with the default configuration gives every conversion its text and
asks no formatter, so that only the reading of declarations can stop it, and in Python a module without a
name. Whatever stands in the place of metadata is taken as it is.
-/

namespace EnumCodec

open Activity
open Declaration (readDeclarations moduleMetadata Stops JoinsTooLarge)

namespace Generator

variable {generator : Generator} {conversions : List Conversion}

/-! ### Giving texts -/

/-- Every conversion can be given a text anew, and no formatter has been chosen. -/
structure RendersAll (generator : Generator) : Prop where
  render : ∀ conversion, ∃ text, generator.render conversion = .ok text
  tool : generator.tool = none

theorem give_of_rendersAll (renders : generator.RendersAll) (conversion : Conversion)
    (memory : Memory) : ∃ text kept, generator.give conversion memory = (.ok text, kept) := by
  unfold give
  split
  · exact ⟨_, _, rfl⟩
  · obtain ⟨text, rendered⟩ := renders.render conversion
    have finished : generator.finished text memory.formatters = (.ok text, memory.formatters) := by
      rw [Generator.finished, renders.tool]
    rw [rendered]
    dsimp only
    rw [finished]
    exact ⟨_, _, rfl⟩

/-- **All conversions are given a text**, or there is one that would import its enum from nowhere. -/
theorem giveAll_of_rendersAll (renders : generator.RendersAll) (conversions : List Conversion)
    (memory : Memory) :
    (∃ files kept, generator.giveAll conversions memory = (.ok files, kept) ∧
        files.map (·.name) = conversions.map (·.target.converterName)) ∨
      ∃ conversion ∈ conversions, generator.lacksModule conversion = true ∧ ∃ kept,
        generator.giveAll conversions memory =
          (.error (.missingModule conversion.target.enumName), kept) := by
  induction conversions generalizing memory with
  | nil => exact .inl ⟨[], memory, rfl, rfl⟩
  | cons conversion rest ih =>
    rw [giveAll]
    by_cases lacks : generator.lacksModule conversion = true
    · rw [if_pos lacks]
      exact .inr ⟨conversion, List.mem_cons_self, lacks, _, rfl⟩
    · obtain ⟨text, kept, given⟩ := give_of_rendersAll renders conversion memory
      simp only [if_neg lacks, given]
      obtain ⟨files, last, eq, names⟩ | ⟨other, mem, lacking, last, eq⟩ := ih kept
      · rw [eq]
        exact .inl ⟨_, _, rfl, by rw [List.map_cons, List.map_cons, names]; rfl⟩
      · rw [eq]
        exact .inr ⟨other, List.mem_cons_of_mem conversion mem, lacking, _, rfl⟩

/-- A generator with the default configuration can be made, and it can give every conversion a text. -/
theorem make_default (language : Language) (line : String) (tools : Tools) :
    ∃ generator, make language.name {} (.ok line) tools = .ok generator ∧
      generator.language = language ∧ generator.RendersAll := by
  cases language with
  | python => exact ⟨_, rfl, rfl, fun conversion => ⟨_, rfl⟩, rfl⟩
  | cSharp => exact ⟨_, rfl, rfl, fun conversion => ⟨_, rfl⟩, rfl⟩

end Generator

/-- **Generating returns.** For every source that can be parsed and every name of its module, a generator
with the default configuration gives the file of each conversion that the declarations ask for, whatever
the formatters would do. It does not in two cases only: in Python a module without a name asks for a
conversion, or an expression in the place of metadata joins an imaginary part to an integer beyond the
floating-point numbers, which stops the reading of the declarations. -/
theorem generateModule_returns {source : String} {tree : Source.Module}
    (parsed : Source.readModule source = .ok tree) (module line : String) (language : Language)
    (tools : Tools) (state : GeneratorState) :
    ∃ generator, Generator.make language.name {} (.ok line) tools = .ok generator ∧
      let result := (outcome (generator.generateModule source module) state).1
      (∃ declarations, readDeclarations module tree = .ok declarations ∧
        ((∃ files, result = .ok files ∧
            files.map (·.name) =
              (Generator.conversionsOf declarations).map (·.target.converterName)) ∨
          language = .python ∧ module = "" ∧ ∃ conversion ∈ Generator.conversionsOf declarations,
            result = .error (.missingModule conversion.target.enumName))) ∨
      result = .error .integerTooLarge ∧ (∃ failure, readDeclarations module tree = .error failure) ∧
        ∃ e ∈ moduleMetadata tree, Stops e ∧ JoinsTooLarge e := by
  obtain ⟨generator, made, same, renders⟩ := Generator.make_default language line tools
  refine ⟨generator, made, ?_⟩
  obtain ⟨log, ran⟩ := generator.generateModule_does source module state.toMemory state.log
  dsimp only
  rw [ran, Generator.files, parsed]
  dsimp only
  cases read : readDeclarations module tree with
  | error failure =>
    exact .inr ⟨rfl, ⟨failure, rfl⟩, Declaration.stops_of_readDeclarations read⟩
  | ok declarations =>
    refine .inl ⟨declarations, rfl, ?_⟩
    dsimp only
    obtain ⟨files, kept, given, names⟩ | ⟨conversion, mem, lacks, kept, given⟩ :=
      Generator.giveAll_of_rendersAll renders (Generator.conversionsOf declarations) state.toMemory
    · exact .inl ⟨files, by rw [given], names⟩
    · -- The name of the module is of no kind that matters here.
      have isKind : Declaration.IsKind fun _ => True :=
        ⟨fun _ => trivial, fun _ _ => trivial, fun _ _ => trivial⟩
      have declared := (conversionsOf_isDeclared isKind (.inr trivial) parsed read conversion mem).1
      simp only [Generator.lacksModule, Bool.and_eq_true, decide_eq_true_eq, same,
        declared.enumModule] at lacks
      exact .inr ⟨lacks.1, lacks.2, conversion, mem, by rw [given]⟩

/-- An enum whose request for a converter has a mapping as its name for messages, with a list as key. -/
def malformedSource : String :=
  "@EnumJsonConverter('Lamp', PropertyName=\x7b[]: 1\x7d)\n@JsonConverter('LampConverter')\n" ++
    "class Lamp(Enum):\n ON = 1\n OFF = 2\n"

set_option maxRecDepth 4000 in
/-- The mapping has no value, and the converter is generated. -/
theorem generateModule_returns_malformed :
    ∃ tree generator files, Source.readModule malformedSource = .ok tree ∧
      Generator.make "python" {} (.ok CommandLine.bareMention) = .ok generator ∧
      (outcome (generator.generateModule malformedSource "lamps") {}).1 = .ok files ∧
      files.map (·.name) = ["LampConverter"] := by
  have asked : ((Source.readModule malformedSource).toOption.bind fun tree =>
      (readDeclarations "lamps" tree).toOption.map fun declarations =>
        (Generator.conversionsOf declarations).map (·.target.converterName)) =
      some ["LampConverter"] := by decide +kernel
  obtain ⟨tree, parses, asked⟩ := Option.bind_eq_some_iff.1 asked
  obtain ⟨declarations, reads, asked⟩ := Option.map_eq_some_iff.1 asked
  have parsed := result_toOption_eq_some.1 parses
  have read := result_toOption_eq_some.1 reads
  obtain ⟨generator, made, ⟨declarations', read', ⟨files, returned, names⟩ | ⟨-, nameless, -⟩⟩ |
    ⟨-, ⟨failure, stopped⟩, -⟩⟩ :=
    generateModule_returns parsed "lamps" CommandLine.bareMention .python .absent {}
  · cases read.symm.trans read'
    exact ⟨tree, generator, files, parsed, made, returned, names.trans asked⟩
  · exact absurd nameless (by decide)
  · cases read.symm.trans stopped

end EnumCodec
