import EnumCodec.CommandLine.Mention
import EnumCodec.Generator.Basic
import EnumCodec.Proofs.Converter.CSharpLiterals
import EnumCodec.Storage.Atomic

/-!
# EnumCodec.Proofs.Generator.CSharpValidity

**What is generated in C# passes the check.** The comment of a generator that runs without a command and
the namespaces that it opens bring neither quotes nor braces, so the check finds the literals that have
been written, and as many braces that open as close outside of them.
-/

namespace EnumCodec

open CSharpConverter (HasCodeNames HasFreeFrame writtenLiterals)
open Text (CodeText)
open Validation

/-! ### Layouts -/

/-- What stands in a list after a value has been put into it stood there before, or is the value. -/
theorem Value.mem_insertItem {items : List Value} {item value : Value}
    (mem : value ∈ Value.insertItem items item) : value ∈ items ∨ value = item := by
  unfold Value.insertItem at mem
  split at mem
  · exact .inl mem
  · simpa using mem

/-- The namespaces that are opened are the usual ones and those that are asked for. -/
theorem mem_usingTexts {texts : List CodeText} {name : CodeText}
    (mem : name ∈ usingTexts (texts.map .ofText)) :
    (∃ usual ∈ CSharpConverter.standardUsings, name = .plain usual) ∨ name ∈ texts := by
  -- The list grows from text to text, so the induction is about every list to begin with.
  have known (items : List Value) (texts : List CodeText) {value : Value}
      (mem : value ∈ (texts.map Value.ofText).foldl Value.insertItem items) :
      value ∈ items ∨ ∃ text ∈ texts, value = .ofText text := by
    induction texts generalizing items with
    | nil => exact .inl mem
    | cons text texts ih =>
      obtain found | ⟨later, inside, same⟩ := ih _ mem
      · obtain before | same := Value.mem_insertItem found
        · exact .inl before
        · exact .inr ⟨text, List.mem_cons_self, same⟩
      · exact .inr ⟨later, List.mem_cons_of_mem text inside, same⟩
  obtain ⟨value, found, rfl⟩ := List.mem_map.1 mem
  obtain standard | ⟨text, inside, rfl⟩ := known _ _ found
  · obtain ⟨usual, there, rfl⟩ := List.mem_map.1 standard
    exact .inl ⟨usual, there, rfl⟩
  · rw [Value.displayText_ofText]
    exact .inr inside

/-- A generator of converters in C# that runs without a command and opens some namespaces besides the
usual ones. -/
structure Generator.OpensNamespaces (generator : Generator) (usings : List CodeText) : Prop where
  language : generator.language = .cSharp
  commandLine : generator.commandLine = .ok CommandLine.bareMention
  usings : generator.config.additionalUsings = some (.array (usings.map .ofText))

variable {generator : Generator} {usings : List CodeText} {conversion : Conversion}

/-- Such a generator has a layout without quotes and braces if its namespaces have none. -/
theorem Generator.OpensNamespaces.layout (opens : generator.OpensNamespaces usings)
    (free : ∀ name ∈ usings, IsFree name.shown) :
    ∃ layout, generator.layout = .ok layout ∧ HasFreeFrame layout := by
  have opened : generator.usings = .ok (usingTexts (usings.map .ofText)) := by
    simp [Generator.usings, opens.language, opens.usings, sequenceItems, Value.ofJsonItems_ofText]
  have comment : ∃ comment, generator.comment = .ok comment ∧ ∀ line ∈ comment, IsFree line := by
    unfold Generator.comment
    split
    · rw [opens.commandLine, opens.language]
      refine ⟨_, rfl, fun line mem => ?_⟩
      cases mem
      decide +kernel
    · exact ⟨none, rfl, nofun⟩
  have standard : ∀ name ∈ CSharpConverter.standardUsings, IsFree name := by decide +kernel
  obtain ⟨comment, commented, silent⟩ := comment
  refine ⟨_, by rw [Generator.layout, commented, opened]; rfl, silent, fun shown mem => ?_⟩
  obtain ⟨name, opens, rfl⟩ := List.mem_map.1 mem
  obtain ⟨usual, there, rfl⟩ | asked := mem_usingTexts opens
  · exact standard usual there
  · exact free name asked

/-- **Generated converters in C# pass the check**, whatever their labels, the name for messages and the
options are. The literals that are found from left to right are the written ones and no others, and
outside of them as many braces open as close. -/
theorem render_passes (opens : generator.OpensNamespaces usings)
    (free : ∀ name ∈ usings, IsFree name.shown) (names : HasCodeNames conversion)
    (labels : conversion.HasEscapedLabels) :
    ∃ text, generator.render conversion = .ok text ∧
      validate Language.cSharp.name text = .ok () ∧
      (∀ literals code, Splits text.shown.toList literals code ↔
        literals = writtenLiterals conversion ∧ code = emptyLiterals text.shown.toList) ∧
      (emptyLiterals text.shown.toList).count '\x7b' =
        (emptyLiterals text.shown.toList).count '\x7d' := by
  obtain ⟨layout, made, frame⟩ := opens.layout free
  have shown := CSharpConverter.text_shows frame names labels
  refine ⟨conversion.converterText .cSharp layout, ?_, ?_, fun _ _ => shown.splits_iff,
    shown.balanced⟩
  · rw [Generator.render, made, opens.language]
    rfl
  · simp [validate, Conversion.converterText,
      CSharpConverter.checkCSharp_text frame names labels]

/-- A conversion with a quote and a brace in a label, and a backslash at the end of the name for
messages. -/
def bracedConversion : Conversion where
  options := { propertyName := some "lamp \x7d\\" }
  members := [⟨"ON", some (Text.escape "\" \x7b")⟩, ⟨"House.OFF", none⟩]
  target := { converterName := "LampConverter", converterNamespace := "House.Lights",
              enumFullName := "house.Lamp", enumModule := "house", enumName := "Lamp" }

/-- A generator that opens one namespace. -/
def openingGenerator : Generator where
  language := .cSharp
  config := { additionalUsings := some (.array ([.plain "House.Rooms"].map .ofText)) }
  tool := none
  commandLine := .ok CommandLine.bareMention

theorem render_passes_braced :
    ∃ text, openingGenerator.render bracedConversion = .ok text ∧
      validate "cs" text = .ok () ∧
      (∀ literals code, Splits text.shown.toList literals code ↔
        literals = ["lamp \x7d\\\\", "\\\" \x7b", "House.OFF",
          "The JSON value \\\"\x7bvalue\x7d\\\" could not be converted to \x7bPropertyName\x7d.",
          "\\\" \x7b", "House.OFF"] ∧ code = emptyLiterals text.shown.toList) ∧
      (emptyLiterals text.shown.toList).count '\x7b' =
        (emptyLiterals text.shown.toList).count '\x7d' := by
  have names : HasCodeNames bracedConversion := by
    constructor <;> decide +kernel
  have labels : bracedConversion.HasEscapedLabels := by
    intro member mem label some
    simp only [bracedConversion, List.mem_cons, List.not_mem_nil, or_false] at mem
    rcases mem with rfl | rfl
    · exact ⟨_, congrArg CodeText.shown (Option.some.inj some).symm⟩
    · cases some
  have written : writtenLiterals bracedConversion =
      ["lamp \x7d\\\\", "\\\" \x7b", "House.OFF",
        "The JSON value \\\"\x7bvalue\x7d\\\" could not be converted to \x7bPropertyName\x7d.",
        "\\\" \x7b", "House.OFF"] := by decide +kernel
  have opens : openingGenerator.OpensNamespaces [.plain "House.Rooms"] := ⟨rfl, rfl, rfl⟩
  have passes := render_passes opens (by decide) names labels
  rwa [written] at passes

end EnumCodec
