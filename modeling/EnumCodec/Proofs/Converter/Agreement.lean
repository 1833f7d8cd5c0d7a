import EnumCodec.Proofs.Converter.CSharpReading
import EnumCodec.Proofs.Converter.PythonReading

/-!
# EnumCodec.Proofs.Converter.Agreement

**The converters of both languages show the same.** Whatever its labels say, each text holds the members
of the conversion in the order of declaration, and nothing that is taken for one.
-/

namespace EnumCodec

open Reading

/-- **All five lists in the two converters are the members of the conversion.** In Python these are the
visible texts, the branches that encode and the steps that decode, in C# the comparisons and the
cases. -/
theorem converters_show_visibleMembers {conversion : Conversion} {layout layout' : Layout}
    (names : conversion.IsWellNamed) (labels : conversion.HasEscapedLabels)
    (whole : layout.IsUnbroken .python) (whole' : layout'.IsUnbroken .cSharp) :
    let python := PythonConverter.text layout conversion
    let cSharp := CSharpConverter.text layout' conversion
    let enum := PythonConverter.enumName conversion.target
    let type := CSharpConverter.enumType conversion.target
    PythonConverter.readShown python = conversion.visibleMembers.map (·.text) ∧
    PythonConverter.readEncoding enum python = conversion.visibleMembers ∧
    PythonConverter.readDecoding enum python = PythonConverter.decodeSteps conversion ∧
    CSharpConverter.readComparisons type cSharp =
      conversion.visibleMembers.map (conversion.options.caseSensitive, ·) ∧
    CSharpConverter.readCases type cSharp = conversion.visibleMembers :=
  ⟨PythonConverter.readShown_text whole names labels,
    PythonConverter.readEncoding_text whole names labels,
    PythonConverter.readDecoding_text whole names labels,
    CSharpConverter.readComparisons_text whole' names labels,
    CSharpConverter.readCases_text whole' names labels⟩

/-- A conversion with a label and a name for messages that look like branches. -/
def deceptiveConversion : Conversion where
  options := { propertyName := some "x\"\n        if value is Lamp.OFF:" }
  members := [
    ⟨"ON", some (Text.escape "on\":\n            return Lamp.OFF\n        if key == \"Off")⟩,
    ⟨"OFF", none⟩]
  target := { converterName := "LampConverter", converterNamespace := "House",
              enumFullName := "house.Lamp", enumModule := "house", enumName := "Lamp" }

theorem converters_show_visibleMembers_deceptive :
    PythonConverter.readEncoding "Lamp" (PythonConverter.text {} deceptiveConversion) =
      [⟨"ON", "on\\\":\\n            return Lamp.OFF\\n        if key == \\\"Off"⟩, ⟨"OFF", "OFF"⟩] ∧
    PythonConverter.readDecoding "Lamp" (PythonConverter.text {} deceptiveConversion) =
      [.lower,
        .branch .key ⟨"ON", "on\\\":\\n            return lamp.off\\n        if key == \\\"off"⟩,
        .branch .key ⟨"OFF", "off"⟩] ∧
    CSharpConverter.readCases "global::house.Lamp" (CSharpConverter.text {} deceptiveConversion) =
      [⟨"ON", "on\\\":\\n            return Lamp.OFF\\n        if key == \\\"Off"⟩,
        ⟨"OFF", "OFF"⟩] := by
  have names : deceptiveConversion.IsWellNamed := by
    constructor <;> decide +kernel
  have labels : deceptiveConversion.HasEscapedLabels := by
    intro member hm label hl
    simp only [deceptiveConversion, List.mem_cons, List.not_mem_nil, or_false] at hm
    rcases hm with rfl | rfl
    · exact ⟨_, congrArg Text.CodeText.shown (Option.some.inj hl).symm⟩
    · cases hl
  have python : ({} : Layout).IsUnbroken .python := ⟨by simp, by simp⟩
  have csharp : ({} : Layout).IsUnbroken .cSharp := ⟨by simp, by simp⟩
  obtain ⟨-, encoding, decoding, -, cases⟩ :=
    converters_show_visibleMembers names labels python csharp
  exact ⟨encoding.trans (by decide +kernel), decoding.trans (by decide +kernel),
    cases.trans (by decide +kernel)⟩

end EnumCodec
