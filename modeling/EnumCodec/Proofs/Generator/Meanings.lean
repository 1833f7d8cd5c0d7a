import EnumCodec.Proofs.Converter.PythonScopes
import EnumCodec.Proofs.Generator.Validity

/-!
# EnumCodec.Proofs.Generator.Meanings

**What the names of generated converters stand for.** The names of the enum and of the class come from
the source that a converter is generated from, and they share its scopes with the names that every
converter has. Each name stands for what is meant by it exactly when they get in the way of none.
-/

namespace EnumCodec

open Activity (result_toOption_eq_some)
open Declaration (readDeclarations)
open PythonConverter (IsMeant NamesApart uses)
open Source (IsReference bindingsOf bodyPlaces methods readModule)

/-- **The names in a generated converter.** For every conversion that a module asks for, the methods of
the converter look up the dotted names with a meaning and no others; and each of them, a reference to a
member or to the enum among them, stands for what is meant by it, in a module that can be carried out, if
and only if the names of the enum and of the class get in the way of nothing. -/
theorem generated_names_meant_iff {source module : String} {tree : Source.Module}
    {declarations : ModuleDeclarations} {conversion : Conversion} {layout : Layout}
    (named : IsReference module) (parsed : readModule source = .ok tree)
    (read : readDeclarations module tree = .ok declarations)
    (asked : conversion ∈ Generator.conversionsOf declarations)
    (avoids : conversion.AvoidsKeywords) (whole : layout.IsUnbroken .python) :
    ∃ emitted, readModule (PythonConverter.text layout conversion) = .ok emitted ∧
      (methods emitted).map (·.name) =
        "encode" :: "decode" :: (if layout.jsonHelpers then ["dumps", "loads", "default"] else []) ∧
      (∀ method ∈ methods emitted,
        bodyPlaces method.body = (uses conversion method.name).map Prod.fst) ∧
      (((∀ binding ∈ bindingsOf emitted, binding.1 ≠ "__debug__") ∧
          ∀ method ∈ methods emitted, IsMeant emitted conversion method) ↔
        NamesApart layout conversion) := by
  have own : module = "" ∨ Text.IsDottedName module := Or.inr named.isDottedName
  obtain ⟨declared, labels⟩ :=
    conversionsOf_isDeclared Declaration.isKind_dottedName own parsed read conversion asked
  have inModule : conversion.target.enumModule ≠ "" := by
    rw [declared.enumModule]
    rintro rfl
    exact absurd named (by decide)
  obtain ⟨lines, emitted⟩ := PythonConverter.readModule_text whole (declared.isWellNamed own) labels
    (declared.hasPythonNames named avoids)
  refine ⟨_, emitted, ?_, PythonConverter.bodyPlaces_methods inModule,
    PythonConverter.isMeant_iff inModule⟩
  rw [PythonConverter.methods_tree lines inModule, PythonConverter.helperMethods]
  split <;> rfl

set_option maxRecDepth 4000 in
/-- The names in the converter of the lamp. -/
theorem generated_names_meant_iff_lamp :
    ∃ tree declarations conversion, readModule lampSource = .ok tree ∧
      readDeclarations "lamps" tree = .ok declarations ∧
      conversion ∈ Generator.conversionsOf declarations ∧ conversion.AvoidsKeywords ∧
      ∃ emitted, readModule (PythonConverter.text {} conversion) = .ok emitted ∧
        (methods emitted).map (·.name) = ["encode", "decode", "dumps", "loads", "default"] ∧
        (∀ method ∈ methods emitted,
          bodyPlaces method.body = (uses conversion method.name).map Prod.fst) ∧
        (((∀ binding ∈ bindingsOf emitted, binding.1 ≠ "__debug__") ∧
            ∀ method ∈ methods emitted, IsMeant emitted conversion method) ↔
          NamesApart {} conversion) := by
  have names : ((readModule lampSource).toOption.bind fun tree =>
      (readDeclarations "lamps" tree).toOption.map fun declarations =>
        (Generator.conversionsOf declarations).map fun conversion =>
          (conversion.target.converterName, conversion.target.enumName,
            conversion.members.map (·.identifier))) =
      some [("LampConverter", "Lamp", ["ON", "OFF"])] := by decide +kernel
  obtain ⟨tree, parses, names⟩ := Option.bind_eq_some_iff.1 names
  obtain ⟨declarations, reads, names⟩ := Option.map_eq_some_iff.1 names
  have parsed := result_toOption_eq_some.1 parses
  have read := result_toOption_eq_some.1 reads
  obtain ⟨conversion, asked, same⟩ :=
    List.mem_map.1 (names ▸ List.mem_singleton.2 rfl : ("LampConverter", "Lamp", ["ON", "OFF"]) ∈ _)
  obtain ⟨converter, enum, members⟩ : conversion.target.converterName = "LampConverter" ∧
      conversion.target.enumName = "Lamp" ∧
      conversion.members.map (·.identifier) = ["ON", "OFF"] := by simpa using same
  have avoids : conversion.AvoidsKeywords := by
    refine ⟨by rw [converter]; rfl, by rw [enum]; decide, fun member mem => ?_⟩
    have found := List.mem_map_of_mem (f := (·.identifier)) mem
    rw [members] at found
    rcases List.mem_cons.1 found with on | off
    · rw [on]
      rfl
    · rw [List.mem_singleton.1 off]
      rfl
  exact ⟨tree, declarations, conversion, parsed, read, asked, avoids,
    generated_names_meant_iff (by decide) parsed read asked avoids ⟨by simp, by simp⟩⟩

end EnumCodec
