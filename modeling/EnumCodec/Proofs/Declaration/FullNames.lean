import EnumCodec.Proofs.Declaration.Names

/-!
# EnumCodec.Proofs.Declaration.FullNames

**The enum that a full name denotes.** A text denotes the first enum that has it for its name in the
module or for its full name. Names in the module can have dots, so the full name of one enum may be the
name of another one, if the classes around that one repeat the name of the module. If such an enum stands
before the first one, it is found in its place, and nothing else gets in the way.
-/

namespace EnumCodec.Declaration

open Source

section

variable {source module : String} {tree : Module} {declarations : ModuleDeclarations}
  {enum other : EnumDeclaration}

/-- The full name of an enum of a module that has been read. -/
theorem fullName_of_read (parsed : readModule source = .ok tree)
    (read : readDeclarations module tree = .ok declarations) (mem : enum ∈ declarations.enums) :
    enum.name ≠ "" ∧ enum.fullName = if module = "" then enum.name else module ++ "." ++ enum.name := by
  have anyName : IsKind fun _ => True := ⟨fun _ => trivial, fun _ _ => trivial, fun _ _ => trivial⟩
  have fits := readDeclarations_fit anyName (.inr trivial) (readModule_isNamed parsed) read enum mem
  refine ⟨?_, by rw [EnumDeclaration.fullName, fits.module]⟩
  intro empty
  have dotted := fits.name
  rw [empty] at dotted
  exact absurd dotted (by decide)

theorem fullName_ne_empty (parsed : readModule source = .ok tree)
    (read : readDeclarations module tree = .ok declarations) (mem : enum ∈ declarations.enums) :
    enum.fullName ≠ "" := by
  obtain ⟨named, full⟩ := fullName_of_read parsed read mem
  rw [full]
  split
  · exact named
  · simp

/-- In one module a full name is as distinct as the name. -/
theorem fullName_eq_iff (parsed : readModule source = .ok tree)
    (read : readDeclarations module tree = .ok declarations) (mem : enum ∈ declarations.enums)
    (mem' : other ∈ declarations.enums) : other.fullName = enum.fullName ↔ other.name = enum.name := by
  rw [(fullName_of_read parsed read mem).2, (fullName_of_read parsed read mem').2]
  split
  · exact Iff.rfl
  · exact String.append_right_inj _

/-- A text that is not empty denotes the first enum that has it for one of its two names. -/
theorem find?_text {name : String} (filled : name ≠ "") : declarations.find? (.text name) =
    declarations.enums.find? fun enum => enum.name == name || enum.fullName == name := by
  refine List.find?_congr fun enum _ => ?_
  rw [Bool.eq_iff_iff]
  simp [ModuleDeclarations.goesBy, ModuleDeclarations.denotedNames, filled]

/-- **The enum that a full name denotes** is the one that has it, wherever it stands, unless an enum
before it has that full name for its name in the module: then it is the first of these. -/
theorem denoted_by_fullName (parsed : readModule source = .ok tree)
    (read : readDeclarations module tree = .ok declarations)
    (distinct : (declarations.enums.map (·.name)).Nodup) {front back : List EnumDeclaration}
    (order : declarations.enums = front ++ enum :: back) :
    declarations.find? (.text enum.fullName) =
        some ((front.find? fun other => other.name == enum.fullName).getD enum) ∧
      (declarations.find? (.text enum.fullName) = some enum ↔
        ∀ other ∈ front, other.name ≠ enum.fullName) := by
  have here : enum ∈ declarations.enums := by simp [order]
  have differs : ∀ other ∈ front, other.name ≠ enum.name := by
    intro other mem same
    rw [order, List.map_append, List.map_cons, List.nodup_append] at distinct
    exact distinct.2.2 _ (List.mem_map_of_mem mem) _ List.mem_cons_self same
  -- The full name of an enum before this one is another one, so only its name can be met.
  have before : (front.find? fun other => other.name == enum.fullName || other.fullName == enum.fullName) =
      front.find? fun other => other.name == enum.fullName := by
    refine List.find?_congr fun other mem => ?_
    have apart : other.fullName ≠ enum.fullName := fun same => differs other mem
      ((fullName_eq_iff parsed read here (order ▸ List.mem_append_left _ mem)).1 same)
    simp [apart]
  have found : declarations.find? (.text enum.fullName) =
      some ((front.find? fun other => other.name == enum.fullName).getD enum) := by
    rw [find?_text (fullName_ne_empty parsed read here), order, List.find?_append, before]
    simp
  refine ⟨found, ?_⟩
  rw [found, Option.some_inj]
  cases first : front.find? fun other => other.name == enum.fullName with
  | none => simpa using first
  | some other =>
    have mem := List.mem_of_find?_eq_some first
    have same : other.name = enum.fullName := by simpa using List.find?_some first
    have apart : other ≠ enum := fun equal => differs other mem (by rw [equal])
    simpa [apart] using ⟨other, mem, same⟩

end

/-- A module in which a class has the name of the module, with an enum in it whose name is the full name
of a later enum. -/
def shadowingSource : String :=
  "class m:\n class Color(Enum):\n  WRONG = 1\n\nclass Color(Enum):\n RED = 1\n"

set_option maxRecDepth 4000 in
/-- Both enums are declared, the nested one first. -/
theorem shadowing_read : ∃ tree nested outer, readModule shadowingSource = .ok tree ∧
    readDeclarations "m" tree = .ok ⟨"m", [nested, outer]⟩ ∧ nested.name = "m.Color" ∧
      nested.module = "m" ∧ outer.name = "Color" ∧ outer.module = "m" := by
  have names : ((readModule shadowingSource).toOption.bind fun tree =>
      (readDeclarations "m" tree).toOption.bind fun declarations =>
        some (declarations.module, declarations.enums.map fun enum => (enum.name, enum.module))) =
      some ("m", [("m.Color", "m"), ("Color", "m")]) := by decide +kernel
  obtain ⟨tree, ⟨module, enums⟩, parsed, read, names⟩ := exists_of_read names
  obtain ⟨rfl, names⟩ := Prod.mk.inj (Option.some.inj names)
  obtain ⟨nested, rest, rfl, first, names⟩ := List.map_eq_cons_iff.1 names
  obtain ⟨outer, last, rfl, second, names⟩ := List.map_eq_cons_iff.1 names
  obtain rfl := List.map_eq_nil_iff.1 names
  obtain ⟨name, own⟩ := Prod.mk.inj first
  obtain ⟨name', own'⟩ := Prod.mk.inj second
  exact ⟨tree, nested, outer, parsed, read, name, own, name', own'⟩

/-- The nested enum is denoted by its own full name, and by that of the enum behind it. -/
theorem denoted_by_fullName_shadowing : ∃ tree nested outer, readModule shadowingSource = .ok tree ∧
    readDeclarations "m" tree = .ok ⟨"m", [nested, outer]⟩ ∧
      (ModuleDeclarations.find? ⟨"m", [nested, outer]⟩ (.text nested.fullName)) = some nested ∧
      (ModuleDeclarations.find? ⟨"m", [nested, outer]⟩ (.text outer.fullName)) = some nested := by
  obtain ⟨tree, nested, outer, parsed, read, name, module, name', module'⟩ := shadowing_read
  have distinct : ([nested, outer].map (·.name)).Nodup := by simp [name, name']
  have first : [nested, outer] = [] ++ nested :: [outer] := rfl
  have second : [nested, outer] = [nested] ++ outer :: [] := rfl
  have own := (denoted_by_fullName parsed read distinct first).1
  have later := (denoted_by_fullName parsed read distinct second).1
  refine ⟨tree, nested, outer, parsed, read, own, later.trans ?_⟩
  simp [EnumDeclaration.fullName, name, name', module']

/-- **A full name may denote another enum**: the second enum has a name of its own, and the first one is
found. -/
theorem denoted_by_fullName_shadowed : ∃ tree declarations enum,
    readModule shadowingSource = .ok tree ∧ readDeclarations "m" tree = .ok declarations ∧
      (declarations.enums.map (·.name)).Nodup ∧ enum ∈ declarations.enums ∧
      declarations.find? (.text enum.fullName) ≠ some enum := by
  obtain ⟨tree, nested, outer, parsed, read, name, module, name', module'⟩ := shadowing_read
  refine ⟨tree, _, outer, parsed, read, by simp [name, name'], by simp, ?_⟩
  have found : ModuleDeclarations.find? ⟨"m", [nested, outer]⟩ (.text outer.fullName) = some nested := by
    rw [find?_text (by simp [EnumDeclaration.fullName, name', module'])]
    simp [EnumDeclaration.fullName, name, name', module']
  rw [found]
  intro same
  have equal := congrArg (Option.map (·.name)) same
  simp [name, name'] at equal

end EnumCodec.Declaration
