import EnumCodec.Conversion.Resolution
import EnumCodec.Marker.Binding
import Mathlib.Data.List.Forall2

/-!
# EnumCodec.Proofs.Conversion.Additions

**What may be added to declarations without changing a conversion.** Markers, labels and enums are all
found by a search for the first item that fits. So an attribute that is no marker, an enum that is not
asked for, and whatever stands behind an item that has been found make no difference, wherever they are
put.
-/

namespace EnumCodec

/-! ### Lists to which items are added -/

/-- The other list has the items of the first one in their order, each as a related one, and between
them any number of extra items. -/
inductive Enlarged {α : Type} (extra : α → Prop) (related : α → α → Prop) : List α → List α → Prop
  | nil : Enlarged extra related [] []
  | keep {item item' : α} {items items' : List α} (alike : related item item')
    (others : Enlarged extra related items items') :
    Enlarged extra related (item :: items) (item' :: items')
  | insert {item' : α} {items items' : List α} (new : extra item')
    (others : Enlarged extra related items items') : Enlarged extra related items (item' :: items')

namespace Enlarged

variable {α β : Type} {extra : α → Prop} {related : α → α → Prop} {items items' : List α}

/-- The first item that fits stays the first one, if no extra item fits. -/
theorem find? {fits : α → Bool} (enlarged : Enlarged extra related items items')
    (unfit : ∀ item, extra item → fits item = false)
    (same : ∀ item item', related item item' → fits item' = fits item) :
    Option.Rel related (items.find? fits) (items'.find? fits) := by
  induction enlarged with
  | nil => exact .none
  | @keep item item' _ _ alike _ ih =>
    rw [List.find?_cons, List.find?_cons, same item item' alike]
    cases fits item with
    | true => exact .some alike
    | false => exact ih
  | insert new _ ih => rwa [List.find?_cons_of_neg (by simp [unfit _ new])]

/-- The first value that an item gives stays the first one, if no extra item gives any. -/
theorem findSome? {give : α → Option β} (enlarged : Enlarged extra Eq items items')
    (silent : ∀ item, extra item → give item = none) : items'.findSome? give = items.findSome? give := by
  induction enlarged with
  | nil => rfl
  | keep alike _ ih => rw [List.findSome?_cons, List.findSome?_cons, ← alike, ih]
  | insert new _ ih => rw [List.findSome?_cons, silent _ new, ih]

end Enlarged

/-! ### Attributes -/

/-- An attribute that is no marker: its qualified name has a dot and is that of no marker, or it has
none and the short name is that of no marker. -/
def Attribute.IsIrrelevant (attr : Attribute) : Prop :=
  ('.' ∈ attr.qualifiedName.toList ∧ ∀ kind : MarkerKind, attr.qualifiedName ≠ kind.qualifiedName) ∨
    ('.' ∉ attr.qualifiedName.toList ∧ ∀ kind : MarkerKind, attr.name ≠ kind.name)

theorem MarkerKind.dot_mem_qualifiedName (kind : MarkerKind) : '.' ∈ kind.qualifiedName.toList := by
  cases kind <;> decide +kernel

namespace Attribute.IsIrrelevant

variable {attr : Attribute} (irrelevant : attr.IsIrrelevant)

include irrelevant

/-- An irrelevant attribute is none of the markers. -/
theorem isMarker_eq_false (kind : MarkerKind) : attr.isMarker kind = false := by
  rcases irrelevant with ⟨dotted, other⟩ | ⟨bare, other⟩
  · simp [isMarker, dotted, other kind]
  · have unlike : attr.qualifiedName ≠ kind.qualifiedName := by
      intro same
      rw [same] at bare
      exact bare kind.dot_mem_qualifiedName
    simp [isMarker, unlike, other kind]

/-- No source of labels takes an irrelevant attribute. -/
theorem label?_eq_none (provider : LabelProvider) : provider.label? attr = none := by
  cases provider <;> simp [LabelProvider.label?, irrelevant.isMarker_eq_false]

end Attribute.IsIrrelevant

/-- Irrelevant attributes are put between others. Once the attributes so far settle what is looked for,
those behind them may be any. -/
inductive AttributesExtended (settle : List Attribute → Prop) :
    List Attribute → List Attribute → Prop
  | inserted {attrs attrs' : List Attribute}
    (enlarged : Enlarged Attribute.IsIrrelevant Eq attrs attrs') : AttributesExtended settle attrs attrs'
  | appended {front front' : List Attribute}
    (enlarged : Enlarged Attribute.IsIrrelevant Eq front front') (settled : settle front)
    (back back' : List Attribute) : AttributesExtended settle (front ++ back) (front' ++ back')

/-- Both markers of a class are among its attributes. -/
def HaveMarkers (attrs : List Attribute) : Prop :=
  (findMarker attrs .enumJsonConverter).isSome = true ∧ (findMarker attrs .jsonConverter).isSome = true

instance (attrs : List Attribute) : Decidable (HaveMarkers attrs) :=
  inferInstanceAs (Decidable (_ ∧ _))

/-- One of the attributes of a member gives it a label. -/
def GiveLabel (attrs : List Attribute) : Prop :=
  (memberLabel? LabelProvider.standard attrs).isSome = true

instance (attrs : List Attribute) : Decidable (GiveLabel attrs) :=
  inferInstanceAs (Decidable (_ = true))

section

variable {attrs attrs' : List Attribute}

theorem findMarker_enlarged (enlarged : Enlarged Attribute.IsIrrelevant Eq attrs attrs')
    (kind : MarkerKind) : findMarker attrs' kind = findMarker attrs kind := by
  have found : Option.Rel Eq (findMarker attrs kind) (findMarker attrs' kind) := by
    refine enlarged.find? (fun _ irrelevant => irrelevant.isMarker_eq_false kind) fun _ _ same => ?_
    rw [same]
  generalize findMarker attrs kind = marker? at found ⊢
  generalize findMarker attrs' kind = marker?' at found ⊢
  cases found with
  | none => rfl
  | some same => rw [same]

/-- The markers of a class are found as before. -/
theorem findMarker_extended (extended : AttributesExtended HaveMarkers attrs attrs')
    (kind : MarkerKind) (decorates : kind.isDecorator = true) :
    findMarker attrs' kind = findMarker attrs kind := by
  cases extended with
  | inserted enlarged => exact findMarker_enlarged enlarged kind
  | @appended front front' enlarged settled back back' =>
    have inFront : (findMarker front kind).isSome = true := by
      cases kind with
      | enumJsonConverter => exact settled.1
      | jsonConverter => exact settled.2
      | _ => cases decorates
    obtain ⟨marker, found⟩ := Option.isSome_iff_exists.1 inFront
    have found' := (findMarker_enlarged enlarged kind).trans found
    unfold findMarker at found found' ⊢
    rw [List.find?_append, List.find?_append, found, found']
    rfl

theorem memberLabel?_enlarged (enlarged : Enlarged Attribute.IsIrrelevant Eq attrs attrs')
    (providers : List LabelProvider) : memberLabel? providers attrs' = memberLabel? providers attrs :=
  enlarged.findSome? fun _ irrelevant =>
    List.findSome?_eq_none_iff.2 fun provider _ => irrelevant.label?_eq_none provider

/-- A member gets the label that it had. -/
theorem memberLabel?_extended (extended : AttributesExtended GiveLabel attrs attrs') :
    memberLabel? LabelProvider.standard attrs' = memberLabel? LabelProvider.standard attrs := by
  cases extended with
  | inserted enlarged => exact memberLabel?_enlarged enlarged _
  | @appended front front' enlarged settled back back' =>
    obtain ⟨label, given⟩ := Option.isSome_iff_exists.1 settled
    have given' := (memberLabel?_enlarged enlarged _).trans given
    unfold memberLabel? at given given' ⊢
    rw [List.findSome?_append, List.findSome?_append, given, given']
    rfl

end

/-! ### Members and enums -/

/-- A member whose attributes are extended. -/
structure Member.Extended (member member' : Member) : Prop where
  name : member'.name = member.name
  hasValue : member'.hasValue = member.hasValue
  attributes : AttributesExtended GiveLabel member.attributes member'.attributes

/-- An enum whose attributes, and those of its members, are extended. -/
structure EnumDeclaration.Extended (enum enum' : EnumDeclaration) : Prop where
  name : enum'.name = enum.name
  module : enum'.module = enum.module
  isPublic : enum'.isPublic = enum.isPublic
  attributes : AttributesExtended HaveMarkers enum.attributes enum'.attributes
  members : List.Forall₂ Member.Extended enum.members enum'.members

/-- A module whose enums are extended, with extra ones between them. -/
structure ModuleDeclarations.Extended (extra : EnumDeclaration → Prop)
    (declarations declarations' : ModuleDeclarations) : Prop where
  module : declarations'.module = declarations.module
  enums : Enlarged extra EnumDeclaration.Extended declarations.enums declarations'.enums

/-- Neither name of an enum is among those that a declaration asks for. -/
def EnumDeclaration.IsUnasked (declarations : ModuleDeclarations) (declaration enum : EnumDeclaration) :
    Prop :=
  ∀ request target, findMarker declaration.attributes .enumJsonConverter = some request →
    request.args.head? = some target →
      enum.name ∉ ModuleDeclarations.denotedNames declarations.module target ∧
        enum.fullName ∉ ModuleDeclarations.denotedNames declarations.module target

section

variable {declarations declarations' : ModuleDeclarations} {declaration declaration' : EnumDeclaration}
  {enum enum' : EnumDeclaration} {request : Attribute} {target : Value}

theorem EnumDeclaration.Extended.fullName (extended : enum.Extended enum') :
    enum'.fullName = enum.fullName := by
  simp only [EnumDeclaration.fullName, extended.name, extended.module]

/-- An extended enum is described by the same members. -/
theorem EnumDeclaration.Extended.served (extended : enum.Extended enum') :
    (enum'.members.filter (·.hasValue)).map (describeMember LabelProvider.standard) =
      (enum.members.filter (·.hasValue)).map (describeMember LabelProvider.standard) := by
  have members := extended.members
  generalize enum.members = served at members ⊢
  generalize enum'.members = served' at members ⊢
  induction members with
  | nil => rfl
  | @cons member member' _ _ here _ ih =>
    have described : describeMember LabelProvider.standard member' =
        describeMember LabelProvider.standard member := by
      simp only [describeMember, here.name, memberLabel?_extended here.attributes]
    rw [List.filter_cons, List.filter_cons, here.hasValue]
    split
    · rw [List.map_cons, List.map_cons, described, ih]
    · exact ih

/-- The enum that is asked for is found as before. -/
theorem find?_extended
    (tree : declarations.Extended (EnumDeclaration.IsUnasked declarations declaration) declarations')
    (asked : findMarker declaration.attributes .enumJsonConverter = some request)
    (first : request.args.head? = some target) :
    Option.Rel EnumDeclaration.Extended (declarations.find? target) (declarations'.find? target) := by
  unfold ModuleDeclarations.find?
  rw [tree.module]
  refine tree.enums.find? (fun enum unasked => ?_) fun enum enum' extended => ?_
  · obtain ⟨name, fullName⟩ := unasked request target asked first
    simp [ModuleDeclarations.goesBy, name, fullName]
  · simp only [ModuleDeclarations.goesBy, extended.name, extended.fullName]

/-- **Additions do not change what is resolved**, neither the conversion nor what is reported on the way.
They are attributes that are no markers, at any place of any list; any attributes of a class behind its
two markers; any attributes of a member behind the one that gives its label; and at any place enums that
the declaration does not ask for. -/
theorem resolve_extended (own : declaration.Extended declaration')
    (tree : declarations.Extended (EnumDeclaration.IsUnasked declarations declaration) declarations') :
    resolve LabelProvider.standard declarations' declaration' =
      resolve LabelProvider.standard declarations declaration := by
  have request' := findMarker_extended own.attributes .enumJsonConverter rfl
  have designation := findMarker_extended own.attributes .jsonConverter rfl
  unfold resolve
  rw [request']
  cases asked : findMarker declaration.attributes .enumJsonConverter with
  | none => rfl
  | some request =>
    have options : resolveOptions declaration' request.keywords =
        resolveOptions declaration request.keywords := by
      simp only [resolveOptions, resolveFlag, resolvePropertyName, ignoredOption, own.fullName]
    simp only [resolveTarget, designation, options, own.fullName, own.isPublic]
    cases args : request.args with
    | nil => rfl
    | cons target others =>
      -- The same enum is found up to extensions, of which nothing is described.
      have first : request.args.head? = some target := by rw [args, List.head?_cons]
      have found := find?_extended tree asked first
      dsimp only
      generalize declarations.find? target = enum? at found ⊢
      generalize declarations'.find? target = enum?' at found ⊢
      cases found with
      | none => rfl
      | @some enum enum' extended =>
        generalize (findMarker declaration.attributes .jsonConverter).map (·.args) = args?
        match args? with
        | none | some [] | some (_ :: _ :: _) => rfl
        | some [value] =>
          dsimp only [bind, Except.bind]
          cases converterType? value with
          | none => rfl
          | some converter =>
            dsimp only
            rw [extended.served, extended.fullName, extended.module, extended.name]

end

/-! ### An example -/

/-- The attributes of a class that asks for a converter of signals. -/
def signalMarkers : List Attribute :=
  [{ name := "EnumJsonConverter", qualifiedName := "enum_json_converter.markers.EnumJsonConverter",
      args := [.text "Signal"] },
    { name := "JsonConverter", qualifiedName := "JsonConverter", args := [.text "SignalConverter"] }]

/-- The label of a signal. -/
def goLabel : Attribute :=
  { name := "Display", qualifiedName := "enum_json_converter.markers.Display",
    keywords := [("Name", .text "all clear")] }

/-- An enum of signals. -/
def signalEnum : EnumDeclaration where
  name := "Signal"
  module := "rail"
  members := [{ name := "GO", attributes := [goLabel] }, { name := "STOP" }]
  attributes := signalMarkers

/-- A decorator, and a call beside a label, that have the short names of markers and come from another
module. -/
def foreignMarker (kind : MarkerKind) : Attribute :=
  { name := kind.name, qualifiedName := "forms." ++ kind.name, args := [.text "Signal"],
    keywords := [("Name", .text "clear")] }

/-- The enum of signals, decorated and annotated further. -/
def crowdedSignalEnum : EnumDeclaration :=
  { signalEnum with
    members := [
      { name := "GO", attributes := [foreignMarker .display, goLabel,
        { name := "Description", qualifiedName := "Description", args := [.text "go"] }] },
      { name := "STOP", attributes := [{ name := "Unit", qualifiedName := "Unit" }] }]
    attributes := [foreignMarker .enumJsonConverter] ++ signalMarkers ++
      [{ name := "JsonConverter", qualifiedName := "JsonConverter", args := [.text "Other"] }] }

/-- The enum alone in its module. -/
def quietRail : ModuleDeclarations := ⟨"rail", [signalEnum]⟩

/-- The enum behind another one. -/
def crowdedRail : ModuleDeclarations :=
  ⟨"rail", [{ name := "Point", module := "rail" }, crowdedSignalEnum]⟩

theorem foreignMarker_isIrrelevant (kind : MarkerKind) : (foreignMarker kind).IsIrrelevant := by
  refine .inl ⟨?_, fun other => ?_⟩
  · cases kind <;> decide +kernel
  · cases kind <;> cases other <;> decide +kernel

/-- The conversion of the signals stays as it is, beside another enum and with further attributes. -/
theorem resolve_extended_signals :
    signalEnum.Extended crowdedSignalEnum ∧
      quietRail.Extended (EnumDeclaration.IsUnasked quietRail signalEnum) crowdedRail ∧
      resolve LabelProvider.standard crowdedRail crowdedSignalEnum =
        resolve LabelProvider.standard quietRail signalEnum ∧
      (resolve LabelProvider.standard quietRail signalEnum).1.map (·.members) =
        some [⟨"GO", some "all clear"⟩, ⟨"STOP", none⟩] := by
  have noUnit : Attribute.IsIrrelevant { name := "Unit", qualifiedName := "Unit" } :=
    .inr ⟨by decide +kernel, fun kind => by cases kind <;> decide +kernel⟩
  have decorated : AttributesExtended HaveMarkers signalEnum.attributes crowdedSignalEnum.attributes :=
    .appended (.insert (foreignMarker_isIrrelevant _) (.keep rfl (.keep rfl .nil)))
      (by decide +kernel) [] _
  have go : AttributesExtended GiveLabel [goLabel] _ :=
    .appended (.insert (foreignMarker_isIrrelevant .display) (.keep rfl .nil)) (by decide +kernel) []
      [{ name := "Description", qualifiedName := "Description", args := [.text "go"] }]
  have own : signalEnum.Extended crowdedSignalEnum :=
    ⟨rfl, rfl, rfl, decorated,
      .cons ⟨rfl, rfl, go⟩ (.cons ⟨rfl, rfl, .inserted (.insert noUnit .nil)⟩ .nil)⟩
  have unasked : EnumDeclaration.IsUnasked quietRail signalEnum { name := "Point", module := "rail" } := by
    intro request target asked first
    obtain rfl := Option.some.inj asked
    obtain rfl := Option.some.inj first
    decide +kernel
  have rail : quietRail.Extended (EnumDeclaration.IsUnasked quietRail signalEnum) crowdedRail :=
    ⟨rfl, .insert unasked (.keep own .nil)⟩
  exact ⟨own, rail, resolve_extended own rail, by decide +kernel⟩

end EnumCodec
