import EnumCodec.Converter.Layout
import EnumCodec.Proofs.Text.LowercaseSpelling

/-!
# EnumCodec.Proofs.Converter.Lines

**Reading a text line by line.** A text falls into lines at every character that ends a line in some
language, and a line is looked at without the blanks before its code. A name or a literal is found on a
line by what stands before and behind it; a branch is a pair of lines that follow each other. None of
this knows how the text was written.
-/

namespace EnumCodec.Reading

open Text (isPlain PlainText breaksLiteral Spells)

/-! ### Lines -/

/-- A line of a text, without its end. -/
abbrev Line := List Char

/-- Does a line end at the character? -/
def endsLine (c : Char) : Bool :=
  let n := c.toNat
  (10 ≤ n && n ≤ 13) || (28 ≤ n && n ≤ 30) || n == 0x85 || n == 0x2028 || n == 0x2029

/-- The lines of a text. -/
def linesOf : List Char → List Line
  | [] => []
  | c :: rest =>
    if endsLine c then [] :: linesOf rest
    else
      match linesOf rest with
      | [] => [[c]]
      | line :: lines => (c :: line) :: lines

/-- The code of a line: the line without the blanks before it. -/
def code (line : Line) : Line :=
  line.dropWhile (· == ' ')

/-- No line ends inside the text. -/
def isUnbroken (text : String) : Bool :=
  text.toList.all (!breaksLiteral ·)

@[simp] theorem isUnbroken_append (text text' : String) :
    isUnbroken (text ++ text') = (isUnbroken text && isUnbroken text') := by
  simp [isUnbroken]

theorem isUnbroken_iff {text : String} :
    isUnbroken text = true ↔ ∀ c ∈ text.toList, breaksLiteral c = false := by
  simp [isUnbroken]

theorem endsLine_of_not_breaksLiteral {c : Char} (h : breaksLiteral c = false) :
    endsLine c = false := by
  simp only [breaksLiteral, Bool.or_eq_false_iff, decide_eq_false_iff_not,
    beq_eq_false_iff_ne] at h
  have : ¬ c.toNat < 32 := h.1.1.1.1
  simp only [endsLine, Bool.or_eq_false_iff, Bool.and_eq_false_iff, decide_eq_false_iff_not,
    beq_eq_false_iff_ne]
  omega

/-- A line feed ends the line before it. -/
theorem linesOf_append_newline {line : Line} (h : ∀ c ∈ line, endsLine c = false)
    (rest : List Char) : linesOf (line ++ '\n' :: rest) = line :: linesOf rest := by
  induction line with
  | nil => rfl
  | cons c line ih =>
      have here : endsLine c = false := h c List.mem_cons_self
      simp [linesOf, here, ih fun d hd => h d (List.mem_cons_of_mem c hd)]

/-- **The lines of a text are those that it was made of**, if none of them holds the end of a line. -/
theorem linesOf_textOfLines {lines : List String} (h : ∀ line ∈ lines, isUnbroken line = true) :
    linesOf (textOfLines lines).toList = lines.map String.toList := by
  induction lines with
  | nil => rfl
  | cons line lines ih =>
      have unbroken : ∀ c ∈ line.toList, endsLine c = false := fun c hc =>
        endsLine_of_not_breaksLiteral (isUnbroken_iff.1 (h line List.mem_cons_self) c hc)
      have rest := ih fun line' hl => h line' (List.mem_cons_of_mem line hl)
      simp only [textOfLines, String.toList_join] at rest ⊢
      simp only [List.map_cons, List.flatMap_cons, String.toList_append, List.append_assoc]
      rw [show "\n".toList = ['\n'] from rfl, List.singleton_append,
        linesOf_append_newline unbroken, rest]

/-! ### Texts without line ends -/

/-- A literal is looked at as its characters. -/
theorem isUnbroken_literal {text : String} {chars : List Char} (h : String.ofList chars = text)
    (ok : chars.all (!breaksLiteral ·) = true) : isUnbroken text = true := by
  subst h
  rwa [isUnbroken, String.toList_ofList]

theorem isUnbroken_of_plain {text : String} (h : PlainText text) : isUnbroken text = true :=
  isUnbroken_iff.2 fun c hc => (Text.isPlain_iff.1 (h c hc)).2.2

theorem isUnbroken_braced {text : String} (h : isUnbroken text = true) :
    isUnbroken (braced text) = true := by
  rw [braced, isUnbroken_append, isUnbroken_append, h]
  decide

theorem isUnbroken_escape (text : String) : isUnbroken (Text.escape text) = true := by
  refine isUnbroken_iff.2 fun d hd => ?_
  rw [Text.toList_escape] at hd
  exact Text.not_breaksLiteral_of_mem_escapeChars hd

theorem isUnbroken_lowercase_escape (text : String) :
    isUnbroken (Text.lowercase (Text.escape text)) = true := by
  refine isUnbroken_iff.2 fun d hd => ?_
  rw [Text.lowercase, String.toList_ofList, Text.toList_escape] at hd
  exact Text.not_breaksLiteral_of_mem_lowercase_escapeChars hd

/-! ### Names and literals on a line -/

/-- The literal of a line between two pieces of code, the first of which ends with the quote that
opens it; the second one begins behind the quote that closes it. -/
def quotedBetween (front back : String) (line : Line) : Option String := do
  let rest ← Text.afterChars? front.toList line
  let (body, after) ← Source.shortBody '"' rest
  if after = back.toList then some (String.ofList body) else none

/-- The name of a line between two pieces of code. -/
def nameBetween (front back : String) (line : Line) : Option String := do
  let rest ← Text.afterChars? front.toList line
  let name ← Text.afterChars? back.toList.reverse rest.reverse
  return String.ofList name.reverse

theorem afterChars?_append (front rest : List Char) :
    Text.afterChars? front (front ++ rest) = some rest := by
  induction front with
  | nil => rfl
  | cons c front ih => simp [Text.afterChars?, ih]

/-- A literal is found where it stands if the right code is behind it. -/
theorem quotedBetween_append {front back body rest : String} {chars : List Char}
    (h : Spells body.toList chars) :
    quotedBetween front back (front ++ body ++ "\"" ++ rest).toList =
      if rest = back then some body else none := by
  simp only [String.toList_append, quotedBetween, List.append_assoc, afterChars?_append]
  rw [show "\"".toList = ['"'] from rfl, List.singleton_append]
  simp [h.shortBody_eq, String.toList_inj]

theorem quotedBetween_eq {front back body : String} {chars : List Char}
    (h : Spells body.toList chars) :
    quotedBetween front back (front ++ body ++ "\"" ++ back).toList = some body := by
  rw [quotedBetween_append h, if_pos rfl]

/-- A name is found where it stands. -/
theorem nameBetween_eq (front back name : String) :
    nameBetween front back (front ++ name ++ back).toList = some name := by
  simp [nameBetween, afterChars?_append]

/-! ### Lines that are passed over -/

/-- Do two texts differ before one of them ends? -/
def differs : List Char → List Char → Bool
  | c :: text, d :: text' => c != d || differs text text'
  | _, _ => false

theorem afterChars?_of_differs {front text : List Char} (h : differs front text = true) :
    Text.afterChars? front text = none := by
  fun_induction differs front text with
  | case1 c front d text ih =>
      rw [Bool.or_eq_true, bne_iff_ne] at h
      unfold Text.afterChars?
      split
      · rename_i same
        exact ih (h.resolve_left fun different => different same)
      · rfl
  | case2 => cases h

theorem differs_append {text text' : List Char} (h : differs text text' = true)
    (more more' : List Char) : differs (text ++ more) (text' ++ more') = true := by
  fun_induction differs text text' with
  | case1 c text d text' ih =>
      rw [Bool.or_eq_true] at h
      rw [List.cons_append, List.cons_append, differs, Bool.or_eq_true]
      exact h.imp_right ih
  | case2 => cases h

/-- The code of a line begins with something else than the opening. -/
def avoids (opening : String) (line : Line) : Bool :=
  differs opening.toList (code line)

theorem code_append {line : Line} (h : code line ≠ []) (more : Line) :
    code (line ++ more) = code line ++ more := by
  induction line with
  | nil => exact absurd rfl h
  | cons c line ih =>
      unfold code at h ih ⊢
      rw [List.cons_append, List.dropWhile_cons] at *
      split
      · rename_i blank
        rw [if_pos blank] at h
        rw [List.dropWhile_cons, if_pos blank]
        exact ih h
      · rename_i nonblank
        rw [List.dropWhile_cons, if_neg nonblank]
        rfl

/-- The beginning of a line decides which openings it avoids. -/
theorem avoids_append {opening : String} {line : Line} (h : avoids opening line = true)
    (more : Line) : avoids opening (line ++ more) = true := by
  unfold avoids at h ⊢
  have nonblank : code line ≠ [] := by
    intro blank
    have never : differs opening.toList [] = false := by cases opening.toList <;> rfl
    rw [blank, never] at h
    cases h
  rw [code_append nonblank]
  simpa using differs_append h [] more

theorem quotedBetween_of_avoids {front back : String} {line : Line} (h : avoids front line = true) :
    quotedBetween front back (code line) = none := by
  rw [quotedBetween, afterChars?_of_differs h]
  rfl

theorem nameBetween_of_avoids {front more back : String} {line : Line}
    (h : avoids front line = true) : nameBetween (front ++ more) back (code line) = none := by
  have other := differs_append h more.toList []
  rw [List.append_nil, ← String.toList_append] at other
  rw [nameBetween, afterChars?_of_differs other]
  rfl

/-- A line in one piece that begins with none of the openings. -/
structure IsOther (openings : List String) (line : String) : Prop where
  unbroken : isUnbroken line = true
  avoids : ∀ opening ∈ openings, avoids opening line.toList = true

namespace IsOther

variable {openings : List String}

/-- A literal is looked at as its characters. -/
theorem literal {line : String} {chars : List Char} (h : String.ofList chars = line)
    (ok : (chars.all (!breaksLiteral ·) && openings.all (Reading.avoids · chars)) = true) :
    IsOther openings line := by
  subst h
  obtain ⟨unbroken, avoids⟩ := Bool.and_eq_true_iff.1 ok
  constructor
  · rwa [isUnbroken, String.toList_ofList]
  · rw [String.toList_ofList]
    exact List.all_eq_true.1 avoids

/-- What follows the beginning does not matter. -/
theorem append {line more : String} (h : IsOther openings line) (unbroken : isUnbroken more = true) :
    IsOther openings (line ++ more) where
  unbroken := by rw [isUnbroken_append, h.unbroken, unbroken]; rfl
  avoids := fun opening ho => by
    rw [String.toList_append]
    exact avoids_append (h.avoids opening ho) more.toList

end IsOther

/-! ### Pairs of lines -/

/-- What is read off each two lines that follow each other. -/
def readPairs {α : Type} (read : Line → Line → Option α) : List Line → List α
  | first :: second :: rest => (read first second).toList ++ readPairs read (second :: rest)
  | _ => []

section

variable {α : Type} {read : Line → Line → Option α}

/-- A line that begins nothing is passed over. -/
theorem readPairs_cons_of_none {line : Line} (h : ∀ next, read line next = none)
    (rest : List Line) : readPairs read (line :: rest) = readPairs read rest := by
  cases rest with
  | nil => rfl
  | cons next rest => simp [readPairs, h]

/-- Lines that begin nothing are passed over. -/
theorem readPairs_append_of_none {lines : List Line} (h : ∀ line ∈ lines, ∀ next, read line next = none)
    (rest : List Line) : readPairs read (lines ++ rest) = readPairs read rest := by
  induction lines with
  | nil => rfl
  | cons line lines ih =>
      rw [List.cons_append, readPairs_cons_of_none (h line List.mem_cons_self),
        ih fun line' hl => h line' (List.mem_cons_of_mem line hl)]

theorem readPairs_map_append_of_none {lines : List String}
    (h : ∀ line ∈ lines, ∀ next, read line.toList next = none) (rest : List Line) :
    readPairs read (lines.map String.toList ++ rest) = readPairs read rest :=
  readPairs_append_of_none (by simpa using h) rest

theorem readPairs_map_of_none {lines : List String}
    (h : ∀ line ∈ lines, ∀ next, read line.toList next = none) :
    readPairs read (lines.map String.toList) = [] := by
  rw [← List.append_nil (lines.map String.toList), readPairs_map_append_of_none h]
  rfl

/-- A line that is read as one thing, whatever follows it. -/
theorem readPairs_cons_of_some {line : Line} {value : α} (h : ∀ next, read line next = some value)
    {rest : List Line} (more : rest ≠ []) :
    readPairs read (line :: rest) = value :: readPairs read rest := by
  cases rest with
  | nil => exact absurd rfl more
  | cons next rest => simp [readPairs, h]

/-- Blocks of lines, each of which is read as one thing by its first two lines, while its other lines
begin nothing. -/
theorem readPairs_flatMap_append {β : Type} {items : List β} {block : β → List String}
    {f : β → α}
    (h : ∀ item ∈ items, ∃ first second others, block item = first :: second :: others ∧
      read first.toList second.toList = some (f item) ∧
      ∀ line ∈ second :: others, ∀ next, read line.toList next = none)
    (rest : List Line) :
    readPairs read ((items.flatMap block).map String.toList ++ rest) =
      items.map f ++ readPairs read rest := by
  induction items with
  | nil => rfl
  | cons item items ih =>
      obtain ⟨first, second, others, hblock, here, passed⟩ := h item List.mem_cons_self
      have further := ih fun item' hi => h item' (List.mem_cons_of_mem item hi)
      rw [List.flatMap_cons, List.map_append, List.append_assoc, hblock, List.map_cons,
        List.map_cons, List.cons_append, List.cons_append, readPairs, here, ← List.cons_append,
        ← List.map_cons, readPairs_map_append_of_none passed, further]
      rfl

/-- Lines with the same code read alike, if only their code is read. -/
theorem readPairs_congr
    (only : ∀ {first first' second second'}, code first = code first' →
      code second = code second' → read first second = read first' second')
    {lines lines' : List Line} (same : lines.map code = lines'.map code) :
    readPairs read lines = readPairs read lines' := by
  induction lines generalizing lines' with
  | nil =>
      rw [List.map_eq_nil_iff.1 same.symm]
  | cons first rest ih =>
      cases lines' with
      | nil => cases same
      | cons first' rest' =>
          obtain ⟨here, further⟩ := List.cons.inj same
          have tail := ih further
          cases rest with
          | nil =>
              rw [List.map_eq_nil_iff.1 further.symm]
              rfl
          | cons second rest =>
              cases rest' with
              | nil => cases further
              | cons second' rest' =>
                  rw [readPairs, readPairs, only here (List.cons.inj further).1, tail]

end

end EnumCodec.Reading

namespace EnumCodec

/-- A layout none of whose parts holds the end of a line: the comment, if there is one, names a command
on one line, and so does each namespace that is opened. -/
structure Layout.IsUnbroken (language : Language) (layout : Layout) : Prop where
  comment : ∀ comment ∈ layout.comment, ∃ commandLine, Reading.isUnbroken commandLine = true ∧
    comment = generationComment language commandLine
  usings : ∀ name ∈ layout.usings, Reading.isUnbroken name = true

end EnumCodec
