import EnumCodec.Proofs.Converter.Lines
import EnumCodec.Proofs.Source.Lines

/-!
# EnumCodec.Proofs.Text.LineEnds

**Lines, whatever ends them.** A line feed ends a line everywhere, and a printed character of ASCII does so
nowhere; about the other characters languages differ. A text is cut at each end, so that it is its own
only line exactly if no line ends inside it.
-/

namespace EnumCodec

/-- Is the character in ASCII and printed? -/
def isPrinted (c : Char) : Bool :=
  32 ≤ c.toNat && c.toNat < 127

/-- What ends a line: a line feed does, and no character that is printed on the line. -/
structure LineEnds where
  ends : Char → Bool
  newline : ends '\n' = true
  printed : ∀ c, isPrinted c = true → ends c = false

/-! ### Texts of lines -/

theorem textOfLines_append (lines lines' : List String) :
    textOfLines (lines ++ lines') = textOfLines lines ++ textOfLines lines' := by
  rw [← String.toList_inj, String.toList_append, Source.toList_textOfLines_append]

theorem textOfLines_cons (line : String) (lines : List String) :
    textOfLines (line :: lines) = line ++ "\n" ++ textOfLines lines := by
  simp [← String.toList_inj, Source.toList_textOfLines_cons]

namespace LineEnds

variable {ends : LineEnds}

/-- All that ends a line in some language. -/
def known : LineEnds where
  ends := Reading.endsLine
  newline := rfl
  printed c printed := by
    simp only [isPrinted, Bool.and_eq_true, decide_eq_true_eq] at printed
    simp only [Reading.endsLine, Bool.or_eq_false_iff, Bool.and_eq_false_iff, decide_eq_false_iff_not,
      beq_eq_false_iff_ne]
    omega

/-! ### Texts on one line -/

/-- No line ends inside the text. -/
def IsOneLine (ends : LineEnds) (text : String) : Prop :=
  ∀ c ∈ text.toList, ends.ends c = false

/-- A literal is looked at as its characters. -/
theorem isOneLine_literal {text : String} {chars : List Char} (same : String.ofList chars = text)
    (printed : chars.all isPrinted = true) : ends.IsOneLine text := by
  subst same
  rw [IsOneLine, String.toList_ofList]
  exact fun c mem => ends.printed c (List.all_eq_true.1 printed c mem)

theorem isOneLine_append {text text' : String} :
    ends.IsOneLine (text ++ text') ↔ ends.IsOneLine text ∧ ends.IsOneLine text' := by
  simp only [IsOneLine, String.toList_append, List.forall_mem_append]

/-- Words with blanks between them are on one line if each of them is. -/
theorem isOneLine_intercalate {words : List String} :
    ends.IsOneLine (" ".intercalate words) ↔ ∀ word ∈ words, ends.IsOneLine word := by
  have blank : ends.IsOneLine " " := isOneLine_literal rfl (by decide)
  induction words with
  | nil => simp [IsOneLine]
  | cons word rest ih =>
    cases rest with
    | nil => simp
    | cons second rest =>
      have whole : " ".intercalate (word :: second :: rest) =
          word ++ " " ++ " ".intercalate (second :: rest) := by
        simp
      rw [whole, isOneLine_append, isOneLine_append, List.forall_mem_cons, and_iff_left blank]
      exact and_congr_right' ih

/-! ### The lines of a text -/

/-- The lines of a text; behind the last end there is one more. -/
def linesOf (ends : LineEnds) (text : String) : List (List Char) :=
  text.toList.splitOnP ends.ends

/-- A line feed ends the line before it. -/
theorem linesOf_append_newline (line rest : String) :
    ends.linesOf (line ++ "\n" ++ rest) = ends.linesOf line ++ ends.linesOf rest := by
  simp only [linesOf, String.toList_append, List.append_assoc]
  exact List.splitOnP_append_cons _ _ ends.newline

/-- A text is its own only line exactly if no line ends inside it. -/
theorem linesOf_eq_singleton_iff {text : String} :
    ends.linesOf text = [text.toList] ↔ ends.IsOneLine text := by
  refine ⟨fun single c mem => ?_, List.splitOnP_eq_singleton⟩
  by_contra other
  rw [Bool.not_eq_false] at other
  obtain ⟨front, back, cut⟩ := List.append_of_mem mem
  -- The text is cut at the character, into at least two lines.
  have pieces := congrArg List.length single
  rw [linesOf, cut, List.splitOnP_append_cons front back other, List.length_append] at pieces
  have first := List.length_pos_iff.2 (List.splitOnP_ne_nil ends.ends front)
  have second := List.length_pos_iff.2 (List.splitOnP_ne_nil ends.ends back)
  simp only [List.length_singleton] at pieces
  omega

/-- A text before a line feed is a line exactly if no line ends inside it. -/
theorem linesOf_eq_cons_iff {line rest : String} :
    ends.linesOf (line ++ "\n" ++ rest) = line.toList :: ends.linesOf rest ↔
      ends.IsOneLine line := by
  rw [linesOf_append_newline, ← List.singleton_append, List.append_cancel_right_eq,
    linesOf_eq_singleton_iff]

/-- Lines before a text are lines of the whole. -/
theorem linesOf_textOfLines_append {lines : List String} (each : ∀ line ∈ lines, ends.IsOneLine line)
    (rest : String) :
    ends.linesOf (textOfLines lines ++ rest) = lines.map String.toList ++ ends.linesOf rest := by
  induction lines with
  | nil => simp [textOfLines]
  | cons line lines ih =>
    obtain ⟨first, others⟩ := List.forall_mem_cons.1 each
    rw [textOfLines_cons, String.append_assoc, linesOf_eq_cons_iff.2 first, ih others]
    rfl

end LineEnds

end EnumCodec
