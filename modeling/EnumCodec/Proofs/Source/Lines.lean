import EnumCodec.Converter.Layout
import EnumCodec.Proofs.Source.Words

/-!
# EnumCodec.Proofs.Source.Lines

**Reading line by line.** The blanks before the code of a line tell which blocks begin and end there;
the code is read alike in every block. So each line is looked at once, from its first character that is
not blank, and the blocks come in where lines are put together.
-/

namespace EnumCodec.Source

open Text (isPlain PlainText Spells dotPieces)

variable {nest nest' nest'' : List Symbol} {blocks blocks' : List Columns}
  {kinds kinds' lead : List TokenKind}

/-! ### Lines spelled out -/

theorem toList_literal {text : String} {chars : List Char} (h : String.ofList chars = text) :
    text.toList = chars := by
  subst h
  exact String.toList_ofList

theorem toList_append {text text' : String} {chars chars' : List Char} (h : text.toList = chars)
    (h' : text'.toList = chars') : (text ++ text').toList = chars ++ chars' := by
  rw [String.toList_append, h, h']

theorem toList_braced {text : String} {chars : List Char} (h : text.toList = chars) :
    (braced text).toList = '\x7b' :: chars ++ ['\x7d'] := by
  rw [braced, String.toList_append, String.toList_append, h]
  rfl

theorem toList_textOfLines_cons (line : String) (lines : List String) :
    (textOfLines (line :: lines)).toList = line.toList ++ '\n' :: (textOfLines lines).toList := by
  simp only [textOfLines, String.toList_join, List.map_cons, List.flatMap_cons,
    String.toList_append, List.append_assoc]
  rfl

theorem toList_textOfLines_append (lines lines' : List String) :
    (textOfLines (lines ++ lines')).toList =
      (textOfLines lines).toList ++ (textOfLines lines').toList := by
  simp only [textOfLines, String.toList_join, List.map_append, List.flatMap_append]

theorem mem_toList_textOfLines {lines : List String} {c : Char}
    (h : c ∈ (textOfLines lines).toList) : c = '\n' ∨ ∃ line ∈ lines, c ∈ line.toList := by
  induction lines with
  | nil => cases h
  | cons line lines ih =>
      rw [toList_textOfLines_cons] at h
      rcases List.mem_append.1 h with h | h
      · exact Or.inr ⟨line, List.mem_cons_self, h⟩
      · rcases List.mem_cons.1 h with rfl | h
        · exact Or.inl rfl
        · refine (ih h).imp_right fun ⟨other, hl, hc⟩ => ⟨other, List.mem_cons_of_mem _ hl, hc⟩

theorem getLast?_toList_textOfLines {lines : List String} (h : lines ≠ []) :
    (textOfLines lines).toList.getLast? = some '\n' := by
  rw [← List.dropLast_concat_getLast h, toList_textOfLines_append, toList_textOfLines_cons]
  simp [textOfLines]

theorem length_le_toList_textOfLines (lines : List String) :
    lines.length ≤ (textOfLines lines).toList.length := by
  induction lines with
  | nil => exact Nat.zero_le _
  | cons line lines ih =>
      rw [toList_textOfLines_cons, List.length_append, List.length_cons, List.length_cons]
      omega

/-- Without carriage returns there are no other line ends. -/
theorem unifyNewlines_eq {text : List Char} (h : '\r' ∉ text) : Text.unifyNewlines text = text := by
  induction text with
  | nil => rfl
  | cons c text ih =>
      have other : c ≠ '\r' := fun hc => h (hc ▸ List.mem_cons_self)
      rw [Text.unifyNewlines, ih fun hr => h (List.mem_cons_of_mem c hr)]
      · exact fun _ hc _ => other hc
      · exact other

/-! ### The end of a line -/

/-- The end of a line behind some open brackets: with its line feed it is read as tokens of the given
kinds, and these brackets are open behind it. -/
def Finishes (nest : List Symbol) (text : List Char) (kinds : List TokenKind)
    (nest' : List Symbol) : Prop :=
  ∀ blocks rest, Reads ⟨false, nest, blocks⟩ (text ++ '\n' :: rest) kinds ⟨true, nest', blocks⟩ rest

namespace Finishes

variable {text : List Char}

/-- A fixed end. -/
theorem fixed {stop : String} {chars : List Char} (h : String.ofList chars = stop) (steps : Nat)
    (few : steps ≤ 2 * chars.length + 1)
    (hrun : ∀ blocks rest line, run steps (Place.onLine ⟨false, nest, blocks⟩ line)
      (chars ++ '\n' :: rest) =
        some (kinds.map (⟨·, line⟩), Place.onLine ⟨true, nest', blocks⟩ (line + 1), rest)) :
    Finishes nest stop.toList kinds nest' := by
  intro blocks rest
  refine Reads.fixed h steps ?_ 1 (hrun blocks rest)
  simp only [Place.allowance, List.length_append, List.length_cons, Bool.toNat_true,
    Bool.toNat_false]
  omega

/-- Nothing but the line feed. -/
theorem newline : Finishes [] [] [.newline] [] :=
  fixed (rfl : String.ofList [] = "") 1 (by decide) fun _ _ _ => rfl

theorem blank (h : Finishes nest text kinds nest') (some_ : kinds ≠ []) :
    Finishes nest (' ' :: text) kinds nest' :=
  fun blocks rest => (h blocks rest).afterBlank some_

/-- A fixed piece, the last characters of which are read with what follows. -/
theorem behind {g chars : List Char} (kinds : List TokenKind) (steps : Nat)
    (few : steps + 2 * g.length ≤ 2 * chars.length)
    (hrun : ∀ blocks rest line, run steps (Place.onLine ⟨false, nest, blocks⟩ line)
      (chars ++ rest) =
        some (kinds.map (⟨·, line⟩), Place.onLine ⟨false, nest', blocks⟩ line, g ++ rest))
    (tail : Finishes nest' (g ++ text) kinds' nest'') :
    Finishes nest (chars ++ text) (kinds ++ kinds') nest'' := by
  intro blocks rest
  have front : Reads ⟨false, nest, blocks⟩ (chars ++ (text ++ '\n' :: rest)) kinds
      ⟨false, nest', blocks⟩ (g ++ (text ++ '\n' :: rest)) := by
    rw [← String.toList_ofList (l := chars)]
    refine .fixed rfl steps ?_ 0 (hrun blocks _)
    simp only [Place.allowance, List.length_append, Bool.toNat_false]
    omega
  have back := tail blocks rest
  rw [List.append_assoc] at back
  rw [List.append_assoc]
  exact front.trans back

/-- The line feed ends whatever stands before it. -/
theorem head_endsName (ends : ∀ c ∈ text.head?, endsName c = true) (rest : List Char) :
    ∀ c ∈ (text ++ '\n' :: rest).head?, endsName c = true := by
  cases text with
  | nil => rintro c ⟨⟩; decide
  | cons => exact ends

theorem blanks (count : Nat) (h : Finishes nest text kinds nest') (some_ : kinds ≠ []) :
    Finishes nest (List.replicate count ' ' ++ text) kinds nest' := by
  induction count with
  | zero => exact h
  | succ count ih => exact ih.blank some_

theorem name {word : String} (named : IsName word) (h : Finishes nest text kinds nest')
    (ends : ∀ c ∈ text.head?, endsName c = true) :
    Finishes nest (word.toList ++ text) (nameKind word :: kinds) nest' := by
  intro blocks rest
  rw [List.append_assoc]
  exact (Reads.name named (head_endsName ends rest)).trans (h blocks rest)

theorem reference {name : String} (named : IsReference name) (h : Finishes nest text kinds nest')
    (ends : ∀ c ∈ text.head?, endsName c = true) :
    Finishes nest (name.toList ++ text) (referenceKinds (dotPieces name) ++ kinds) nest' := by
  intro blocks rest
  rw [List.append_assoc]
  exact (Reads.reference named (head_endsName ends rest)).trans (h blocks rest)

theorem literal {body chars : List Char} (spells : Spells body chars)
    (h : Finishes nest text kinds nest') (ends : text.head? ≠ some '"') :
    Finishes nest ('"' :: (body ++ '"' :: text))
      (.string (.text (String.ofList chars)) :: kinds) nest' := by
  intro blocks rest
  have ends' : (text ++ '\n' :: rest).head? ≠ some '"' := by
    cases text with
    | nil => simp
    | cons => exact ends
  rw [List.cons_append, List.append_assoc]
  exact (Reads.literal spells ends').trans (h blocks rest)

theorem description {body : List Char} (plain : ∀ c ∈ body, isPlain c = true)
    (h : Finishes nest text kinds nest') :
    Finishes nest ('"' :: '"' :: '"' :: (body ++ '"' :: '"' :: '"' :: text))
      (.string (.text (String.ofList body)) :: kinds) nest' := by
  intro blocks rest
  simp only [List.cons_append, List.append_assoc]
  exact (Reads.description plain).trans (h blocks rest)

end Finishes

/-! ### A line -/

/-- May the code of a line begin with the character? -/
def beginsCode (c : Char) : Bool :=
  !isLineBlank c && c != '\\' && c != '\n' && c != '#'

/-- Behind so many blanks a line has code, which is read as tokens of the given kinds. -/
def LineReads (indent : Nat) (nest : List Symbol) (line : String) (kinds : List TokenKind)
    (nest' : List Symbol) : Prop :=
  ∃ c code, line.toList = List.replicate indent ' ' ++ c :: code ∧ beginsCode c = true ∧
    Finishes nest (c :: code) kinds nest'

namespace LineReads

variable {indent : Nat} {c : Char} {code : List Char}

/-- A fixed line. -/
theorem fixed {line : String} {chars : List Char} (h : line.toList = chars)
    (begins : chars.take indent = List.replicate indent ' ' ∧
      (chars.drop indent).head?.any beginsCode = true)
    (steps : Nat) (few : steps ≤ 2 * (chars.drop indent).length + 1)
    (hrun : ∀ blocks rest line, run steps (Place.onLine ⟨false, nest, blocks⟩ line)
      (chars.drop indent ++ '\n' :: rest) =
        some (kinds.map (⟨·, line⟩), Place.onLine ⟨true, nest', blocks⟩ (line + 1), rest)) :
    LineReads indent nest line kinds nest' := by
  have whole : line.toList = List.replicate indent ' ' ++ chars.drop indent := by
    rw [h, ← begins.1, List.take_append_drop]
  have end_ : Finishes nest (chars.drop indent) kinds nest' := by
    rw [← String.toList_ofList (l := chars.drop indent)]
    exact .fixed rfl steps few hrun
  cases split : chars.drop indent with
  | nil =>
      have none := begins.2
      rw [split] at none
      cases none
  | cons c code =>
      rw [split] at whole end_
      exact ⟨c, code, whole, by simpa [split] using begins.2, end_⟩

/-- A line with a fixed beginning, the last characters of which are read with what follows. -/
theorem behind {start more : String} {g : List Char}
    (h : String.ofList (List.replicate indent ' ' ++ c :: code) = start)
    (begins : beginsCode c = true) (kinds : List TokenKind) (steps : Nat)
    (few : steps + 2 * g.length ≤ 2 * (c :: code).length)
    (hrun : ∀ blocks rest line, run steps (Place.onLine ⟨false, nest, blocks⟩ line)
      (c :: code ++ rest) =
        some (kinds.map (⟨·, line⟩), Place.onLine ⟨false, nest', blocks⟩ line, g ++ rest))
    (tail : Finishes nest' (g ++ more.toList) kinds' nest'') :
    LineReads indent nest (start ++ more) (kinds ++ kinds') nest'' := by
  refine ⟨c, code ++ more.toList, ?_, begins, ?_⟩
  · rw [String.toList_append, toList_literal h, List.append_assoc, List.cons_append]
  · rw [← List.cons_append]
    exact .behind kinds steps few hrun tail

/-- A line with a dotted name between two fixed pieces. -/
theorem reference {start stop name : String} {chars : List Char} {last : List TokenKind}
    (h : String.ofList (List.replicate indent ' ' ++ c :: code) = start)
    (begins : beginsCode c = true) (kinds : List TokenKind)
    (inside : List Symbol) (steps : Nat)
    (few : steps + 2 ≤ 2 * (c :: code).length)
    (hrun : ∀ blocks rest line, run steps (Place.onLine ⟨false, nest, blocks⟩ line)
      (c :: code ++ rest) =
        some (kinds.map (⟨·, line⟩), Place.onLine ⟨false, inside, blocks⟩ line, ' ' :: rest))
    (named : IsReference name) (h' : String.ofList chars = stop)
    (ends : chars.head?.all endsName = true) (steps' : Nat)
    (few' : steps' ≤ 2 * chars.length + 1)
    (hrun' : ∀ blocks rest line, run steps' (Place.onLine ⟨false, inside, blocks⟩ line)
      (chars ++ '\n' :: rest) =
        some (last.map (⟨·, line⟩), Place.onLine ⟨true, nest'', blocks⟩ (line + 1), rest)) :
    LineReads indent nest (start ++ name ++ stop) (kinds ++ (referenceKinds (dotPieces name) ++ last))
      nest'' := by
  have end_ : Finishes inside stop.toList last nest'' := .fixed h' steps' few' hrun'
  have slot : Finishes inside (' ' :: (name ++ stop).toList)
      (referenceKinds (dotPieces name) ++ last) nest'' := by
    rw [String.toList_append]
    refine (end_.reference named ?_).blank (by simp [referenceKinds_dotPieces_ne_nil])
    rw [toList_literal h']
    exact (Option.all_eq_true _ _).1 ends
  rw [String.append_assoc]
  exact .behind (g := [' ']) h begins kinds steps few hrun slot

/-- A line with a literal between two fixed pieces, the quotes of which are parts of these. -/
theorem literal {start stop body : String} {chars : List Char} {last : List TokenKind}
    (h : String.ofList (List.replicate indent ' ' ++ c :: code) = start)
    (begins : beginsCode c = true) (kinds : List TokenKind)
    (inside : List Symbol) (gap steps : Nat)
    (few : steps + 2 * (gap + 1) ≤ 2 * (c :: code).length)
    (hrun : ∀ blocks rest line, run steps (Place.onLine ⟨false, nest, blocks⟩ line)
      (c :: code ++ rest) =
        some (kinds.map (⟨·, line⟩), Place.onLine ⟨false, inside, blocks⟩ line,
          List.replicate gap ' ' ++ '"' :: rest))
    (spells : IsLiteral body) (h' : String.ofList ('"' :: chars) = stop)
    (unquoted : chars.head? ≠ some '"') (steps' : Nat) (few' : steps' ≤ 2 * chars.length + 1)
    (hrun' : ∀ blocks rest line, run steps' (Place.onLine ⟨false, inside, blocks⟩ line)
      (chars ++ '\n' :: rest) =
        some (last.map (⟨·, line⟩), Place.onLine ⟨true, nest'', blocks⟩ (line + 1), rest)) :
    LineReads indent nest (start ++ body ++ stop)
      (kinds ++ (.string (.text (literalText body)) :: last)) nest'' := by
  obtain ⟨spelled, spells⟩ := spells
  have end_ : Finishes inside chars last nest'' := by
    rw [← String.toList_ofList (l := chars)]
    exact .fixed rfl steps' few' hrun'
  have slot : Finishes inside (List.replicate gap ' ' ++ '"' :: (body.toList ++ '"' :: chars))
      (.string (.text (literalText body)) :: last) nest'' := by
    rw [literalText_eq spells]
    exact (end_.literal spells unquoted).blanks gap (by simp)
  have tail : Finishes inside (List.replicate gap ' ' ++ ['"'] ++ (body ++ stop).toList)
      (.string (.text (literalText body)) :: last) nest'' := by
    rw [String.toList_append, toList_literal h', List.append_assoc]
    exact slot
  rw [String.append_assoc]
  refine .behind h begins kinds steps ?_ ?_ tail
  · simpa using few
  · simpa using hrun

/-- A text in triple quotes between two fixed pieces of it. -/
theorem description {start stop slot : String} (before after : List Char)
    (h : String.ofList (List.replicate indent ' ' ++ '"' :: '"' :: '"' :: before) = start)
    (h' : String.ofList (after ++ ['"', '"', '"']) = stop) (plain : PlainText slot)
    (plain' : (before ++ after).all isPlain = true) :
    LineReads indent [] (start ++ slot ++ stop)
      [.string (.text (String.ofList before ++ slot ++ String.ofList after)), .newline] [] := by
  have body : ∀ c ∈ before ++ (slot.toList ++ after), isPlain c = true := by
    rw [List.all_append, Bool.and_eq_true, List.all_eq_true, List.all_eq_true] at plain'
    intro c hc
    rcases List.mem_append.1 hc with hc | hc
    · exact plain'.1 c hc
    · rcases List.mem_append.1 hc with hc | hc
      · exact plain c hc
      · exact plain'.2 c hc
  have text : String.ofList before ++ slot ++ String.ofList after =
      String.ofList (before ++ (slot.toList ++ after)) := by
    rw [← String.toList_inj]
    simp
  refine ⟨'"', '"' :: '"' :: (before ++ (slot.toList ++ after) ++ ['"', '"', '"']), ?_, rfl, ?_⟩
  · rw [String.toList_append, String.toList_append, toList_literal h, toList_literal h']
    simp
  · rw [text]
    exact .description body .newline

end LineReads

/-! ### Lines -/

/-- From one place to another a reader gets over lines, which are tokens of the given kinds. -/
def LinesRead (place : Place) (lines : List String) (kinds : List TokenKind)
    (place' : Place) : Prop :=
  ∀ rest, Reads place ((textOfLines lines).toList ++ rest) kinds place' rest

/-- The blanks at the start of a line are measured as they are. -/
theorem measure_blanks (indent : Nat) (columns : Columns) {c : Char} (unblank : isLineBlank c = false)
    (backslash : c ≠ '\\') (more : List Char) :
    measure columns 0 0 (List.replicate indent ' ' ++ c :: more) =
      some (⟨columns.wide + indent, columns.narrow + indent⟩, 0, c :: more) := by
  induction indent generalizing columns with
  | zero =>
      simp only [isLineBlank, Bool.or_eq_false_iff, beq_eq_false_iff_ne] at unblank
      obtain ⟨⟨space, tab⟩, feed⟩ := unblank
      simp [measure, space, tab, feed, backslash]
  | succ indent ih =>
      rw [List.replicate_succ, List.cons_append, measure, ih]
      simp [Nat.add_comm, Nat.add_left_comm]

namespace LinesRead

variable {place place' place'' : Place} {lines lines' : List String} {line : String} {indent : Nat}

theorem nil : LinesRead place [] [] place :=
  fun _ => .refl

theorem append (h : LinesRead place lines kinds place') (h' : LinesRead place' lines' kinds' place'') :
    LinesRead place (lines ++ lines') (kinds ++ kinds') place'' := by
  intro rest
  rw [toList_textOfLines_append, List.append_assoc]
  exact (h _).trans (h' rest)

theorem cons (h : LinesRead place [line] kinds place')
    (h' : LinesRead place' lines kinds' place'') :
    LinesRead place (line :: lines) (kinds ++ kinds') place'' :=
  h.append h'

/-- An empty line gives no tokens. -/
theorem blank : LinesRead ⟨true, [], blocks⟩ [""] [] ⟨true, [], blocks⟩ := by
  intro rest
  refine .of_readStep (by simp [textOfLines]) ?_ fun line => ⟨line + 1, ?_⟩
  · rw [toList_textOfLines_cons]
    simp only [Place.allowance, List.length_append, List.length_cons, Bool.toNat_true]
    omega
  · rfl

theorem afterBlank (h : LinesRead ⟨true, [], blocks⟩ lines kinds place') :
    LinesRead ⟨true, [], blocks⟩ ("" :: lines) kinds place' :=
  blank.cons h

/-- A comment gives no tokens. -/
theorem comment {text : List Char} (h : line.toList = List.replicate indent ' ' ++ '#' :: text)
    (unbroken : '\n' ∉ text) : LinesRead ⟨true, [], blocks⟩ [line] [] ⟨true, [], blocks⟩ := by
  intro rest
  have whole : (textOfLines [line]).toList ++ rest =
      List.replicate indent ' ' ++ '#' :: (text ++ '\n' :: rest) := by
    rw [toList_textOfLines_cons, h]
    simp [textOfLines]
  have rest' : ('#' :: (text ++ '\n' :: rest)).dropWhile (· != '\n') = '\n' :: rest := by
    rw [← List.cons_append, List.dropWhile_append_of_pos]
    · simp
    · intro c mem
      rcases List.mem_cons.1 mem with rfl | mem
      · decide
      · exact bne_iff_ne.2 fun newline => unbroken (newline ▸ mem)
  rw [whole]
  refine .of_readStep (by simp) ?_ fun line => ⟨line + 1, ?_⟩
  · simp only [Place.allowance, List.length_append, List.length_cons, Bool.toNat_true]
    omega
  · simp [readStep, Place.onLine, measure_blanks indent {} (c := '#') rfl (by decide), rest']

/-- The code of a line opens a block or closes some, or it does neither. -/
theorem code (h : LineReads indent [] line kinds nest')
    (hblocks : blockTokens ⟨indent, indent⟩ blocks = some (lead, blocks')) :
    LinesRead ⟨true, [], blocks⟩ [line] (lead ++ kinds) ⟨true, nest', blocks'⟩ := by
  intro rest
  obtain ⟨c, code, hline, begins, reads⟩ := h
  have text : (textOfLines [line]).toList ++ rest =
      List.replicate indent ' ' ++ c :: (code ++ '\n' :: rest) := by
    rw [toList_textOfLines_cons, hline]
    simp [textOfLines]
  obtain ⟨⟨⟨unblank, backslash⟩, newline⟩, comment⟩ := by
    simpa only [beginsCode, Bool.and_eq_true, Bool.not_eq_true', bne_iff_ne] using begins
  have start : Reads ⟨true, [], blocks⟩ (List.replicate indent ' ' ++ c :: (code ++ '\n' :: rest))
      lead ⟨false, [], blocks'⟩ (c :: (code ++ '\n' :: rest)) := by
    refine .of_readStep (by simp) ?_ fun line => ⟨line, ?_⟩
    · simp only [Place.allowance, List.length_append, Bool.toNat_false, Bool.toNat_true]
      omega
    · simp [readStep, Place.onLine, measure_blanks indent {} unblank backslash, newline, comment, hblocks]
  rw [text]
  exact start.trans (reads blocks' rest)

theorem top (h : LineReads 0 [] line kinds nest') :
    LinesRead ⟨true, [], []⟩ [line] kinds ⟨true, nest', []⟩ := by
  have same : blockTokens ⟨0, 0⟩ [] = some ([], []) := rfl
  exact code h same

theorem within (h : LineReads indent [] line kinds nest') :
    LinesRead ⟨true, [], ⟨indent, indent⟩ :: blocks⟩ [line] kinds
      ⟨true, nest', ⟨indent, indent⟩ :: blocks⟩ := by
  have same : blockTokens ⟨indent, indent⟩ (⟨indent, indent⟩ :: blocks) =
      some ([], ⟨indent, indent⟩ :: blocks) := by
    simp [blockTokens]
  exact code h same

/-- Within brackets the blanks before code do not count. -/
theorem inner {bracket : Symbol} (h : LineReads indent (bracket :: nest) line kinds nest') :
    LinesRead ⟨true, bracket :: nest, blocks⟩ [line] kinds ⟨true, nest', blocks⟩ := by
  intro rest
  obtain ⟨c, code, hline, begins, reads⟩ := h
  have text : (textOfLines [line]).toList ++ rest =
      List.replicate indent ' ' ++ c :: (code ++ '\n' :: rest) := by
    rw [toList_textOfLines_cons, hline]
    simp [textOfLines]
  obtain ⟨⟨⟨unblank, backslash⟩, newline⟩, comment⟩ := by
    simpa only [beginsCode, Bool.and_eq_true, Bool.not_eq_true', bne_iff_ne] using begins
  have start : Reads ⟨true, bracket :: nest, blocks⟩
      (List.replicate indent ' ' ++ c :: (code ++ '\n' :: rest)) []
      ⟨false, bracket :: nest, blocks⟩ (c :: (code ++ '\n' :: rest)) := by
    refine .of_readStep (by simp) ?_ fun line => ⟨line, ?_⟩
    · simp only [Place.allowance, List.length_append, Bool.toNat_false, Bool.toNat_true]
      omega
    · simp [readStep, Place.onLine, measure_blanks indent {} unblank backslash, newline, comment]
  rw [text]
  exact start.trans (reads blocks rest)

end LinesRead

end EnumCodec.Source
