import EnumCodec.Proofs.Text.DottedName
import EnumCodec.Proofs.Text.Spelling
import EnumCodec.Source.Reading

/-!
# EnumCodec.Proofs.Source.Scanning

**Reading tokens piece by piece.** A source text is cut into pieces at places where no token goes on.
What a piece reads as depends on the piece and on the place where it stands, that is, on the open
brackets and blocks; it does not depend on the number of the line, which is left out of sight here.
-/

namespace EnumCodec.Source

open Text (isPlain Spells isIdentifier isIdentifierPart isIdentifierStart)

/-! ### Steps -/

/-- So many steps of a reader, none of which starts at the end of the text. -/
def run : Nat → ReadState → List Char → Option (List Token × ReadState × List Char)
  | 0, state, text => some ([], state, text)
  | steps + 1, state, text =>
    if text.isEmpty then none
    else do
      let (tokens, state, rest) ← readStep state text
      let (others, state, rest) ← run steps state rest
      return (tokens ++ others, state, rest)

theorem run_add {steps steps' : Nat} {state state' state'' : ReadState}
    {text text' text'' : List Char} {tokens tokens' : List Token}
    (h : run steps state text = some (tokens, state', text'))
    (h' : run steps' state' text' = some (tokens', state'', text'')) :
    run (steps + steps') state text = some (tokens ++ tokens', state'', text'') := by
  induction steps generalizing state text tokens with
  | zero =>
      obtain ⟨rfl, rfl, rfl⟩ : [] = tokens ∧ state = state' ∧ text = text' := by
        simpa [run] using h
      rwa [Nat.zero_add]
  | succ steps ih =>
      rw [Nat.add_right_comm]
      unfold run at h ⊢
      split at h
      · cases h
      · rename_i more
        rw [if_neg more]
        obtain ⟨⟨first, state₁, text₁⟩, hstep, h⟩ := Option.bind_eq_some_iff.1 h
        obtain ⟨⟨others, state₂, text₂⟩, hothers, h⟩ := Option.bind_eq_some_iff.1 h
        obtain ⟨rfl, rfl, rfl⟩ : first ++ others = tokens ∧ state₂ = state' ∧ text₂ = text' := by
          simpa using h
        rw [hstep]
        simp [ih hothers]

/-- Reading goes on where the steps end. -/
theorem readFrom_of_run {steps : Nat} {state state' : ReadState} {text text' : List Char}
    {tokens : List Token} (h : run steps state text = some (tokens, state', text')) (fuel : Nat) :
    readFrom (fuel + steps) state text = (readFrom fuel state' text').map (tokens ++ ·) := by
  induction steps generalizing state text tokens with
  | zero =>
      obtain ⟨rfl, rfl, rfl⟩ : [] = tokens ∧ state = state' ∧ text = text' := by
        simpa [run] using h
      simp
  | succ steps ih =>
      unfold run at h
      rw [← Nat.add_assoc, readFrom]
      split at h
      · cases h
      · rename_i more
        rw [if_neg more]
        obtain ⟨⟨first, state₁, text₁⟩, hstep, h⟩ := Option.bind_eq_some_iff.1 h
        obtain ⟨⟨others, state₂, text₂⟩, hothers, h⟩ := Option.bind_eq_some_iff.1 h
        obtain ⟨rfl, rfl, rfl⟩ : first ++ others = tokens ∧ state₂ = state' ∧ text₂ = text' := by
          simpa using h
        rw [hstep]
        simp only [Option.bind_eq_bind, Option.bind_some, ih hothers]
        cases readFrom fuel state₂ text₂ <;> simp

/-! ### Places -/

/-- Where a reader stands: all that it knows but for the number of the line. -/
structure Place where
  atLineStart : Bool
  /-- The open brackets, the innermost first. -/
  nest : List Symbol
  /-- The open blocks, the innermost first. -/
  blocks : List Columns

/-- The state of a reader at a place. -/
def Place.onLine (place : Place) (line : Nat) : ReadState :=
  ⟨line, place.atLineStart, place.nest, place.blocks⟩

/-- The steps that a text can take. A character takes one step, and so does the start of a line. -/
def Place.allowance (place : Place) (text : List Char) : Nat :=
  2 * text.length + place.atLineStart.toNat

/-- From one place to another a reader gets over a text with a rest to the rest, and what it passes is
tokens of the given kinds. -/
def Reads (place : Place) (text : List Char) (kinds : List TokenKind) (place' : Place)
    (rest : List Char) : Prop :=
  ∃ steps, steps + place'.allowance rest ≤ place.allowance text ∧
    ∀ line, ∃ line' tokens, tokens.map Token.kind = kinds ∧
      run steps (place.onLine line) text = some (tokens, place'.onLine line', rest)

namespace Reads

variable {place place' place'' : Place} {text text' text'' rest : List Char}
  {kinds kinds' : List TokenKind}

theorem refl : Reads place text [] place text :=
  ⟨0, by omega, fun line => ⟨line, [], rfl, rfl⟩⟩

theorem trans (h : Reads place text kinds place' text')
    (h' : Reads place' text' kinds' place'' text'') :
    Reads place text (kinds ++ kinds') place'' text'' := by
  obtain ⟨steps, bound, h⟩ := h
  obtain ⟨steps', bound', h'⟩ := h'
  refine ⟨steps + steps', by omega, fun line => ?_⟩
  obtain ⟨line', tokens, hkinds, hrun⟩ := h line
  obtain ⟨line'', tokens', hkinds', hrun'⟩ := h' line'
  exact ⟨line'', tokens ++ tokens', by rw [List.map_append, hkinds, hkinds'], run_add hrun hrun'⟩

/-- One step. -/
theorem of_readStep (more : text ≠ [])
    (bound : place'.allowance rest < place.allowance text)
    (h : ∀ line, ∃ line', readStep (place.onLine line) text =
      some (kinds.map (⟨·, line⟩), place'.onLine line', rest)) :
    Reads place text kinds place' rest := by
  refine ⟨1, by omega, fun line => ?_⟩
  obtain ⟨line', hstep⟩ := h line
  exact ⟨line', kinds.map (⟨·, line⟩), by simp [Function.comp_def], by simp [run, more, hstep]⟩

/-- One step that takes characters within a line and gives a token. -/
theorem token {kind : TokenKind} (shorter : rest.length < text.length)
    (h : ∀ line, ∃ line', readStep (place.onLine line) text =
      some ([⟨kind, line⟩], place'.onLine line', rest)) :
    Reads place text [kind] place' rest := by
  refine of_readStep ?_ ?_ h
  · rintro rfl
    cases shorter
  · have := Bool.toNat_le place'.atLineStart
    unfold Place.allowance
    omega

/-- A fixed piece of a line is read as its characters are. -/
theorem fixed {piece : String} {chars : List Char} (h : String.ofList chars = piece) (steps : Nat)
    (bound : steps + place'.allowance text' ≤ place.allowance (chars ++ rest)) (lines : Nat)
    (hrun : ∀ line, run steps (place.onLine line) (chars ++ rest) =
      some (kinds.map (⟨·, line⟩), place'.onLine (line + lines), text')) :
    Reads place (piece.toList ++ rest) kinds place' text' := by
  subst h
  rw [String.toList_ofList]
  exact ⟨steps, bound, fun line => ⟨line + lines, _, by simp [Function.comp_def], hrun line⟩⟩

end Reads

/-- The tokens of a text that is read to its end. -/
theorem tokens?_of_reads {text : List Char} {kinds : List TokenKind} {blocks : List Columns}
    (ended : text.getLast? = some '\n')
    (h : Reads ⟨true, [], []⟩ text kinds ⟨true, [], blocks⟩ []) :
    ∃ tokens, tokens? text = some tokens ∧
      tokens.map Token.kind =
        kinds ++ List.replicate blocks.length .dedent ++ [.endOfSource] := by
  obtain ⟨steps, bound, h⟩ := h
  obtain ⟨line, tokens, rfl, hrun⟩ := h 1
  obtain ⟨fuel, hfuel⟩ : ∃ fuel, 2 * text.length + 2 = fuel + 1 + steps :=
    ⟨2 * text.length + 1 - steps, by simp [Place.allowance] at bound; omega⟩
  refine ⟨tokens ++ (List.replicate blocks.length ⟨.dedent, line⟩ ++ [⟨.endOfSource, line⟩]), ?_, ?_⟩
  · rw [tokens?, endLastLine, if_pos ended, hfuel]
    have := readFrom_of_run hrun (fuel + 1)
    rw [show ({} : ReadState) = Place.onLine ⟨true, [], []⟩ 1 from rfl, this]
    rfl
  · simp

end EnumCodec.Source
