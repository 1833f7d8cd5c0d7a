import EnumCodec.Text.Newline

/-!
# EnumCodec.Proofs.Text.FinalNewline

**Exactly one line feed at the end.** A text is a body and the line feeds behind it, in one way only. To
make it end with one line feed keeps the body, so that a text that ends so already stays as it is.
-/

namespace EnumCodec.Text

/-- A body behind which line feeds stand, of which none belongs to it. -/
def IsBody (body : List Char) : Prop :=
  body.getLast? ≠ some '\n'

instance : DecidablePred IsBody := fun _ => inferInstanceAs (Decidable (_ ≠ _))

/-- A text with exactly one line feed at its end. -/
def EndsOnce (text : String) : Prop :=
  ∃ body, IsBody body ∧ text.toList = body ++ ['\n']

/-- A text with any number of line feeds at its end, and the same text with exactly one. -/
def DiffersInEnd (text ended : String) : Prop :=
  ∃ body count, IsBody body ∧ text.toList = body ++ List.replicate count '\n' ∧
    ended.toList = body ++ ['\n']

theorem dropFinalNewlines_append {body : List Char} (isBody : IsBody body) (count : Nat) :
    dropFinalNewlines (body ++ List.replicate count '\n') = body := by
  have passed : ∀ c ∈ List.replicate count '\n', (c == '\n') = true := fun c mem => by
    rw [List.eq_of_mem_replicate mem]
    rfl
  have stop : body.reverse.dropWhile (· == '\n') = body.reverse := by
    cases first : body.reverse with
    | nil => rfl
    | cons c rest =>
      have other : c ≠ '\n' := by
        rintro rfl
        exact isBody (by rw [← List.head?_reverse, first]; rfl)
      rw [List.dropWhile_cons_of_neg (by simpa using other)]
  rw [dropFinalNewlines, List.reverse_append, List.reverse_replicate,
    List.dropWhile_append_of_pos passed, stop, List.reverse_reverse]

/-- Every text is a body with line feeds behind it. -/
theorem exists_body (text : List Char) :
    ∃ body count, IsBody body ∧ text = body ++ List.replicate count '\n' := by
  generalize reversed : text.reverse = chars
  obtain rfl : text = chars.reverse := by rw [← reversed, List.reverse_reverse]
  clear reversed
  induction chars with
  | nil => exact ⟨[], 0, by simp [IsBody], rfl⟩
  | cons c rest ih =>
    rw [List.reverse_cons]
    by_cases newline : c = '\n'
    · obtain ⟨body, count, isBody, eq⟩ := ih
      refine ⟨body, count + 1, isBody, ?_⟩
      rw [eq, newline, List.append_assoc, List.replicate_succ']
    · exact ⟨rest.reverse ++ [c], 0, by simpa [IsBody] using newline, by simp⟩

/-- **Ending a text with a line feed** keeps its body and leaves exactly one line feed. -/
theorem endWithNewline_eq_iff {text ended : String} :
    endWithNewline text = ended ↔ DiffersInEnd text ended := by
  obtain ⟨body, count, isBody, chars⟩ := exists_body text.toList
  have kept : (endWithNewline text).toList = body ++ ['\n'] := by
    rw [endWithNewline, String.toList_ofList, chars, dropFinalNewlines_append isBody]
  constructor
  · rintro rfl
    exact ⟨body, count, isBody, chars, kept⟩
  · rintro ⟨other, number, isBody', chars', ended'⟩
    have same : body = other := by
      rw [← dropFinalNewlines_append isBody count, ← chars, chars',
        dropFinalNewlines_append isBody' number]
    rw [← String.toList_inj, kept, ended', same]

theorem EndsOnce.endWithNewline_eq {text : String} (once : EndsOnce text) :
    endWithNewline text = text := by
  obtain ⟨body, isBody, chars⟩ := once
  exact endWithNewline_eq_iff.2 ⟨body, 1, isBody, chars, chars⟩

end EnumCodec.Text
