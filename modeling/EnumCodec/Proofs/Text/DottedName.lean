import EnumCodec.Proofs.Text.Plain
import Mathlib.Data.List.Basic

/-!
# EnumCodec.Proofs.Text.DottedName

**Dotted names are plain.** No character of an identifier needs an escape, so a dotted name stands
between quotes as it is, and so does every piece of it.
-/

namespace EnumCodec.Text

/-- Identifiers with dots between them. -/
def IsDottedName (text : String) : Prop :=
  (splitDots text.toList).all isIdentifier = true

instance (text : String) : Decidable (IsDottedName text) :=
  inferInstanceAs (Decidable (_ = _))

/-- A dotted name, or nothing at all. -/
def IsOptionalName (text : String) : Prop :=
  text = "" ∨ IsDottedName text

instance (text : String) : Decidable (IsOptionalName text) :=
  inferInstanceAs (Decidable (_ ∨ _))

/-! ### Pieces -/

/-- The characters of a text are dots and those of its pieces. -/
theorem mem_splitDots {text : List Char} {c : Char} (h : c ∈ text) :
    c = '.' ∨ ∃ piece ∈ splitDots text, c ∈ piece := by
  induction text with
  | nil => cases h
  | cons d rest ih =>
      unfold splitDots
      split
      · rename_i dot
        rcases List.mem_cons.1 h with rfl | h
        · exact Or.inl dot
        · refine (ih h).imp_right ?_
          rintro ⟨piece, hpiece, hc⟩
          exact ⟨piece, List.mem_cons_of_mem _ hpiece, hc⟩
      · split
        · rename_i none
          exact absurd none (splitDots_ne_nil rest)
        · rename_i piece pieces split
          rcases List.mem_cons.1 h with rfl | h
          · exact Or.inr ⟨c :: piece, List.mem_cons_self, List.mem_cons_self⟩
          · rcases ih h with dot | ⟨found, hfound, hc⟩
            · exact Or.inl dot
            · rw [split] at hfound
              rcases List.mem_cons.1 hfound with rfl | hfound
              · exact Or.inr ⟨d :: found, List.mem_cons_self, List.mem_cons_of_mem d hc⟩
              · exact Or.inr ⟨found, List.mem_cons_of_mem _ hfound, hc⟩

/-- The pieces of a text have no other characters. -/
theorem mem_of_mem_splitDots {text piece : List Char} {c : Char} (h : piece ∈ splitDots text)
    (hc : c ∈ piece) : c ∈ text := by
  induction text generalizing piece with
  | nil =>
      obtain rfl : piece = [] := by simpa [splitDots] using h
      cases hc
  | cons d rest ih =>
      unfold splitDots at h
      split at h
      · rcases List.mem_cons.1 h with rfl | h
        · cases hc
        · exact List.mem_cons_of_mem d (ih h hc)
      · split at h
        · obtain rfl : piece = [d] := by simpa using h
          rw [List.mem_singleton.1 hc]
          exact List.mem_cons_self
        · rename_i first pieces split
          rcases List.mem_cons.1 h with rfl | h
          · rcases List.mem_cons.1 hc with rfl | hc
            · exact List.mem_cons_self
            · exact List.mem_cons_of_mem d (ih (split ▸ List.mem_cons_self) hc)
          · exact List.mem_cons_of_mem d (ih (split ▸ List.mem_cons_of_mem first h) hc)

/-- A piece has no dot. -/
theorem not_dot_of_mem_splitDots {text piece : List Char} (h : piece ∈ splitDots text) :
    '.' ∉ piece := by
  induction text generalizing piece with
  | nil =>
      obtain rfl : piece = [] := by simpa [splitDots] using h
      exact List.not_mem_nil
  | cons d rest ih =>
      unfold splitDots at h
      split at h
      · rcases List.mem_cons.1 h with rfl | h
        · exact List.not_mem_nil
        · exact ih h
      · rename_i other
        have differs : '.' ≠ d := fun same => other same.symm
        split at h
        · obtain rfl : piece = [d] := by simpa using h
          simpa using differs
        · rename_i first pieces split
          rcases List.mem_cons.1 h with rfl | h
          · have none : '.' ∉ first := ih (split ▸ List.mem_cons_self)
            simp [differs, none]
          · exact ih (split ▸ List.mem_cons_of_mem first h)

/-- A text is its first piece and then, behind a dot each, the others. -/
theorem eq_of_splitDots_eq_cons {text piece : List Char} {pieces : List (List Char)}
    (h : splitDots text = piece :: pieces) : text = piece ++ pieces.flatMap ('.' :: ·) := by
  induction text generalizing piece pieces with
  | nil =>
      obtain ⟨rfl, rfl⟩ : [] = piece ∧ [] = pieces := by simpa [splitDots] using h
      rfl
  | cons c rest ih =>
      unfold splitDots at h
      split at h
      · rename_i dot
        obtain ⟨rfl, rfl⟩ := List.cons.inj h
        cases split : splitDots rest with
        | nil => exact absurd split (splitDots_ne_nil rest)
        | cons first others => rw [dot, ih split]; rfl
      · split at h
        · rename_i none
          exact absurd none (splitDots_ne_nil rest)
        · rename_i first others split
          obtain ⟨rfl, rfl⟩ := List.cons.inj h
          rw [ih split]
          rfl

theorem firstPiece_mem (text : String) : (firstPiece text).toList ∈ splitDots text.toList := by
  unfold firstPiece dotPieces
  cases split : splitDots text.toList with
  | nil => exact absurd split (splitDots_ne_nil _)
  | cons piece pieces => simp

/-! ### Plainness -/

theorem isPlain_of_isIdentifierPart {c : Char} (h : isIdentifierPart c = true) :
    isPlain c = true := by
  -- ASCII is decided by code points; beyond it only three characters break a literal
  by_cases ascii : c.toNat < 128
  · have beyond : ¬ 128 ≤ c.toNat := by omega
    simp only [isIdentifierPart, isAsciiIdentifierStart, beyond, decide_false, Bool.false_and,
      Bool.or_false, Bool.or_eq_true, Bool.and_eq_true, decide_eq_true_eq, beq_iff_eq,
      Char.le_def, UInt32.le_iff_toNat_le] at h
    rcases h with ((small | capital) | rfl) | digit
    · change 97 ≤ c.toNat ∧ c.toNat ≤ 122 at small
      rw [isPlain_iff_toNat]
      omega
    · change 65 ≤ c.toNat ∧ c.toNat ≤ 90 at capital
      rw [isPlain_iff_toNat]
      omega
    · decide
    · change 48 ≤ c.toNat ∧ c.toNat ≤ 57 at digit
      rw [isPlain_iff_toNat]
      omega
  · rw [isPlain_iff_toNat]
    have other : ∀ code : Nat, isIdentifierPart (Char.ofNat code) = false → c.toNat ≠ code := by
      rintro code hcode rfl
      rw [Char.ofNat_toNat, h] at hcode
      cases hcode
    have nextLine := other 0x85 (by decide +kernel)
    have line := other 0x2028 (by decide +kernel)
    have paragraph := other 0x2029 (by decide +kernel)
    omega

theorem isIdentifierPart_of_isIdentifierStart {c : Char} (h : isIdentifierStart c = true) :
    isIdentifierPart c = true := by
  rcases Bool.or_eq_true_iff.1 h with ascii | other
  · simp [isIdentifierPart, ascii]
  · obtain ⟨beyond, listed⟩ := Bool.and_eq_true_iff.1 other
    simp only [isIdentifierPart, beyond, listed, Bool.true_or, Bool.true_and, Bool.or_true]

/-- Every character of an identifier may stand inside one. -/
theorem isIdentifierPart_of_mem {text : List Char} (h : isIdentifier text = true) {c : Char}
    (hc : c ∈ text) : isIdentifierPart c = true := by
  cases text with
  | nil => cases hc
  | cons first rest =>
      obtain ⟨start, parts⟩ := Bool.and_eq_true_iff.1 h
      rcases List.mem_cons.1 hc with rfl | hc
      · exact isIdentifierPart_of_isIdentifierStart start
      · exact List.all_eq_true.1 parts c hc

/-- Names with dots between them hold dots and the characters of identifiers only. -/
theorem not_mem_of_isDottedName {text : String} (dotted : IsDottedName text) {c : Char}
    (other : c ≠ '.') (outside : isIdentifierPart c = false) : c ∉ text.toList := by
  intro mem
  obtain dot | ⟨piece, found, inside⟩ := mem_splitDots mem
  · exact other dot
  · have part := isIdentifierPart_of_mem (List.all_eq_true.1 dotted piece found) inside
    rw [outside] at part
    cases part

/-- **A dotted name stands between quotes as it is.** -/
theorem IsDottedName.plain {text : String} (h : IsDottedName text) : PlainText text := by
  intro c hc
  rcases mem_splitDots hc with rfl | ⟨piece, hpiece, hc⟩
  · decide
  · have identifier := List.all_eq_true.1 h piece hpiece
    exact isPlain_of_isIdentifierPart (isIdentifierPart_of_mem identifier hc)

theorem IsOptionalName.plain {text : String} (h : IsOptionalName text) : PlainText text := by
  rcases h with rfl | h
  · intro c hc
    cases hc
  · exact h.plain

theorem PlainText.append {text text' : String} (h : PlainText text) (h' : PlainText text') :
    PlainText (text ++ text') := by
  intro c hc
  rw [String.toList_append, List.mem_append] at hc
  exact hc.elim (h c) (h' c)

theorem PlainText.firstPiece {text : String} (h : PlainText text) :
    PlainText (firstPiece text) :=
  fun c hc => h c (mem_of_mem_splitDots (firstPiece_mem text) hc)

/-! ### Joining -/

theorem not_dot_of_isIdentifier {text : List Char} (h : isIdentifier text = true) :
    '.' ∉ text := by
  intro dot
  have part := isIdentifierPart_of_mem h dot
  revert part
  decide

/-- A text without dots is its only piece. -/
theorem splitDots_of_not_mem {text : List Char} (h : '.' ∉ text) : splitDots text = [text] := by
  induction text with
  | nil => rfl
  | cons c rest ih =>
      have other : c ≠ '.' := fun dot => h (dot ▸ List.mem_cons_self)
      have none : '.' ∉ rest := fun dot => h (List.mem_cons_of_mem c dot)
      rw [splitDots, if_neg other, ih none]

/-- A dot separates the pieces before it from those behind it. -/
theorem splitDots_append (text rest : List Char) :
    splitDots (text ++ '.' :: rest) = splitDots text ++ splitDots rest := by
  induction text with
  | nil => rfl
  | cons c text ih =>
      rw [List.cons_append, splitDots, splitDots, ih]
      split
      · rfl
      · cases split : splitDots text with
        | nil => exact absurd split (splitDots_ne_nil text)
        | cons piece pieces => rfl

theorem dotPieces_join (text text' : String) :
    dotPieces (text ++ "." ++ text') = dotPieces text ++ dotPieces text' := by
  rw [dotPieces, String.toList_append, String.toList_append, List.append_assoc,
    show ".".toList = ['.'] from rfl, List.singleton_append, splitDots_append, List.map_append]
  rfl

/-- The pieces of joined names are the pieces of each of them. -/
theorem dotPieces_joinDots {names : List String} (nonempty : names ≠ []) :
    dotPieces (joinDots names) = names.flatMap dotPieces := by
  induction names with
  | nil => exact absurd rfl nonempty
  | cons first rest ih =>
      cases rest with
      | nil => simp [joinDots]
      | cons second rest =>
          rw [joinDots, String.intercalate_cons_cons, dotPieces_join, List.flatMap_cons,
            ← ih (List.cons_ne_nil second rest), joinDots]

/-- Joining the pieces of a text gives it back. -/
theorem joinDots_dotPieces (text : String) : joinDots (dotPieces text) = text := by
  have join (piece : List Char) (pieces : List (List Char)) :
      (joinDots ((piece :: pieces).map String.ofList)).toList =
        piece ++ pieces.flatMap ('.' :: ·) := by
    induction pieces generalizing piece with
    | nil => simp [joinDots]
    | cons second rest ih =>
        rw [List.map_cons, List.map_cons, joinDots, String.intercalate_cons_cons, ← List.map_cons,
          String.toList_append, String.toList_append, String.toList_ofList, ← joinDots, ih second]
        simp
  cases split : splitDots text.toList with
  | nil => exact absurd split (splitDots_ne_nil text.toList)
  | cons piece pieces =>
      rw [← String.toList_inj, dotPieces, split, join]
      exact (eq_of_splitDots_eq_cons split).symm

theorem joinDots_append_singleton {names : List String} (nonempty : names ≠ []) (last : String) :
    joinDots (names ++ [last]) = joinDots names ++ "." ++ last := by
  induction names with
  | nil => exact absurd rfl nonempty
  | cons first rest ih =>
      cases rest with
      | nil => simp [joinDots, String.intercalate_cons_cons]
      | cons second rest =>
          have more := ih (List.cons_ne_nil second rest)
          simp only [joinDots, List.cons_append, String.intercalate_cons_cons] at more ⊢
          simp only [more, String.append_assoc]

/-- A last name without dots is cut off again. -/
theorem splitLastDot_joinDots (names : List String) {last : String} (undotted : '.' ∉ last.toList) :
    splitLastDot (joinDots (names ++ [last])) = (joinDots names, last) := by
  have single : dotPieces last = [last] := by simp [dotPieces, splitDots_of_not_mem undotted]
  rw [splitLastDot]
  by_cases none : names = []
  · simp [none, joinDots, single]
  · rw [joinDots_append_singleton none, dotPieces_join, single]
    simp [joinDots_dotPieces]

/-- Names that say something say something together. -/
theorem joinDots_eq_empty_iff {names : List String} (said : ∀ name ∈ names, name ≠ "") :
    joinDots names = "" ↔ names = [] := by
  constructor
  · intro empty
    cases names with
    | nil => rfl
    | cons first rest =>
        have pieces := dotPieces_joinDots (List.cons_ne_nil first rest)
        rw [empty, show dotPieces "" = [""] from rfl, List.flatMap_cons] at pieces
        have one : dotPieces first = [""] := by
          rcases List.append_eq_singleton_iff.1 pieces.symm with ⟨none, -⟩ | ⟨same, -⟩
          · exact absurd (List.map_eq_nil_iff.1 none) (splitDots_ne_nil first.toList)
          · exact same
        have back := joinDots_dotPieces first
        rw [one] at back
        exact absurd back.symm (said first List.mem_cons_self)
  · rintro rfl
    rfl

theorem isDottedName_of_isIdentifier {text : List Char} (h : isIdentifier text = true) :
    IsDottedName (String.ofList text) := by
  rw [IsDottedName, String.toList_ofList, splitDots_of_not_mem (not_dot_of_isIdentifier h)]
  simpa using h

theorem IsDottedName.join {text text' : String} (h : IsDottedName text) (h' : IsDottedName text') :
    IsDottedName (text ++ "." ++ text') := by
  unfold IsDottedName at *
  rw [String.toList_append, String.toList_append, List.append_assoc,
    show ".".toList = ['.'] from rfl, List.singleton_append, splitDots_append, List.all_append, h, h']
  rfl

/-- Names joined by dots make a name. -/
theorem isDottedName_joinDots {piece : String} {pieces : List String} (first : IsDottedName piece)
    (others : ∀ other ∈ pieces, IsDottedName other) : IsDottedName (joinDots (piece :: pieces)) := by
  induction pieces generalizing piece with
  | nil => rwa [joinDots, String.intercalate_singleton]
  | cons second pieces ih =>
      rw [joinDots, String.intercalate_cons_cons]
      exact first.join (ih (others second List.mem_cons_self)
        fun other ho => others other (List.mem_cons_of_mem second ho))

theorem isOptionalName_joinDots {pieces : List String} (h : ∀ piece ∈ pieces, IsDottedName piece) :
    IsOptionalName (joinDots pieces) := by
  cases pieces with
  | nil => exact Or.inl rfl
  | cons piece pieces =>
      exact Or.inr (isDottedName_joinDots (h piece List.mem_cons_self)
        fun other ho => h other (List.mem_cons_of_mem piece ho))

/-! ### Identifiers -/

/-- A name without dots is its only piece. -/
theorem dotPieces_of_isIdentifier {name : String} (named : isIdentifier name.toList = true) :
    dotPieces name = [name] := by
  simp [dotPieces, splitDots_of_not_mem (not_dot_of_isIdentifier named)]

theorem ne_empty_of_isIdentifier {name : String} (named : isIdentifier name.toList = true) :
    name ≠ "" := by
  rintro rfl
  cases named

theorem IsDottedName.ne_empty {name : String} (dotted : IsDottedName name) : name ≠ "" := by
  rintro rfl
  exact absurd dotted (by decide)

/-- Identifiers are the pieces of what they are joined to. -/
theorem dotPieces_joinDots_of_isIdentifier {names : List String} (nonempty : names ≠ [])
    (named : ∀ name ∈ names, isIdentifier name.toList = true) : dotPieces (joinDots names) = names := by
  have each : names.flatMap dotPieces = names.flatMap fun name => [name] :=
    List.flatMap_congr fun name mem => dotPieces_of_isIdentifier (named name mem)
  rw [dotPieces_joinDots nonempty, each]
  exact List.flatMap_singleton' names

end EnumCodec.Text
