/-!
# EnumCodec.Entries

**Entries in the order of their keys' first appearance.** A list of pairs with distinct keys, into which
an entry is put without moving those that are there.
-/

namespace EnumCodec.Entries

/-- Puts an entry into a list of entries. A key that is there keeps its place and gets the new
value; a new key goes to the end. -/
def put {κ α : Type} [DecidableEq κ] (entries : List (κ × α)) (key : κ) (value : α) : List (κ × α) :=
  match entries with
  | [] => [(key, value)]
  | (k, v) :: rest => if k = key then (k, value) :: rest else (k, v) :: put rest key value

/-- Looking a key up compares keys for equality. -/
theorem lookup_cons_eq {κ α : Type} [BEq κ] [LawfulBEq κ] [DecidableEq κ] (k key : κ) (v : α)
    (rest : List (κ × α)) :
    ((k, v) :: rest).lookup key = if key = k then some v else rest.lookup key := by
  by_cases h : key = k
  · simp [h]
  · simp [List.lookup_cons, h, beq_eq_false_iff_ne.2 h]

/-- Nothing is found under a key that no entry has. -/
theorem lookup_eq_none_iff {κ α : Type} [BEq κ] [LawfulBEq κ] (entries : List (κ × α)) (key : κ) :
    entries.lookup key = none ↔ key ∉ entries.map (·.1) := by
  rw [List.lookup_eq_none_iff]
  simp only [List.mem_map, not_exists, not_and, bne_iff_ne]
  exact forall₂_congr fun item _ => ne_comm

@[simp] theorem lookup_put {κ α : Type} [DecidableEq κ] (entries : List (κ × α)) (key key' : κ)
    (value : α) :
    (put entries key value).lookup key' =
      if key' = key then some value else entries.lookup key' := by
  induction entries with
  | nil => simp [put, lookup_cons_eq]
  | cons entry rest ih =>
    obtain ⟨k, v⟩ := entry
    unfold put
    split
    · rename_i hk
      subst hk
      by_cases h : key' = k <;> simp [lookup_cons_eq, h]
    · rename_i hk
      by_cases h : key' = k
      · subst h
        simp [hk]
      · simp [lookup_cons_eq, h, ih]

end EnumCodec.Entries
