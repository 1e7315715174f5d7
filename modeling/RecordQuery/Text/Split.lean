/-!
# Splitting a text at a separator

`split` gives the parts of a text between the occurrences of one character, at least one, and
`joinWith` puts the character between parts again.  A text is the join of its parts, and parts
without the character are those of their join.
-/

namespace RecordQuery
namespace Text

/-- The parts of a text between the separators. -/
def split (separator : Char) : List Char → List (List Char)
  | [] => [[]]
  | c :: text =>
    if c = separator then [] :: split separator text
    else
      match split separator text with
      | [] => [[c]]
      | part :: parts => (c :: part) :: parts

/-- The parts with the separator between them. -/
def joinWith (separator : Char) : List (List Char) → List Char
  | [] => []
  | [part] => part
  | part :: parts => part ++ separator :: joinWith separator parts

theorem split_ne_nil (separator : Char) (text : List Char) : split separator text ≠ [] := by
  cases text with
  | nil => simp [split]
  | cons c text =>
    simp only [split]
    split
    · simp
    · split <;> simp

theorem joinWith_cons (separator : Char) (part : List Char) {parts : List (List Char)}
    (some : parts ≠ []) :
    joinWith separator (part :: parts) = part ++ separator :: joinWith separator parts := by
  cases parts with
  | nil => exact absurd rfl some
  | cons => rfl

theorem joinWith_append_singleton (separator : Char) {parts : List (List Char)} (some : parts ≠ [])
    (part : List Char) :
    joinWith separator (parts ++ [part]) = joinWith separator parts ++ separator :: part := by
  induction parts with
  | nil => exact absurd rfl some
  | cons first parts ih =>
    cases parts with
    | nil => rfl
    | cons next parts =>
      rw [List.cons_append, joinWith_cons separator first (by simp), ih (by simp),
        joinWith_cons separator first (by simp), List.append_assoc, List.cons_append]

theorem joinWith_eq_nil_iff (separator : Char) {parts : List (List Char)} :
    joinWith separator parts = [] ↔ parts = [] ∨ parts = [[]] := by
  cases parts with
  | nil => simp [joinWith]
  | cons part parts => cases parts <;> simp [joinWith]

theorem joinWith_split (separator : Char) (text : List Char) :
    joinWith separator (split separator text) = text := by
  induction text with
  | nil => rfl
  | cons c text ih =>
    have some := split_ne_nil separator text
    by_cases same : c = separator
    · simp [split, same, joinWith_cons _ _ some, ih]
    · obtain ⟨part, parts, parted⟩ := List.exists_cons_of_ne_nil some
      rw [parted] at ih
      cases parts with
      | nil => simpa [split, same, parted, joinWith] using ih
      | cons next parts => simpa [split, same, parted, joinWith] using ih

theorem split_part (separator : Char) {part : List Char} (free : separator ∉ part) :
    split separator part = [part] := by
  induction part with
  | nil => rfl
  | cons c part ih =>
    simp only [List.mem_cons, not_or] at free
    simp [split, Ne.symm free.1, ih free.2]

/-- A text that is cut at one separator has the parts of both pieces. -/
theorem split_append_cons (separator : Char) (text rest : List Char) :
    split separator (text ++ separator :: rest) = split separator text ++ split separator rest := by
  induction text with
  | nil => simp [split]
  | cons c text ih =>
    by_cases same : c = separator
    · simp [split, same, ih]
    · obtain ⟨part, parts, parted⟩ := List.exists_cons_of_ne_nil (split_ne_nil separator text)
      simp [split, same, ih, parted]

end Text
end RecordQuery
