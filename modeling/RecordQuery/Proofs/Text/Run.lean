import Mathlib.Data.List.TakeWhile

/-!
# Runs of a class of characters

A run of characters of one class, followed by something that is not of the class, is what
`List.takeWhile` takes and `List.dropWhile` drops.
-/

namespace RecordQuery
namespace Text

/-- No character of the class comes next. -/
def Ends (member : Char → Bool) (rest : List Char) : Prop :=
  ∀ c, rest.head? = some c → member c = false

theorem ends_nil (member : Char → Bool) : Ends member [] := by
  intro c head
  simp at head

theorem ends_cons {member : Char → Bool} {c : Char} {rest : List Char} :
    Ends member (c :: rest) ↔ member c = false := by
  simp [Ends]

theorem ends_dropWhile (member : Char → Bool) (text : List Char) :
    Ends member (text.dropWhile member) := by
  intro c head
  have stopped := List.head?_dropWhile_not member text
  rw [head] at stopped
  simpa using stopped

theorem takeWhile_append_of_ends {member : Char → Bool} {run rest : List Char}
    (inside : ∀ c ∈ run, member c = true) (ends : Ends member rest) :
    (run ++ rest).takeWhile member = run := by
  rw [List.takeWhile_append_of_pos inside]
  cases rest with
  | nil => simp
  | cons c rest => simp [ends_cons.mp ends]

theorem dropWhile_append_of_ends {member : Char → Bool} {run rest : List Char}
    (inside : ∀ c ∈ run, member c = true) (ends : Ends member rest) :
    (run ++ rest).dropWhile member = rest := by
  rw [List.dropWhile_append_of_pos inside]
  cases rest with
  | nil => rfl
  | cons c rest => simp [ends_cons.mp ends]

end Text
end RecordQuery
