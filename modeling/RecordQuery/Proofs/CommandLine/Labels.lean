import Mathlib.Data.List.Basic
import RecordQuery.Proofs.CommandLine.Listed
import RecordQuery.Proofs.Files.Collect
import RecordQuery.Proofs.Record.Outcome
import RecordQuery.Proofs.Text.Digits

/-!
# Labels of records

The records of a file have its label, with the number of the record behind it if the file holds a
sequence.  Files below one directory have different labels, since a label is the names that lead to
the file.  A file may have a number sign and a number in its name, but its label ends in the letter
of an extension and a numbered label ends in a digit.  So no two records of a run have the same label.
-/

namespace RecordQuery
namespace CommandLine

/-- The labels that the records of a file with the given label have. -/
inductive IsLabelIn (label : String) : String → Prop where
  /-- The file holds one record. -/
  | whole : IsLabelIn label label
  /-- The file holds a sequence. -/
  | numbered (number : Nat) : IsLabelIn label (label ++ "#" ++ toString number)

theorem toList_numbered (label : String) (number : Nat) :
    (label ++ "#" ++ toString number).toList = label.toList ++ '#' :: (toString number).toList := by
  rw [String.toList_append, String.toList_append, List.append_assoc]
  rfl

/-- A numbered label is cut at its last number sign, whatever is in the label of the file. -/
theorem numbered_inj {label other : String} {m n : Nat}
    (same : label ++ "#" ++ toString m = other ++ "#" ++ toString n) : label = other ∧ m = n := by
  have texts := congrArg String.toList same
  rw [toList_numbered, toList_numbered] at texts
  obtain ⟨labels, numbers⟩ := Text.append_toString_inj (by decide) texts
  exact ⟨String.toList_inj.mp labels, numbers⟩

/-- A numbered label ends in a digit, and the label of a record file in a letter. -/
theorem not_endsAsRecord_numbered (label : String) (number : Nat) :
    ¬ Files.EndsAsRecord (label ++ "#" ++ toString number) := by
  intro ends
  have apart {c : Char} (noDigit : c.isDigit = false) (noMark : c ≠ '#') :
      (label ++ "#" ++ toString number).toList.getLast? ≠ some c := by
    intro last
    rw [toList_numbered, List.getLast?_append_cons] at last
    rcases List.mem_cons.mp (List.mem_of_getLast? last) with mark | member
    · exact noMark mark
    · rw [Text.isDigit_of_mem_toString member] at noDigit
      cases noDigit
  rcases getLast?_of_endsAsRecord ends with last | last
  · exact apart (by decide) (by decide) last
  · exact apart (by decide) (by decide) last

/-- A label of a record says which file it is in, if the labels of the files end in the extensions of
record files. -/
theorem IsLabelIn.inj {label other text : String} (ends : Files.EndsAsRecord label)
    (ends' : Files.EndsAsRecord other) (first : IsLabelIn label text)
    (second : IsLabelIn other text) : label = other := by
  cases first with
  | whole =>
      cases second with
      | whole => rfl
      | numbered n => exact absurd ends (not_endsAsRecord_numbered other n)
  | numbered m =>
      generalize same : label ++ "#" ++ toString m = text at second
      cases second with
      | whole => exact absurd (same ▸ ends') (not_endsAsRecord_numbered label m)
      | numbered n => exact (numbered_inj same).1

/-! ## The records of a file -/

section File

variable {tree : Files.Tree} {schema : Schema} {root path : String}

end File

/-! ## The labels of files -/

section Walk

variable {tree : Files.Tree} {root : String}

end Walk

end CommandLine
end RecordQuery
