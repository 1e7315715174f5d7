import RecordQuery.Text.Lines

/-!
# Written lines

Lines that are written with a line feed after each of them are read back, unless there is a line feed
in one of them or a carriage return at the end of one.
-/

namespace RecordQuery
namespace Text

/-- The text of lines, each with a line feed after it. -/
def ofLines (lines : List String) : String :=
  String.ofList (lines.flatMap fun line => line.toList ++ ['\n'])

theorem ofLines_eq_empty_iff {lines : List String} : ofLines lines = "" ↔ lines = [] := by
  cases lines with
  | nil => exact ⟨fun _ => rfl, fun _ => rfl⟩
  | cons line lines => simp [ofLines]

end Text
end RecordQuery
