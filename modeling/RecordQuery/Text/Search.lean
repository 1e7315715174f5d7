/-!
# Searching a text

Whether one text occurs in another: as a run of characters, starting anywhere.
-/

namespace RecordQuery
namespace Text

/-- The needle occurs in the text. -/
def contains (needle : List Char) : List Char → Bool
  | [] => needle.isEmpty
  | c :: text => needle.isPrefixOf (c :: text) || contains needle text

theorem contains_iff {needle text : List Char} :
    contains needle text = true ↔ needle <:+: text := by
  induction text with
  | nil => simp [contains]
  | cons c text ih => simp [contains, ih, List.infix_cons_iff]

end Text
end RecordQuery
