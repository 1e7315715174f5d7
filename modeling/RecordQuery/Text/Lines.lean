/-!
# Lines

A text is cut into lines at its line feeds; a carriage return before a line feed belongs to the line
break.  What follows the last line feed is a line if it is not empty.
-/

namespace RecordQuery
namespace Text

/-- The lines of a text. -/
def lines : List Char → List (List Char)
  | [] => []
  | '\n' :: rest => [] :: lines rest
  | '\r' :: '\n' :: rest => [] :: lines rest
  | c :: rest =>
    match lines rest with
    | [] => [[c]]
    | line :: later => (c :: line) :: later

end Text
end RecordQuery
