/-!
# Folding the lines of a scalar

A scalar that goes over several lines is read as one text.  Spaces around a line break are dropped;
a single line break becomes a space, and of several, all but the first are kept.  Spaces that no
line break touches are kept as well, and so are characters that an escape stands for.
-/

namespace RecordQuery
namespace Yaml

/-- A space or a tab. -/
def isSpace (c : Char) : Bool := c == ' ' || c == '\t'

/-- The end of a line: a line feed, to which other line breaks are normalized, or one of the two
separators of lines and paragraphs, which are kept in folding. -/
def isBreak (c : Char) : Bool := c == '\n' || c == '\u2028' || c == '\u2029'

/-- A piece of a scalar as it is written. -/
inductive Piece where
  /-- A character that stands for itself wherever it is. -/
  | fixed (c : Char)
  /-- A space or a tab, which does not count next to a line break. -/
  | space (c : Char)
  | lineBreak (c : Char)
  /-- A line break that an escape takes back. -/
  | joint
  deriving DecidableEq, Repr

/-- The piece that a character is where nothing escapes it. -/
def Piece.ofChar (c : Char) : Piece :=
  if isBreak c then .lineBreak c else if isSpace c then .space c else .fixed c

/-- What has been read since the last fixed character. -/
inductive Gap where
  /-- Spaces on one line. -/
  | within (spaces : List Char)
  /-- Line breaks: the first one, unless it was taken back, and the later ones. -/
  | across (first : Option Char) (later : List Char)
  deriving DecidableEq, Repr

/-- What a gap leaves in the folded text. -/
def Gap.text : Gap → List Char
  | .within spaces => spaces
  | .across (some '\n') [] => [' ']
  | .across (some '\n') later => later
  | .across first later => first.toList ++ later

/-- The text of the pieces of a scalar, after a gap. -/
def fold : Gap → List Piece → List Char
  | gap, [] => gap.text
  | gap, .fixed c :: pieces => gap.text ++ c :: fold (.within []) pieces
  | gap, .joint :: pieces => gap.text ++ fold (.across none []) pieces
  | .within spaces, .space c :: pieces => fold (.within (spaces ++ [c])) pieces
  | .across first later, .space _ :: pieces => fold (.across first later) pieces
  | .within _, .lineBreak c :: pieces => fold (.across (some c) []) pieces
  | .across first later, .lineBreak c :: pieces => fold (.across first (later ++ [c])) pieces

/-- The text of the pieces of a scalar. -/
def foldPieces (pieces : List Piece) : String := String.ofList (fold (.within []) pieces)

end Yaml
end RecordQuery
