import RecordQuery.Text.Digits
import RecordQuery.Yaml.Folding

/-!
# Quoted scalars of YAML

A quoted scalar is cut off at its closing quote, and what stands between the quotes is taken in
pieces.  Between double quotes an escape begins with a backslash; between single quotes only the
quote itself is escaped, by being written twice.  No line of a quoted scalar begins with a mark that
would end the document.
-/

namespace RecordQuery
namespace Yaml

/-- The text is at its end or before a space or a line break. -/
def isSpaceAhead : List Char → Bool
  | [] => true
  | c :: _ => isSpace c || isBreak c

/-- The text begins with the given mark and a space, or is the mark. -/
def beginsWithMark (mark : String) (text : List Char) : Bool :=
  mark.toList.isPrefixOf text && isSpaceAhead (text.drop 3)

/-- The text, from the start of a line, begins with a mark that ends a document. -/
def endsDocument (text : List Char) : Bool :=
  beginsWithMark "---" text || beginsWithMark "..." text

/-- The character that an escape of one letter stands for. -/
def escapedChar? : Char → Option Char
  | '0' => some '\x00'
  | 'a' => some '\x07'
  | 'b' => some '\x08'
  | 't' => some '\t'
  | '\t' => some '\t'
  | 'n' => some '\n'
  | 'v' => some '\x0B'
  | 'f' => some '\x0C'
  | 'r' => some '\r'
  | 'e' => some '\x1B'
  | ' ' => some ' '
  | '"' => some '"'
  | '/' => some '/'
  | '\\' => some '\\'
  | 'N' => some '\u0085'
  | '_' => some '\u00A0'
  | 'L' => some '\u2028'
  | 'P' => some '\u2029'
  | _ => none

/-- The character with a hexadecimal code point. -/
def charOfHex? (digits : List Char) : Option Char := do
  let code ← Text.readNat? 16 digits
  if code.isValidChar then some (Char.ofNat code) else none

/-- The piece after a backslash: a line break that is taken back, or a character. -/
def escapedPiece? (c : Char) : Option Piece :=
  if isBreak c then some .joint else (escapedChar? c).map .fixed

/-- One more piece before others. -/
def withPiece? (piece : Option Piece) (pieces : Option (List Piece)) : Option (List Piece) := do
  return (← piece) :: (← pieces)

/-- The pieces of what stands between double quotes. -/
def doublePieces? : List Char → Option (List Piece)
  | [] => some []
  | '\\' :: 'x' :: a :: b :: rest =>
    withPiece? ((charOfHex? [a, b]).map .fixed) (doublePieces? rest)
  | '\\' :: 'u' :: a :: b :: c :: d :: rest =>
    withPiece? ((charOfHex? [a, b, c, d]).map .fixed) (doublePieces? rest)
  | '\\' :: 'U' :: a :: b :: c :: d :: e :: f :: g :: h :: rest =>
    withPiece? ((charOfHex? [a, b, c, d, e, f, g, h]).map .fixed) (doublePieces? rest)
  | '\\' :: c :: rest => withPiece? (escapedPiece? c) (doublePieces? rest)
  | c :: rest => withPiece? (some (Piece.ofChar c)) (doublePieces? rest)

/-- The pieces of what stands between single quotes. -/
def singlePieces : List Char → List Piece
  | [] => []
  | '\'' :: '\'' :: rest => .fixed '\'' :: singlePieces rest
  | c :: rest => Piece.ofChar c :: singlePieces rest

/-- What stands between double quotes, after the opening one, and the text after the closing one. -/
def cutDouble? : List Char → Option (List Char × List Char)
  | [] => none
  | '"' :: rest => some ([], rest)
  | '\\' :: c :: rest =>
    if isBreak c && endsDocument rest then none
    else (cutDouble? rest).map fun (inside, rest) => ('\\' :: c :: inside, rest)
  | c :: rest =>
    if isBreak c && endsDocument rest then none
    else (cutDouble? rest).map fun (inside, rest) => (c :: inside, rest)

/-- What stands between single quotes, after the opening one, and the text after the closing one. -/
def cutSingle? : List Char → Option (List Char × List Char)
  | [] => none
  | '\'' :: '\'' :: rest =>
    (cutSingle? rest).map fun (inside, rest) => ('\'' :: '\'' :: inside, rest)
  | '\'' :: rest => some ([], rest)
  | c :: rest =>
    if isBreak c && endsDocument rest then none
    else (cutSingle? rest).map fun (inside, rest) => (c :: inside, rest)

end Yaml
end RecordQuery
