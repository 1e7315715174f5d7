import RecordQuery.Text.Blank

/-!
# Quoted strings of the query language

A string literal stands between double quotes; inside, a quote and a backslash are each written
after a backslash and every other character stands for itself.  `quote` writes a literal and
`readQuoted` reads one after its opening quote, reporting where the literal stops being one.
-/

namespace RecordQuery
namespace Text

/-- The characters that are written after a backslash inside a literal. -/
def isEscaped (c : Char) : Bool := c == '"' || c == '\\'

/-- The inside of a literal: quotes and backslashes after a backslash, all else as it is. -/
def escape : List Char → List Char
  | [] => []
  | c :: text => if isEscaped c then '\\' :: c :: escape text else c :: escape text

/-- A string literal, quotes included. -/
def quote (text : List Char) : List Char := '"' :: (escape text ++ ['"'])

/-- Why a text after an opening quote is no literal. -/
inductive QuoteFault where
  /-- A backslash stands before something else than a quote or a backslash. -/
  | invalidEscape (unread : List Char)
  /-- The text ends before the closing quote. -/
  | unterminated
  deriving DecidableEq, Repr

/-- Reads a literal after its opening quote: what it stands for and the text after the closing
quote.  A faulty escape is reported with the text directly after its backslash. -/
def readQuoted : List Char → Except QuoteFault (List Char × List Char)
  | [] => .error .unterminated
  | '"' :: rest => .ok ([], rest)
  | '\\' :: '"' :: rest => (readQuoted rest).map fun result => ('"' :: result.1, result.2)
  | '\\' :: '\\' :: rest => (readQuoted rest).map fun result => ('\\' :: result.1, result.2)
  | '\\' :: rest => .error (.invalidEscape rest)
  | c :: rest => (readQuoted rest).map fun result => (c :: result.1, result.2)

end Text
end RecordQuery
