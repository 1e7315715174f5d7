/-!
# Patterns of bytes

A pattern says which byte strings match, all from their first byte to their last.  It is built from
classes of bytes, taken once or any number of times, by sequence and choice.  `Pattern.ends` follows
all matches at once, so that the work is the length of the bytes times the size of the pattern.
-/

namespace RecordQuery
namespace Files

/-- A set of bytes. -/
structure ByteClass where
  /-- The set is what the ranges leave out. -/
  negated : Bool
  /-- Closed ranges of bytes. -/
  ranges : List (UInt8 × UInt8)
  deriving DecidableEq, Repr

/-- The byte is in the set. -/
def ByteClass.contains (set : ByteClass) (byte : UInt8) : Bool :=
  set.negated != set.ranges.any fun range => range.1 ≤ byte && byte ≤ range.2

/-- The set of one byte. -/
def ByteClass.single (byte : UInt8) : ByteClass := ⟨false, [(byte, byte)]⟩

/-- A pattern of bytes. -/
inductive Pattern where
  /-- Matches the empty string only. -/
  | empty
  | one (set : ByteClass)
  | many (set : ByteClass)
  | sequence (first second : Pattern)
  | choice (left right : Pattern)
  deriving Repr

namespace Pattern

/-- The ends of the one byte of a set behind marked places. -/
def oneFrom (set : ByteClass) : List UInt8 → List Bool → List Bool
  | byte :: bytes, mark :: marks => (mark && set.contains byte) :: oneFrom set bytes marks
  | _, _ => []

/-- The ends of any number of bytes of a set behind marked places; `reached` says that such bytes
lead up to the first place. -/
def manyFrom (set : ByteClass) (reached : Bool) : List UInt8 → List Bool → List Bool
  | byte :: bytes, mark :: marks =>
    (mark || reached) :: manyFrom set ((mark || reached) && set.contains byte) bytes marks
  | _, marks => marks.map (· || reached)

/-- The places where a match of the pattern ends that begins at a marked place.  There is a mark for
the place before each byte and one for the place after the last, so that a byte string is gone over
once for each part of the pattern. -/
def ends (bytes : List UInt8) : Pattern → List Bool → List Bool
  | .empty, marks => marks
  | .one set, marks => false :: oneFrom set bytes marks
  | .many set, marks => manyFrom set false bytes marks
  | .sequence first second, marks => second.ends bytes (first.ends bytes marks)
  | .choice left right, marks => List.zipWith or (left.ends bytes marks) (right.ends bytes marks)

theorem length_oneFrom (set : ByteClass) {bytes : List UInt8} {marks : List Bool}
    (all : marks.length = bytes.length + 1) :
    (oneFrom set bytes marks).length = bytes.length := by
  induction bytes generalizing marks with
  | nil => simp [oneFrom]
  | cons byte bytes induction =>
      cases marks with
      | nil => simp at all
      | cons mark marks => simpa [oneFrom] using induction (by simpa using all)

theorem length_manyFrom (set : ByteClass) (reached : Bool) {bytes : List UInt8}
    {marks : List Bool} (all : marks.length = bytes.length + 1) :
    (manyFrom set reached bytes marks).length = bytes.length + 1 := by
  induction bytes generalizing reached marks with
  | nil => simpa [manyFrom] using all
  | cons byte bytes induction =>
      cases marks with
      | nil => simp at all
      | cons mark marks =>
          have rest : marks.length = bytes.length + 1 := by simpa using all
          simpa [manyFrom] using induction ((mark || reached) && set.contains byte) rest

/-- A pattern marks each place of the bytes again. -/
theorem length_ends (bytes : List UInt8) (pattern : Pattern) {marks : List Bool}
    (all : marks.length = bytes.length + 1) :
    (pattern.ends bytes marks).length = bytes.length + 1 := by
  induction pattern generalizing marks with
  | empty => simpa [ends] using all
  | one set => simp [ends, length_oneFrom set all]
  | many set => simpa [ends] using length_manyFrom set false all
  | sequence first second first_length second_length =>
      simpa [ends] using second_length (first_length all)
  | choice left right left_length right_length =>
      simp [ends, left_length all, right_length all]

/-- The pattern matches the bytes. -/
def accepts (pattern : Pattern) (bytes : List UInt8) : Bool :=
  (pattern.ends bytes (true :: bytes.map fun _ => false)).getLast? == some true

/-- The pattern matches the UTF-8 bytes of a text. -/
def acceptsText (pattern : Pattern) (text : String) : Bool :=
  pattern.accepts (text.toList.flatMap String.utf8EncodeChar)

/-- The patterns one after the other. -/
def sequenceAll (patterns : List Pattern) : Pattern := patterns.foldr .sequence .empty

/-- One of the patterns; any match of the empty string if there are none. -/
def choiceAll : List Pattern → Pattern
  | [] => .empty
  | [pattern] => pattern
  | pattern :: patterns => .choice pattern (choiceAll patterns)

/-- The bytes as they are. -/
def ofBytes (bytes : List UInt8) : Pattern :=
  sequenceAll (bytes.map fun byte => .one (.single byte))

end Pattern
end Files
end RecordQuery
