import RecordQuery.Yaml.Node
import RecordQuery.Yaml.Quoting

/-!
# Reading YAML

`Yaml.Node.read?` reads a text that holds one YAML document: block mappings and sequences, flow
mappings and sequences, plain and quoted scalars, local tags and comments.  A reader moves a cursor,
which knows its line and column, and gives nothing on a text that is no such document.  All readers
of nodes call each other with a smaller bound on the steps that remain; each character takes at most
four steps, so four times the length of the text bounds them all.

Block structure is told by columns.  The content of a block begins in a column behind that of the
block around it; a sequence that is the value of a mapping may begin in the column of its key.
-/

namespace RecordQuery
namespace Yaml

/-- A place in a text. -/
structure Cursor where
  /-- The number of line breaks before the place. -/
  line : Nat
  /-- The number of characters before the place on its line. -/
  column : Nat
  /-- The number of bytes before the place. -/
  offset : Nat
  /-- The text from the place on. -/
  rest : List Char

/-- What a reader finds, and where it ends. -/
abbrev Found (α : Type) := α × Cursor

namespace Cursor

/-- The place after a text that stands at the cursor. -/
def pass : Cursor → List Char → Cursor
  | cursor, [] => cursor
  | ⟨line, column, offset, rest⟩, c :: text =>
    if isBreak c then pass ⟨line + 1, 0, offset + c.utf8Size, rest.drop 1⟩ text
    else pass ⟨line, column + 1, offset + c.utf8Size, rest.drop 1⟩ text

theorem pass_append (cursor : Cursor) (left right : List Char) :
    cursor.pass (left ++ right) = (cursor.pass left).pass right := by
  induction left generalizing cursor with
  | nil => simp [pass]
  | cons c left induction =>
      simp only [List.cons_append, pass]
      split <;> exact induction _

/-- The place the given number of characters further on. -/
def drop (cursor : Cursor) (count : Nat) : Cursor := cursor.pass (cursor.rest.take count)

/-- A line break lies between two places. -/
def crossesLine (cursor later : Cursor) : Bool := cursor.line != later.line

/-- A key without a mark can reach from one place to another: on one line, and over no more than
1024 bytes. -/
def reachesAsKey (cursor later : Cursor) : Bool :=
  !cursor.crossesLine later && later.offset ≤ cursor.offset + 1024

end Cursor

/-- The mark of an item of a block sequence stands ahead. -/
def isItemAhead : List Char → Bool
  | '-' :: rest => isSpaceAhead rest
  | _ => false

/-- The mark of a written-out key stands ahead. -/
def isKeyMarkAhead : List Char → Bool
  | '?' :: rest => isSpaceAhead rest
  | _ => false

/-- The line ahead is the given mark, or begins with it and a space. -/
def isMarkAhead (mark : String) (cursor : Cursor) : Bool :=
  cursor.column == 0 && beginsWithMark mark cursor.rest

/-- The document ends here: at the end of the text or at a line that ends a document or begins
another. -/
def isEnd (cursor : Cursor) : Bool :=
  cursor.rest.isEmpty || (cursor.column == 0 && endsDocument cursor.rest)

/-- The next place with content, behind spaces, line breaks and comments.  A byte order mark at the
start of a line is skipped as a space is, and the content of its line begins a column further on.
In the indentation of a block a tab is refused; `ended` says that a line has ended on the way. -/
def separate (block ended comment : Bool) (line column offset : Nat) : List Char → Option Cursor
  | [] => some ⟨line, column, offset, []⟩
  | c :: rest =>
    let later := offset + c.utf8Size
    if isBreak c then separate block true false (line + 1) 0 later rest
    else if comment || c = ' ' || (column == 0 && c = '\uFEFF') then
      separate block ended comment line (column + 1) later rest
    else if c = '#' then separate block ended true line (column + 1) later rest
    else if c = '\t' then
      if block && ended then none else separate block ended comment line (column + 1) later rest
    else some ⟨line, column, offset, c :: rest⟩

/-- The next place with content.  `block` says that this is in a block, and `fresh` that nothing has
been read on the line, so that a tab here would be indentation. -/
def Cursor.next? (cursor : Cursor) (block fresh : Bool) : Option Cursor :=
  separate block fresh false cursor.line cursor.column cursor.offset cursor.rest

/-- The next place with content in a block, and whether it is on a later line. -/
def Cursor.nextInBlock? (cursor : Cursor) (fresh : Bool) : Option (Bool × Cursor) := do
  let next ← cursor.next? true fresh
  return (next.rest.isEmpty || cursor.crossesLine next, next)

/-- The next place with content inside a flow collection, in which no document ends. -/
def Cursor.nextInFlow? (cursor : Cursor) : Option Cursor := do
  let next ← cursor.next? false false
  if isEnd next then none else some next

/-- The next place with content, which has to be on a later line. -/
def Cursor.nextLine? (cursor : Cursor) : Option Cursor := do
  let (ended, next) ← cursor.nextInBlock? false
  if ended then some next else none

/-- A character that has a meaning of its own inside flow collections. -/
def isFlowMark (c : Char) : Bool :=
  c == ',' || c == '[' || c == ']' || c == '{' || c == '\x7d'

/-- A plain scalar can begin with this text. -/
def startsPlain (flow : Bool) : List Char → Bool
  | [] => false
  | c :: rest =>
    if c = '-' then !isSpaceAhead rest
    else if c = '?' ∨ c = ':' then !flow && !isSpaceAhead rest
    else !isFlowMark c && !isSpace c && !isBreak c && !"#&*!|>'\"%@\x60".toList.contains c

/-- The text begins with a colon that a plain scalar of a flow collection must not have: one
before a mark of its own. -/
def isColonMisplaced (flow : Bool) : List Char → Bool
  | ':' :: c :: _ => flow && (isFlowMark c || c == '?')
  | _ => false

/-- The part of a plain scalar on one line, and the text after it; `spaced` says that a space
stands before, so that a comment could begin. -/
def cutPlain (flow spaced : Bool) : List Char → List Char × List Char
  | [] => ([], [])
  | c :: rest =>
    let ends :=
      isBreak c || (c = ':' && isSpaceAhead rest) || (c = '#' && spaced) ||
        (flow && isFlowMark c) || isColonMisplaced flow (c :: rest)
    if ends then ([], c :: rest)
    else
      let (scalar, rest) := cutPlain flow (isSpace c) rest
      (c :: scalar, rest)

/-- A tab stands among the spaces and line breaks in front of the given column. -/
def hasEarlyTab (indent : Nat) : Nat → List Char → Bool
  | _, [] => false
  | column, c :: spaces =>
    if isBreak c then hasEarlyTab indent 0 spaces
    else (c == '\t' && column < indent) || hasEarlyTab indent (column + 1) spaces

/-- The pieces of a plain scalar and the place after it.  It goes on over the lines that are
indented behind the column `indent`, at most `fuel` of them.  Spaces after the scalar belong to it
up to the next content, so that tabs are allowed there behind that column. -/
def plainPieces? (flow : Bool) (indent : Nat) : Nat → Cursor → Option (List Piece × Cursor)
  | 0, _ => none
  | fuel + 1, cursor => do
    let (text, rest) := cutPlain flow false cursor.rest
    let gap := text.reverse.takeWhile isSpace
    let inside := text.take (text.length - gap.length)
    let spaces := rest.takeWhile fun c => isSpace c || isBreak c
    let lineEnd := cursor.pass text
    let next := lineEnd.pass spaces
    if isColonMisplaced flow rest || hasEarlyTab indent indent spaces then none
    else if !lineEnd.crossesLine next then
      return (inside.map Piece.ofChar, cursor.pass inside)
    else if (flow || indent ≤ next.column) && !isEnd next && next.rest.head? != some '#' &&
        !(cutPlain flow false next.rest).1.isEmpty then
      let (later, after) ← plainPieces? flow indent fuel next
      return ((inside ++ spaces).map Piece.ofChar ++ later, after)
    else if next.rest.isEmpty || next.rest.head? == some '#' then
      return (inside.map Piece.ofChar, next)
    else
      let lines := spaces.length - next.column
      return (inside.map Piece.ofChar, lineEnd.pass (spaces.take (lines - 1)))

/-- A plain scalar of at most `fuel` lines. -/
def readPlain? (flow : Bool) (indent fuel : Nat) (cursor : Cursor) : Option (Found Node) :=
  if startsPlain flow cursor.rest then do
    let (pieces, after) ← plainPieces? flow indent fuel cursor
    return (.scalar true (foldPieces pieces), after)
  else
    none

/-- A scalar between double quotes, after the opening one. -/
def readDouble? (cursor : Cursor) : Option (Found Node) := do
  let (inside, _) ← cutDouble? cursor.rest
  return (.scalar false (foldPieces (← doublePieces? inside)), (cursor.pass inside).drop 1)

/-- A scalar between single quotes, after the opening one. -/
def readSingle? (cursor : Cursor) : Option (Found Node) := do
  let (inside, _) ← cutSingle? cursor.rest
  return (.scalar false (foldPieces (singlePieces inside)), (cursor.pass inside).drop 1)

/-- A character of the name of a local tag. -/
def isTagCharacter (c : Char) : Bool := c.isAlphanum || "-_;/?:@&=+$.~*'()".toList.contains c

/-- The bytes of the name of a tag, in which a percent sign and two digits in base sixteen stand for
any byte. -/
def tagBytes? : List Char → Option (List UInt8)
  | [] => some []
  | '%' :: high :: low :: rest => do
    let byte ← Text.readNat? 16 [high, low]
    return byte.toUInt8 :: (← tagBytes? rest)
  | c :: rest => if c = '%' then none else (tagBytes? rest).map (c.toNat.toUInt8 :: ·)

/-- A local tag after its exclamation mark. -/
def readTag? (flow : Bool) (cursor : Cursor) : Option (Found String) := do
  let name := cursor.rest.takeWhile fun c => isTagCharacter c || c == '%'
  let after := cursor.pass name
  let text ← String.fromUTF8? ⟨(← tagBytes? name).toArray⟩
  if name.isEmpty then none
  else if isSpaceAhead after.rest || (flow && after.rest.head? == some ',') then
    some ("!" ++ text, after)
  else none

mutual

/-- A node inside a flow collection, or a node that is itself one. -/
def readFlow? (indent : Nat) : Nat → Bool → Cursor → Option (Found Node)
  | 0, _, _ => none
  | fuel + 1, flow, cursor =>
    match cursor.rest with
    | '[' :: _ => do
      let (items, after) ← readFlowItems? indent fuel (cursor.drop 1)
      return (.sequence items, after)
    | '{' :: _ => do
      let (entries, after) ← readFlowEntries? indent fuel (cursor.drop 1)
      return (.mapping entries, after)
    | '"' :: _ => readDouble? (cursor.drop 1)
    | '\'' :: _ => readSingle? (cursor.drop 1)
    | '!' :: _ => do
      let (tag, after) ← readTag? flow (cursor.drop 1)
      let next ← if flow then after.nextInFlow? else (after.nextInBlock? false).map (·.2)
      let absent := match next.rest with
        | [] => true
        | ':' :: rest => flow || isSpaceAhead rest
        | c :: _ => isFlowMark c && c != '[' && c != '{'
      if absent || (!flow && after.crossesLine next) then
        return (.tagged tag .empty, after)
      else
        let (content, after) ← readFlow? indent fuel flow next
        return (← content.underTag? tag, after)
    | _ => readPlain? flow indent fuel cursor

/-- The items of a flow sequence up to its bracket.  An item with a colon or a mark is a mapping of
one entry. -/
def readFlowItems? (indent : Nat) : Nat → Cursor → Option (Found (List Node))
  | 0, _ => none
  | fuel + 1, cursor => do
    let cursor ← cursor.nextInFlow?
    if cursor.rest.head? == some ']' then
      return ([], cursor.drop 1)
    else
      let (key, after) ← readFlowKey? indent fuel false cursor
      let (item, after) ←
        if after.rest.head? == some ':' then do
          let (value, after) ← readFlowValue? indent fuel (after.drop 1)
          pure (Node.mapping [(key, value)], after)
        else if cursor.rest.head? == some '?' then
          pure (Node.mapping [(key, .empty)], after)
        else
          pure (key, after)
      let (items, after) ← match after.rest with
        | ',' :: _ => readFlowItems? indent fuel (after.drop 1)
        | ']' :: _ => some ([], after.drop 1)
        | _ => none
      return (item :: items, after)

/-- The entries of a flow mapping up to its brace. -/
def readFlowEntries? (indent : Nat) : Nat → Cursor → Option (Found (List (Node × Node)))
  | 0, _ => none
  | fuel + 1, cursor => do
    let cursor ← cursor.nextInFlow?
    if cursor.rest.head? == some '\x7d' then
      return ([], cursor.drop 1)
    else
      let (key, after) ← readFlowKey? indent fuel true cursor
      let (value, after) ←
        if after.rest.head? == some ':' then readFlowValue? indent fuel (after.drop 1)
        else pure (.empty, after)
      let (entries, after) ← match after.rest with
        | ',' :: _ => readFlowEntries? indent fuel (after.drop 1)
        | '\x7d' :: _ => some ([], after.drop 1)
        | _ => none
      return ((key, value) :: entries, after)

/-- A key or an item of a flow collection, with the place of what follows it.  A key without a mark
is on one line with its colon.  Nothing need stand after a mark, where a sequence, unlike a mapping,
passes over the colon or comma that comes instead. -/
def readFlowKey? (indent : Nat) : Nat → Bool → Cursor → Option (Found Node)
  | 0, _, _ => none
  | fuel + 1, inMapping, cursor => do
    if cursor.rest.head? == some '?' then
      let start ← (cursor.drop 1).nextInFlow?
      if start.rest.head?.any fun c => c == ':' || c == ',' || (inMapping && c == '\x7d') then
        return (.empty, ← if inMapping then some start else (start.drop 1).nextInFlow?)
      else
        let (key, after) ← readFlow? indent fuel true start
        return (key, ← after.nextInFlow?)
    else
      let (key, after) ← readFlow? indent fuel true cursor
      let next ← after.nextInFlow?
      if next.rest.head? == some ':' && !cursor.reachesAsKey next then none
      else return (key, next)

/-- The value after the colon of a flow mapping, with the place of what follows it. -/
def readFlowValue? (indent : Nat) : Nat → Cursor → Option (Found Node)
  | 0, _ => none
  | fuel + 1, cursor => do
    let cursor ← cursor.nextInFlow?
    if cursor.rest.head?.any fun c => c == ',' || c == ']' || c == '\x7d' then
      return (.empty, cursor)
    else
      let (node, after) ← readFlow? indent fuel true cursor
      return (node, ← after.nextInFlow?)

end

/-- The place of the colon of a block mapping, if one follows a key on its line. -/
def colon? (cursor : Cursor) : Option Cursor :=
  let place := cursor.pass (cursor.rest.takeWhile isSpace)
  match place.rest with
  | ':' :: rest => if isSpaceAhead rest then some place else none
  | _ => none

/-- The marks of block collections. -/
inductive BlockMark where
  /-- A dash before an item. -/
  | item
  /-- A question mark before a key. -/
  | key
  /-- A colon before the value of a marked key. -/
  | value
  /-- A colon after a key on its line. -/
  | colon
  deriving DecidableEq, Repr

mutual

/-- The node after a mark in a block of the given column.  After a colon on the line of its key, no
block collection may begin on that line.  A sequence in the column of the block can be a key or a
value but not an item. -/
def readBlockValue? (fuel block : Nat) (mark : BlockMark) (cursor : Cursor) :
    Option (Found Node) :=
  match fuel with
  | 0 => none
  | fuel + 1 => do
    let (ended, next) ← cursor.nextInBlock? (mark != .colon)
    if isEnd next then
      return (.empty, next)
    else if ended && next.column ≤ block then
      if mark != .item && next.column == block && isItemAhead next.rest then
        let (items, after) ← readBlockItems? fuel next
        return (.sequence items, after)
      else
        return (.empty, next)
    else
      match ← readBlockNode? fuel (block + 1) (ended || mark != .colon) next with
      | (.tagged tag (.scalar true ""), after) =>
        if mark != .item && after.column == block && isItemAhead after.rest then
          let (items, after) ← readBlockItems? fuel after
          return (.tagged tag (.sequence items), after)
        else
          return (.tagged tag .empty, after)
      | found => return found

/-- A node that begins at the cursor, behind which its later lines are indented.  `nests` says
that a block collection may begin here. -/
def readBlockNode? (fuel indent : Nat) (nests : Bool) (cursor : Cursor) : Option (Found Node) :=
  match fuel with
  | 0 => none
  | fuel + 1 => do
    if isItemAhead cursor.rest then
      if nests then
        let (items, after) ← readBlockItems? fuel cursor
        return (.sequence items, after)
      else
        none
    else if isKeyMarkAhead cursor.rest then
      if nests then
        let (entries, after) ← readBlockEntries? fuel cursor
        return (.mapping entries, after)
      else
        none
    else
      let (node, after) ← readFlow? indent fuel false cursor
      match colon? after, node with
      | some colon, _ =>
        if nests && cursor.reachesAsKey colon then
          let (entries, after) ← readBlockEntries? fuel cursor
          return (.mapping entries, after)
        else
          none
      | none, .tagged tag (.scalar true "") =>
        let (ended, next) ← after.nextInBlock? false
        if ended && !isEnd next && indent ≤ next.column then
          let (content, after) ← readBlockNode? fuel indent true next
          return (← content.underTag? tag, after)
        else
          return (node, ← after.nextLine?)
      | none, node => return (node, ← after.nextLine?)

/-- The items of a block sequence from the mark of one of them on. -/
def readBlockItems? (fuel : Nat) (cursor : Cursor) : Option (Found (List Node)) :=
  match fuel with
  | 0 => none
  | fuel + 1 => do
    let (item, next) ← readBlockValue? fuel cursor.column .item (cursor.drop 1)
    if isEnd next || next.column < cursor.column then
      return ([item], next)
    else if next.column == cursor.column then
      if isItemAhead next.rest then
        let (items, next) ← readBlockItems? fuel next
        return (item :: items, next)
      else
        return ([item], next)
    else
      none

/-- The entries of a block mapping from the key of one of them on. -/
def readBlockEntries? (fuel : Nat) (cursor : Cursor) : Option (Found (List (Node × Node))) :=
  match fuel with
  | 0 => none
  | fuel + 1 => do
    let ((key, value), next) ←
      if isKeyMarkAhead cursor.rest then do
        let (key, next) ← readBlockValue? fuel cursor.column .key (cursor.drop 1)
        match next.column == cursor.column, colon? next with
        | true, some colon =>
          let (value, next) ← readBlockValue? fuel cursor.column .value (colon.drop 1)
          pure ((key, value), next)
        | _, _ => pure ((key, .empty), next)
      else do
        let (key, after) ← readFlow? 0 fuel false cursor
        let colon ← colon? after
        if cursor.reachesAsKey colon then
          let (value, next) ← readBlockValue? fuel cursor.column .colon (colon.drop 1)
          pure ((key, value), next)
        else
          none
    if isEnd next || next.column < cursor.column then
      return ([(key, value)], next)
    else if next.column == cursor.column && !isItemAhead next.rest then
      let (entries, next) ← readBlockEntries? fuel next
      return ((key, value) :: entries, next)
    else
      none

end

/-- The text with a line feed for every line break. -/
def normalizeBreaks : List Char → List Char
  | [] => []
  | '\r' :: '\n' :: rest => '\n' :: normalizeBreaks rest
  | '\r' :: rest => '\n' :: normalizeBreaks rest
  | '\u0085' :: rest => '\n' :: normalizeBreaks rest
  | c :: rest => c :: normalizeBreaks rest

/-- A character that may stand in a YAML text. -/
def isAllowed (c : Char) : Bool :=
  c == '\t' || c == '\n' || c == '\r' || c == '\u0085' ||
    (' ' ≤ c && c ≤ '~') || ('\u00A0' ≤ c && c ≤ '\uFFFD') || 0x10000 ≤ c.toNat

/-- The place behind the marks that end a document, at most `fuel` of them. -/
def skipEnds? : Nat → Cursor → Option Cursor
  | 0, cursor => some cursor
  | fuel + 1, cursor => do
    if isMarkAhead "..." cursor then skipEnds? fuel (← (cursor.drop 3).nextLine?) else some cursor

/-- The node after the mark that begins a document, or of a document without a mark. -/
def readDocument? (fuel : Nat) (cursor : Cursor) : Option (Found Node) :=
  if isMarkAhead "---" cursor then
    do
      let marked := cursor.drop 3
      let (ended, next) ← marked.nextInBlock? false
      if isEnd next then some (.empty, next) else readBlockNode? fuel 0 ended next
  else if isMarkAhead "..." cursor then none
  else if cursor.rest.isEmpty then some (.empty, cursor)
  else readBlockNode? fuel 0 true cursor

/-- The node of a text that holds one document; an empty text holds an empty node. -/
def Node.read? (text : String) : Option Node :=
  if text.toList.all isAllowed then do
    let chars := normalizeBreaks text.toList
    let start ← Cursor.next? ⟨0, 0, 0, chars⟩ true true
    let (node, after) ← readDocument? (4 * chars.length + 8) start
    let after ← skipEnds? after.rest.length after
    if after.rest.isEmpty then some node else none
  else
    none

end Yaml
end RecordQuery
