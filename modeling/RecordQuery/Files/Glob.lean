import RecordQuery.Files.Pattern

/-!
# Globs

A glob is a path in which `?` stands for one byte and `*` for any number of bytes of a name, a
bracket for one byte of a set, and a brace for one of several globs; a backslash takes the character
after it as it is.  Two stars that make up a whole name of the path stand for any number of names.
Classes are sets of bytes, so a character of several bytes in one stands for each of its bytes.
-/

namespace RecordQuery
namespace Files

/-- A part of a glob. -/
inductive GlobToken where
  | literal (c : Char)
  /-- One byte of a name. -/
  | single
  /-- Any number of bytes of a name. -/
  | star
  /-- Any directories at the start of a path. -/
  | leading
  /-- Anything below a directory. -/
  | trailing
  /-- Any directories between two names. -/
  | inner
  | oneOf (negated : Bool) (ranges : List (Char × Char))
  | alternatives (branches : List (List GlobToken))
  deriving Repr, Inhabited

/-- The tokens read so far, last first, and the braces still open around them: for each the tokens
before it and its finished branches, last first. -/
structure GlobProgress where
  /-- The tokens of the branch that is being read. -/
  tokens : List GlobToken
  /-- The open braces, innermost first. -/
  braces : List (List GlobToken × List (List GlobToken))
  deriving Inhabited

namespace GlobProgress

/-- One more token. -/
def push (progress : GlobProgress) (token : GlobToken) : GlobProgress :=
  { progress with tokens := token :: progress.tokens }

/-- A brace is open. -/
def isNested (progress : GlobProgress) : Bool := !progress.braces.isEmpty

/-- An opened brace. -/
def openBrace (progress : GlobProgress) : GlobProgress :=
  ⟨[], (progress.tokens, []) :: progress.braces⟩

/-- A comma: the next branch of a brace, and itself outside of braces. -/
def comma (progress : GlobProgress) : GlobProgress :=
  match progress.braces with
  | [] => progress.push (.literal ',')
  | (before, branches) :: braces => ⟨[], (before, progress.tokens.reverse :: branches) :: braces⟩

/-- A closed brace, if one is open. -/
def closeBrace? (progress : GlobProgress) : Option GlobProgress :=
  match progress.braces with
  | [] => none
  | (before, branches) :: braces =>
    some ⟨.alternatives (progress.tokens.reverse :: branches).reverse :: before, braces⟩

/-- Two stars whose names around them are cut off by slashes: `suffix` says that nothing follows.
The slash before them is part of what they stand for, and directly repeated ones are one. -/
def doubleStar (progress : GlobProgress) (suffix : Bool) : GlobProgress :=
  match progress.tokens with
  | .leading :: _ => progress
  | .trailing :: _ => progress
  | _ :: before => { progress with tokens := (if suffix then .trailing else .inner) :: before }
  | [] => progress

end GlobProgress

/-- What reading a class after its bracket gives. -/
inductive ClassReading where
  /-- The bracket is never closed. -/
  | unclosed
  /-- A range goes down. -/
  | invalid
  | closed (ranges : List (Char × Char)) (rest : List Char)

/-- Reads the ranges of a class up to its bracket; `ranges` holds those read so far, last first.
A bracket or a dash that comes first is a member, and so is a dash that comes last. -/
def readClass (first inRange : Bool) (ranges : List (Char × Char)) : List Char → ClassReading
  | [] => .unclosed
  | c :: rest =>
    if c = ']' ∧ !first then
      .closed ((if inRange then ('-', '-') :: ranges else ranges).reverse) rest
    else if inRange then
      match ranges with
      | (low, _) :: ranges =>
        if c < low then .invalid else readClass false false ((low, c) :: ranges) rest
      | [] => readClass false false [(c, c)] rest
    else if c = '-' ∧ !first then readClass false true ranges rest
    else readClass false false ((c, c) :: ranges) rest

/-- Reads the tokens of a glob, given the character before; each step takes a character, of which
there are at most `fuel`. -/
def readTokens? : Nat → Option Char → GlobProgress → List Char → Option GlobProgress
  | 0, _, progress, _ => some progress
  | _, _, progress, [] => some progress
  | fuel + 1, previous, progress, '*' :: '*' :: rest =>
    let twice := (progress.push .star).push .star
    if progress.tokens.isEmpty then
      match rest with
      | [] => some (progress.push .leading)
      | '/' :: rest => readTokens? fuel (some '/') (progress.push .leading) rest
      | rest => readTokens? fuel (some '*') twice rest
    else if previous != some '/' && !(progress.isNested && (previous == some ',' ||
        previous == some '{')) then
      readTokens? fuel (some '*') twice rest
    else
      match rest with
      | [] => some (progress.doubleStar true)
      | '/' :: rest => readTokens? fuel (some '/') (progress.doubleStar false) rest
      | c :: _ =>
        if progress.isNested && (c == ',' || c == '\x7d') then
          readTokens? fuel (some '*') (progress.doubleStar true) rest
        else
          readTokens? fuel (some '*') twice rest
  | fuel + 1, _, progress, c :: rest =>
    match c with
    | '?' => readTokens? fuel (some c) (progress.push .single) rest
    | '*' => readTokens? fuel (some c) (progress.push .star) rest
    | '[' =>
      let (negated, members) := match rest with
        | '!' :: members => (true, members)
        | '^' :: members => (true, members)
        | members => (false, members)
      match readClass true false [] members with
      | .invalid => none
      | .unclosed => readTokens? fuel (some c) (progress.push (.literal c)) rest
      | .closed ranges rest =>
        readTokens? fuel (some ']') (progress.push (.oneOf negated ranges)) rest
    | '{' => readTokens? fuel (some c) progress.openBrace rest
    | '\x7d' => progress.closeBrace?.bind fun progress => readTokens? fuel (some c) progress rest
    | ',' => readTokens? fuel (some c) progress.comma rest
    | '\\' =>
      match rest with
      | [] => none
      | c :: rest => readTokens? fuel (some c) (progress.push (.literal c)) rest
    | c => readTokens? fuel (some c) (progress.push (.literal c)) rest

namespace Pattern

/-- The slash between names. -/
def slash : Pattern := .one (.single 0x2F)

/-- Every byte. -/
def anyByte : ByteClass := ⟨true, []⟩

/-- Every byte of a name. -/
def nameByte : ByteClass := ⟨true, [(0x2F, 0x2F)]⟩

/-- Any number of names, each with the slash after it. -/
def directories : Pattern := .sequence (.many anyByte) slash

/-- The bytes that a range of characters stands for in a class: of a character of several bytes
each one, and between two characters the range from the last byte of one to the first of the
other. -/
def classRanges (range : Char × Char) : List (UInt8 × UInt8) :=
  let low := String.utf8EncodeChar range.1
  let high := String.utf8EncodeChar range.2
  let singles (bytes : List UInt8) := bytes.map fun byte => (byte, byte)
  if range.1 = range.2 then singles low
  else singles low.dropLast ++ [(low.getLastD 0, high.headD 0)] ++ singles high.tail

mutual

/-- The pattern of a token. -/
def ofToken : GlobToken → Pattern
  | .literal c => ofBytes (String.utf8EncodeChar c)
  | .single => .one nameByte
  | .star => .many nameByte
  | .leading => .choice .empty (.choice slash directories)
  | .trailing => .sequence slash (.many anyByte)
  | .inner => .sequence slash (.choice .empty directories)
  | .oneOf negated ranges => .one ⟨negated, ranges.flatMap classRanges⟩
  | .alternatives branches => choiceAll (ofBranches branches)

/-- The pattern of tokens one after the other. -/
def ofTokens : List GlobToken → Pattern
  | [] => .empty
  | token :: tokens => .sequence (ofToken token) (ofTokens tokens)

/-- The patterns of the branches of a brace; empty ones are left out. -/
def ofBranches : List (List GlobToken) → List Pattern
  | [] => []
  | branch :: branches =>
    if branch.isEmpty then ofBranches branches else ofTokens branch :: ofBranches branches

end

/-- The pattern of a glob, if it is one: two stars alone stand for every path. -/
def ofGlob? (glob : List Char) : Option Pattern := do
  let progress ← readTokens? (glob.length + 1) none ⟨[], []⟩ glob
  match progress.tokens, progress.braces with
  | [.leading], [] => some (.many anyByte)
  | tokens, [] => some (ofTokens tokens.reverse)
  | _, _ :: _ => none

end Pattern
end Files
end RecordQuery
