import RecordQuery.Predicate.Parser
import RecordQuery.Proofs.Cursor.Place

/-!
# Scanning a text with a cursor

A scan goes through a text with a cursor that is a place in it, counted in bytes.  It takes from the
text only what lies before or behind a place, and stops where a place to cut at is not between two
characters.  `Scan.Tracks` says that a scan does what a reader of the unread text does: it ends at
the place before what the reader leaves, and has never put the cursor anywhere but between two
characters of what the reader was given.
-/

namespace RecordQuery
namespace Cursor

open Text RecordQuery.Parser

/-- Why a scan has no result. -/
inductive Stop where
  /-- The text is refused. -/
  | refused (error : ParseError)
  /-- The text was to be cut within a character or outside of it. -/
  | cut
  /-- A loop took more steps than it was allowed. -/
  | exhausted
  deriving DecidableEq, Repr

/-- What happens in a scan. -/
structure Run (α : Type) where
  /-- The places where the cursor was put, in their order. -/
  visited : List Nat
  /-- The result with the place of the cursor after it, or why there is none. -/
  outcome : Except Stop (α × Nat)

/-- A scan is given the whole text and the place of the cursor. -/
def Scan (α : Type) : Type := List Char → Nat → Run α

namespace Scan

variable {α β : Type}

/-- The run that puts the cursor nowhere and stops. -/
def stop (reason : Stop) : Scan α := fun _ _ => ⟨[], .error reason⟩

/-- A scan that is followed by another from the place where it ends, if it has a result. -/
def andThen (scan : Scan α) (next : α → Scan β) : Scan β := fun text place =>
  let first := scan text place
  match first.outcome with
  | .error reason => ⟨first.visited, .error reason⟩
  | .ok (result, after) =>
    let later := next result text after
    ⟨first.visited ++ later.visited, later.outcome⟩

instance : Monad Scan where
  pure result := fun _ place => ⟨[], .ok (result, place)⟩
  bind := andThen

/-- The place of the cursor. -/
def position : Scan Nat := fun _ place => ⟨[], .ok (place, place)⟩

/-- Puts the cursor at a place. -/
def moveTo (place : Nat) : Scan Unit := fun _ _ => ⟨[place], .ok ((), place)⟩

/-- Puts the cursor further by a number of bytes. -/
def advance (bytes : Nat) : Scan Unit := fun text place => moveTo (place + bytes) text place

/-- The cursor is at the end of the text. -/
def atEnd : Scan Bool := fun text place => ⟨[], .ok (decide (byteLength text ≤ place), place)⟩

/-- Refuses the text at a place. -/
def refuseAt (problem : ParseProblem) (place : Nat) : Scan α := stop (.refused ⟨problem, place⟩)

/-- Refuses the text at the place of the cursor. -/
def refuse (problem : ParseProblem) : Scan α := fun text place =>
  refuseAt problem place text place

/-- A piece that a text has been cut to. -/
def piece : Option (List Char) → Scan (List Char)
  | some text => pure text
  | none => stop .cut

/-- The text from the cursor on. -/
def unread : Scan (List Char) := fun text place =>
  piece ((cutAt? text place).map (·.2)) text place

/-- The text from an earlier place up to the cursor. -/
def readSince (start : Nat) : Scan (List Char) := fun text place =>
  piece ((cutAt? text place).bind fun (front, _) => (cutAt? front start).map (·.2)) text place

/-- The character at the cursor, or a null character at the end of the text. -/
def current : Scan Char := do return (← unread).headD '\x00'

/-- A loop that is allowed one step more than there are characters in the text. -/
def bounded (loop : Nat → Scan α) : Scan α := fun text place => loop (text.length + 1) text place

theorem bounded_bind (loop : Nat → Scan α) (next : α → Scan β) (text : List Char) (place : Nat) :
    (bounded loop >>= next) text place = (loop (text.length + 1) >>= next) text place := rfl

end Scan

/-! ## Runs beside readings -/

variable {α β : Type} {text base base' rest : List Char}

/-- The end of a run that ends like a reading. -/
def located (text : List Char) : Except Fault (α × List Char) → Except Stop (α × Nat)
  | .ok (result, rest) => .ok (result, placeOf text rest)
  | .error fault => .error (.refused ⟨fault.problem, placeOf text fault.unread⟩)

theorem located_eq_ok_iff {reading : Except Fault (α × List Char)} {result : α} {place : Nat} :
    located text reading = .ok (result, place) ↔
      ∃ rest, reading = .ok (result, rest) ∧ place = placeOf text rest := by
  constructor
  · intro same
    cases reading with
    | error fault => cases same
    | ok reached =>
        obtain ⟨reached, rest⟩ := reached
        obtain ⟨rfl, rfl⟩ := Prod.mk.inj (Except.ok.inj same)
        exact ⟨rest, rfl, rfl⟩
  · rintro ⟨rest, rfl, rfl⟩
    rfl

/-- What a reading has not read. -/
def leftover : Except Fault (α × List Char) → List Char
  | .ok (_, rest) => rest
  | .error fault => fault.unread

/-- A run ends like a reading, and goes through places before ends of the given text only. -/
structure Follows (text base : List Char) (run : Run α) (reading : Except Fault (α × List Char)) :
    Prop where
  /-- The cursor was only put before ends of the given text. -/
  visited : ∀ place ∈ run.visited, ∃ rest, rest <:+ base ∧ place = placeOf text rest
  /-- The run ends where the reading does, with the same result or problem. -/
  outcome : run.outcome = located text reading
  /-- What is left is an end of the given text. -/
  leaves : leftover reading <:+ base

namespace Follows

variable {scan : Scan α} {next : α → Scan β} {place : Nat}

theorem mono {run : Run α} {reading : Except Fault (α × List Char)}
    (follows : Follows text base run reading) (longer : base <:+ base') :
    Follows text base' run reading where
  visited place member := by
    obtain ⟨rest, ends, same⟩ := follows.visited place member
    exact ⟨rest, ends.trans longer, same⟩
  outcome := follows.outcome
  leaves := follows.leaves.trans longer

/-- A run that moves nothing. -/
theorem still (result : α) (within : rest <:+ base) :
    Follows text base ⟨[], .ok (result, placeOf text rest)⟩ (.ok (result, rest)) :=
  ⟨List.forall_mem_nil _, rfl, within⟩

theorem refused (problem : ParseProblem) (within : rest <:+ base) :
    Follows text base (⟨[], .error (.refused ⟨problem, placeOf text rest⟩)⟩ : Run α)
      (.error ⟨problem, rest⟩) :=
  ⟨List.forall_mem_nil _, rfl, within⟩

theorem moved (within : rest <:+ base) (place : Nat) :
    Follows text base (Scan.moveTo (placeOf text rest) text place) (.ok ((), rest)) :=
  ⟨List.forall_mem_singleton.mpr ⟨rest, within, rfl⟩, rfl, within⟩

/-- A run is followed by another from the place where it ends. -/
theorem bind_ok {result : α} {reading : Except Fault (β × List Char)}
    (first : Follows text base (scan text place) (.ok (result, rest)))
    (second : Follows text base (next result text (placeOf text rest)) reading) :
    Follows text base ((scan >>= next) text place) reading := by
  have whole : (scan >>= next) text place =
      ⟨(scan text place).visited ++ (next result text (placeOf text rest)).visited,
        (next result text (placeOf text rest)).outcome⟩ := by
    show Scan.andThen scan next text place = _
    rw [Scan.andThen, first.outcome]
    rfl
  rw [whole]
  exact ⟨List.forall_mem_append.mpr ⟨first.visited, second.visited⟩, second.outcome, second.leaves⟩

/-- A run that is refused is not followed by another. -/
theorem bind_error {fault : Fault}
    (first : Follows text base (scan text place) (.error fault)) :
    Follows text base ((scan >>= next) text place) (.error fault) := by
  have whole : (scan >>= next) text place =
      ⟨(scan text place).visited, located text (.error fault)⟩ := by
    show Scan.andThen scan next text place = _
    rw [Scan.andThen, first.outcome]
    rfl
  rw [whole]
  exact ⟨first.visited, rfl, first.leaves⟩

end Follows

namespace Scan

/-- From the place before an end of a text, the scan does what the reader does with this end, if it
is short enough. -/
def Tracks (limit : Nat) (scan : Scan α) (reader : Reader α) : Prop :=
  ∀ text rest, rest <:+ text → rest.length < limit →
    Follows text rest (scan text (placeOf text rest)) (reader rest)

variable {limit : Nat} {scan : Scan α} {reader reader' : Reader α}

namespace Tracks

theorem weaken {limit' : Nat} (tracks : Tracks limit scan reader) (fewer : limit' ≤ limit) :
    Tracks limit' scan reader :=
  fun text rest ends short => tracks text rest ends (Nat.lt_of_lt_of_le short fewer)

/-- No text is that short. -/
theorem vacuous : Tracks 0 scan reader := fun _ _ _ short => absurd short (Nat.not_lt_zero _)

theorem congr (tracks : Tracks limit scan reader)
    (same : ∀ rest, rest.length < limit → reader' rest = reader rest) :
    Tracks limit scan reader' := by
  intro text rest ends short
  rw [same rest short]
  exact tracks text rest ends short

theorem pure (result : α) : Tracks limit (pure result) fun rest => .ok (result, rest) :=
  fun _ _ _ _ => .still result (List.suffix_refl _)

theorem refuse (problem : ParseProblem) :
    Tracks limit (refuse problem : Scan α) fun rest => .error ⟨problem, rest⟩ :=
  fun _ _ _ _ => .refused problem (List.suffix_refl _)

/-- One scan after another does what one reader does after another. -/
theorem bind {next : α → Scan β} {later : α → Reader β} (first : Tracks limit scan reader)
    (second : ∀ result, Tracks limit (next result) (later result)) :
    Tracks limit (scan >>= next) fun rest =>
      reader rest >>= fun (result, rest) => later result rest := by
  intro text rest ends short
  have begins := first text rest ends short
  show Follows text rest _ (reader rest >>= _)
  cases reading : reader rest with
  | error fault =>
      rw [reading] at begins
      exact begins.bind_error
  | ok reached =>
      obtain ⟨result, after⟩ := reached
      rw [reading] at begins
      have shorter : after.length < limit := Nat.lt_of_le_of_lt begins.leaves.length_le short
      have goesOn := second result text after (begins.leaves.trans ends) shorter
      exact begins.bind_ok (goesOn.mono begins.leaves)

end Tracks
end Scan
end Cursor
end RecordQuery
