import RecordQuery.Text.Blank

/-!
# Places in a text

A place in a text is a number of bytes.  A text can be cut at a place only between two characters of
it, or at its start or end; these are the places before what is left of the text at the end of it.
-/

namespace RecordQuery
namespace Cursor

open Text

/-- The text before a place and the text from it on, if the place lies between two characters. -/
def cutAt? : List Char → Nat → Option (List Char × List Char)
  | text, 0 => some ([], text)
  | [], _ + 1 => none
  | c :: text, place + 1 =>
    if c.utf8Size ≤ place + 1 then
      (cutAt? text (place + 1 - c.utf8Size)).map fun (front, back) => (c :: front, back)
    else none

/-- The place before what is left of a text at the end of it. -/
def placeOf (text rest : List Char) : Nat := byteLength text - byteLength rest

variable {text front back rest : List Char} {place : Nat}

@[simp]
theorem placeOf_append (front rest : List Char) :
    placeOf (front ++ rest) rest = byteLength front := by
  rw [placeOf, byteLength_append, Nat.add_sub_cancel]

theorem placeOf_le_placeOf {after : List Char} (ends : after <:+ rest) :
    placeOf text rest ≤ placeOf text after := by
  obtain ⟨front, rfl⟩ := ends
  rw [placeOf, placeOf, byteLength_append]
  omega

theorem byteLength_pos {c : Char} {text : List Char} : 0 < byteLength (c :: text) :=
  Nat.lt_of_lt_of_le c.utf8Size_pos (Nat.le_add_right _ _)

theorem byteLength_eq_zero_iff : byteLength text = 0 ↔ text = [] := by
  cases text with
  | nil => exact ⟨fun _ => rfl, fun _ => rfl⟩
  | cons c text => exact ⟨fun zero => absurd zero (Nat.ne_of_gt byteLength_pos), nofun⟩

theorem cutAt?_cons (c : Char) (text : List Char) (place : Nat) :
    cutAt? (c :: text) (c.utf8Size + place) =
      (cutAt? text place).map fun (front, back) => (c :: front, back) := by
  have size := c.utf8Size_pos
  obtain ⟨more, same⟩ : ∃ more, c.utf8Size + place = more + 1 :=
    ⟨c.utf8Size + place - 1, by omega⟩
  rw [same, cutAt?, ← same, if_pos (Nat.le_add_right _ _), Nat.add_sub_cancel_left]

theorem cutAt?_append (front back : List Char) :
    cutAt? (front ++ back) (byteLength front) = some (front, back) := by
  induction front with
  | nil => cases back <;> rfl
  | cons c front ih => rw [List.cons_append, byteLength_cons, cutAt?_cons, ih, Option.map_some]

theorem eq_append_of_cutAt? (cut : cutAt? text place = some (front, back)) :
    text = front ++ back ∧ place = byteLength front := by
  fun_induction cutAt? text place generalizing front with
  | case1 text =>
      obtain ⟨rfl, rfl⟩ := Prod.mk.inj (Option.some.inj cut)
      exact ⟨rfl, rfl⟩
  | case2 => cases cut
  | case3 c text place fits ih =>
      obtain ⟨⟨rest, after⟩, inside, same⟩ := Option.map_eq_some_iff.mp cut
      obtain ⟨rfl, rfl⟩ := Prod.mk.inj same
      obtain ⟨rfl, length⟩ := ih inside
      refine ⟨rfl, ?_⟩
      rw [byteLength_cons]
      omega
  | case4 => cases cut

/-- A text is cut at a place into what takes as many bytes as the place says and the rest. -/
theorem cutAt?_eq_some_iff :
    cutAt? text place = some (front, back) ↔ text = front ++ back ∧ place = byteLength front := by
  constructor
  · exact eq_append_of_cutAt?
  · rintro ⟨rfl, rfl⟩
    exact cutAt?_append front back

/-! ## Boundaries of a string -/

theorem utf8ByteSize_ofList (text : List Char) :
    (String.ofList text).utf8ByteSize = byteLength text := by
  induction text with
  | nil => rfl
  | cons c text ih =>
      have first : (String.ofList [c]).utf8ByteSize = c.utf8Size := by
        rw [← String.singleton_eq_ofList, String.utf8ByteSize_singleton]
      rw [← List.singleton_append, String.ofList_append, String.utf8ByteSize_append, ih, first,
        byteLength_append, byteLength_cons, byteLength_nil, Nat.add_zero]

theorem byteLength_toList (input : String) : byteLength input.toList = input.utf8ByteSize := by
  rw [← utf8ByteSize_ofList, String.ofList_toList]

/-- The boundaries of the characters of a string are the places before what is left of it. -/
theorem isValid_iff_exists_placeOf {input : String} {place : Nat} :
    String.Pos.Raw.IsValid input ⟨place⟩ ↔
      ∃ rest, rest <:+ input.toList ∧ place = placeOf input.toList rest := by
  rw [String.Pos.Raw.isValid_iff_exists_append]
  constructor
  · rintro ⟨front, back, rfl, same⟩
    refine ⟨back.toList, ?_, ?_⟩
    · rw [String.toList_append]
      exact List.suffix_append _ _
    · rw [String.toList_append, placeOf_append, byteLength_toList]
      exact congrArg String.Pos.Raw.byteIdx same
  · rintro ⟨rest, ⟨front, split⟩, rfl⟩
    refine ⟨String.ofList front, String.ofList rest, ?_, ?_⟩
    · rw [← String.ofList_append, split, String.ofList_toList]
    · rw [← split, placeOf_append, ← utf8ByteSize_ofList]
      rfl

end Cursor
end RecordQuery
