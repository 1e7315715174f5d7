import RecordQuery.Text.Blank

/-!
# Blanks, digits and letter case

There are few blanks, so that a class of characters can be compared with all of them one by one.  A
letter has at most one other form that is the same in lower case.
-/

namespace RecordQuery
namespace Text

theorem skipBlank_cons {c : Char} (solid : isBlank c = false) (text : List Char) :
    skipBlank (c :: text) = c :: text :=
  List.dropWhile_cons_of_neg (by simp [solid])

/-- The code points of the blanks, one by one. -/
def blankPoints : List Nat :=
  blankRanges.flatMap fun range => List.range' range.1 (range.2 + 1 - range.1)

/-- What holds of every blank on the list holds of all blanks. -/
theorem of_isBlank (property : Char → Prop) (points : ∀ n ∈ blankPoints, property (Char.ofNat n))
    {c : Char} (blank : isBlank c = true) : property c := by
  simp only [isBlank, inRanges, List.any_eq_true, Bool.and_eq_true, decide_eq_true_eq] at blank
  obtain ⟨range, listed, lower, upper⟩ := blank
  have member : c.toNat ∈ blankPoints :=
    List.mem_flatMap.mpr ⟨range, listed, List.mem_range'_1.mpr ⟨lower, by omega⟩⟩
  simpa using points c.toNat member

/-- A blank is not a letter and stays itself in lower case. -/
theorem toLower_of_isBlank {c : Char} (blank : isBlank c = true) : c.toLower = c :=
  of_isBlank (fun c => c.toLower = c) (by decide) blank

/-- No blank belongs to a class that has none of the listed ones. -/
theorem isBlank_eq_false {member : Char → Bool}
    (points : ∀ n ∈ blankPoints, member (Char.ofNat n) = false) {c : Char}
    (inside : member c = true) : isBlank c = false := by
  cases blank : isBlank c with
  | false => rfl
  | true =>
      have outside := of_isBlank (fun c => member c = false) points blank
      rw [inside] at outside
      contradiction

theorem isBlank_of_isDigit {c : Char} (digit : c.isDigit = true) : isBlank c = false :=
  isBlank_eq_false (by decide) digit

/-- A letter in lower case is that letter or the capital thirty-two places before it. -/
theorem eq_of_toLower {c letter : Char} (lower : c.toLower = letter) :
    c = letter ∨ c = Char.ofNat (letter.toNat - 32) := by
  unfold Char.toLower at lower
  split at lower
  · rename_i capital
    have upper : c.toNat ≤ 90 := UInt32.le_iff_toNat_le.mp capital.2
    have points : (c.toNat + 32) % 2 ^ 32 = letter.toNat := congrArg Char.toNat lower
    right
    rw [← points, Nat.mod_eq_of_lt (by omega), Nat.add_sub_cancel, Char.ofNat_toNat]
  · exact .inl lower

theorem toLower_ne_of_isDigit {c letter : Char} (digit : c.isDigit = true)
    (letters : letter.isDigit = false ∧ (Char.ofNat (letter.toNat - 32)).isDigit = false) :
    c.toLower ≠ letter := by
  intro lower
  rcases eq_of_toLower lower with rfl | rfl
  · rw [digit] at letters
    exact absurd letters.1 (by decide)
  · rw [digit] at letters
    exact absurd letters.2 (by decide)

end Text
end RecordQuery
