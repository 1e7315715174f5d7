import Mathlib.Algebra.Group.Nat.Defs
import Mathlib.Data.Nat.Basic
import RecordQuery.Proofs.Text.Run
import RecordQuery.Text.Digits
import RecordQuery.Text.Split

/-!
# Written and read digits

A run of digits in front of something else reads as the number that the digits stand for, and a
number written with padding is such a run.
-/

namespace RecordQuery
namespace Text

/-- A text that starts with no digit has no digits to read. -/
theorem readDigits?_eq_none {least : Nat} (positive : 0 < least) (most : Option Nat)
    {text : List Char} (ends : Ends Char.isDigit text) :
    readDigits? least most text = none := by
  have none_taken : ∀ window : List Char, window <+: text →
      window.takeWhile Char.isDigit = [] := by
    intro window front
    cases window with
    | nil => rfl
    | cons c window =>
        obtain ⟨tail, rfl⟩ := front
        exact List.takeWhile_cons_of_neg (by simp [ends c rfl])
  unfold readDigits?
  cases most with
  | none => simp [none_taken text List.prefix_rfl, Nat.ne_of_gt positive]
  | some most =>
      simp [none_taken (text.take most) (List.take_prefix most text), Nat.ne_of_gt positive]

/-- A run of digits is read as a whole when it is within the limits and nothing continues it. -/
theorem readDigits?_append {least : Nat} {most : Option Nat} {digits rest : List Char}
    (isDigit : ∀ c ∈ digits, c.isDigit = true) (enough : least ≤ digits.length)
    (fits : ∀ limit, most = some limit → digits.length ≤ limit)
    (stops : Ends Char.isDigit rest ∨ most = some digits.length) :
    readDigits? least most (digits ++ rest) = some (Nat.ofDigitChars 10 digits 0, rest) := by
  unfold readDigits?
  cases most with
  | none =>
      have ends := stops.resolve_right (by simp)
      simp [takeWhile_append_of_ends isDigit ends, enough]
  | some limit =>
      have window : (digits ++ rest).take limit =
          digits ++ rest.take (limit - digits.length) := by
        rw [List.take_append, List.take_of_length_le (fits limit rfl)]
      have ends : Ends Char.isDigit (rest.take (limit - digits.length)) := by
        intro c head
        rcases stops with ends | exact_limit
        · apply ends c
          rw [List.head?_take] at head
          split at head
          · simp at head
          · exact head
        · rw [Option.some.inj exact_limit, Nat.sub_self] at head
          simp at head
      simp [window, takeWhile_append_of_ends isDigit ends, enough]

/-! ## Padded numbers -/

theorem isDigit_of_mem_padded {width n : Nat} {c : Char} (member : c ∈ padded width n) :
    c.isDigit = true := by
  rcases List.mem_append.mp member with zero | digit
  · rw [(List.mem_replicate.mp zero).2]
    rfl
  · exact Nat.isDigit_of_mem_toDigits (by decide) (by decide) digit

theorem exists_padded_eq (width n : Nat) :
    ∃ c tail, padded width n = c :: tail ∧ c.isDigit = true := by
  cases digits : padded width n with
  | nil => simp [padded, Nat.toDigits_ne_nil] at digits
  | cons c tail =>
      have member : c ∈ padded width n := by
        rw [digits]
        exact List.mem_cons_self
      exact ⟨c, tail, rfl, isDigit_of_mem_padded member⟩

@[simp]
theorem ofDigitChars_padded (width n : Nat) : Nat.ofDigitChars 10 (padded width n) 0 = n := by
  simp [padded, Nat.ofDigitChars_append, Nat.ofDigitChars_ten_toDigits]

theorem width_le_length_padded (width n : Nat) : width ≤ (padded width n).length := by
  simp only [padded, List.length_append, List.length_replicate]
  omega

/-- A number below the power of ten of a width is written with exactly that many digits. -/
theorem length_padded {width n : Nat} (positive : 0 < width) (small : n < 10 ^ width) :
    (padded width n).length = width := by
  have fits := (Nat.length_toDigits_le_iff (by decide : 1 < 10) positive).mpr small
  simp only [padded, List.length_append, List.length_replicate]
  omega

/-- A padded number reads back where nothing limits its digits but what follows them. -/
theorem readDigits?_padded {least width n : Nat} {rest : List Char} (enough : least ≤ width)
    (ends : Ends Char.isDigit rest) :
    readDigits? least none (padded width n ++ rest) = some (n, rest) := by
  rw [readDigits?_append (fun c => isDigit_of_mem_padded)
    (enough.trans (width_le_length_padded width n)) (by simp) (.inl ends), ofDigitChars_padded]

/-- A number of full width reads back where digits are counted. -/
theorem readDigits?_padded_exact {least width n : Nat} {rest : List Char} (positive : 0 < width)
    (small : n < 10 ^ width) (enough : least ≤ width) :
    readDigits? least (some width) (padded width n ++ rest) = some (n, rest) := by
  have length := length_padded positive small
  rw [readDigits?_append (fun c => isDigit_of_mem_padded) (enough.trans length.ge)
    (fun limit most => by rw [length, Option.some.inj most])
    (.inr (by rw [length])), ofDigitChars_padded]

/-! ## A number at the end of a text -/

theorem isDigit_of_mem_toString {number : Nat} {c : Char}
    (member : c ∈ (toString number).toList) : c.isDigit = true := by
  rw [Nat.toString_eq_repr, Nat.toList_repr] at member
  exact Nat.isDigit_of_mem_toDigits (by decide) (by decide) member

theorem toList_toString_inj {m n : Nat} (same : (toString m).toList = (toString n).toList) :
    m = n := by
  rw [Nat.toString_eq_repr, Nat.toString_eq_repr, Nat.toList_repr, Nat.toList_repr] at same
  rw [← Nat.ofDigitChars_ten_toDigits (n := m), same, Nat.ofDigitChars_ten_toDigits]

/-- A text with a mark and a number behind it says what stands before the last mark, also where that
looks like such a text. -/
theorem append_toString_inj {mark : Char} (noDigit : mark.isDigit = false) {text other : List Char}
    {m n : Nat}
    (same : text ++ mark :: (toString m).toList = other ++ mark :: (toString n).toList) :
    text = other ∧ m = n := by
  have free (number : Nat) : mark ∉ (toString number).toList := by
    intro member
    rw [isDigit_of_mem_toString member] at noDigit
    cases noDigit
  -- The text is cut at its last mark, since no digit is one.
  have parts := congrArg (split mark) same
  rw [split_append_cons, split_append_cons, split_part mark (free m), split_part mark (free n)]
    at parts
  obtain ⟨texts, numbers⟩ := List.append_inj' parts rfl
  refine ⟨?_, toList_toString_inj (List.cons.inj numbers).1⟩
  rw [← joinWith_split mark text, texts, joinWith_split]

end Text
end RecordQuery
