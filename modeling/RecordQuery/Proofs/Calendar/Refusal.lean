import RecordQuery.Calendar.Reader
import RecordQuery.Proofs.Text.Character
import RecordQuery.Proofs.Text.Digits

/-!
# Texts that are no dates and no times

A date begins with a digit or a sign and has a dash after its first character; an instant begins
with a digit and has such a dash too; a time of day begins with a digit and has a colon.  So the
readers refuse every text that lacks one of these.
-/

namespace RecordQuery

open Calendar Text

namespace Calendar

theorem mem_of_readChar? {c : Char} {text rest : List Char} (read : readChar? c text = some rest) :
    c ∈ text := by
  cases text with
  | nil => simp [readChar?] at read
  | cons d text =>
      simp only [readChar?, Option.ite_none_right_eq_some] at read
      simp [read.1]

theorem readDigits?_suffix_tail {least : Nat} {most : Option Nat} {text rest : List Char} {n : Nat}
    (positive : 0 < least) (read : readDigits? least most text = some (n, rest)) :
    rest <:+ text.tail := by
  simp only [readDigits?, Option.ite_none_right_eq_some, Option.some.injEq, Prod.mk.injEq] at read
  obtain ⟨enough, -, rfl⟩ := read
  rw [← List.drop_one]
  exact List.drop_suffix_drop_left text (positive.trans_le enough)

theorem tail_suffix_tail {rest text : List Char} (suffix : rest <:+ text) :
    rest.tail <:+ text.tail := by
  obtain ⟨front, rfl⟩ := suffix
  cases front with
  | nil => exact List.suffix_rfl
  | cons c front => exact (List.tail_suffix rest).trans (List.suffix_append front rest)

theorem readPart?_suffix_tail {text rest : List Char} {n : Nat}
    (read : readPart? text = some (n, rest)) : rest <:+ text.tail :=
  (readDigits?_suffix_tail Nat.one_pos read).trans (tail_suffix_tail (skipBlank_suffix text))

theorem readYear?_suffix_tail {text rest : List Char} {year : Int}
    (read : readYear? text = some (year, rest)) : rest <:+ text.tail := by
  refine List.IsSuffix.trans ?_ (tail_suffix_tail (skipBlank_suffix text))
  unfold readYear? at read
  split at read
  all_goals
    simp only [Option.map_eq_some_iff, Prod.mk.injEq] at read
    obtain ⟨⟨size, unread⟩, digits, -, rfl⟩ := read
    have shorter := readDigits?_suffix_tail Nat.one_pos digits
  · rename_i signed
    rw [signed]
    exact shorter.trans (List.tail_suffix _)
  · rename_i signed
    rw [signed]
    exact shorter.trans (List.tail_suffix _)
  · exact shorter

/-- A number part does not begin with anything but a digit. -/
theorem readPart?_eq_none {c : Char} {text : List Char} (solid : isBlank c = false)
    (noDigit : c.isDigit = false) : readPart? (c :: text) = none := by
  rw [readPart?, skipBlank_cons solid]
  exact readDigits?_eq_none Nat.one_pos _ (ends_cons.mpr noDigit)

end Calendar

namespace Date

theorem read?_eq_none_of_tail {text : List Char} (noDash : '-' ∉ text.tail) :
    read? text = none := by
  cases read : readDateParts? false text with
  | none => simp [read?, read]
  | some result =>
      simp only [readDateParts?, Option.bind_eq_bind, Option.bind_eq_some_iff] at read
      obtain ⟨⟨year, afterYear⟩, yearRead, afterDash, dash, -⟩ := read
      exact absurd ((readYear?_suffix_tail yearRead).subset (mem_of_readChar? dash)) noDash

theorem read?_eq_none_of_head {c : Char} {text : List Char} (solid : isBlank c = false)
    (noDigit : c.isDigit = false) (noSign : c ≠ '-' ∧ c ≠ '+') : read? (c :: text) = none := by
  have noYear : readYear? (c :: text) = none := by
    rw [readYear?, skipBlank_cons solid]
    split
    · rename_i signed
      exact absurd (List.cons.inj signed).1 noSign.1
    · rename_i signed
      exact absurd (List.cons.inj signed).1 noSign.2
    · rw [readDigits?_eq_none Nat.one_pos _ (ends_cons.mpr noDigit)]
      rfl
  simp [read?, readDateParts?, noYear]

end Date

namespace Instant

theorem read?_eq_none_of_tail {text : List Char} (noDash : '-' ∉ text.tail) :
    read? text = none := by
  cases yearRead : readDigits? 4 (some 4) text with
  | none =>
      rw [read?, yearRead]
      rfl
  | some result =>
      obtain ⟨year, afterYear⟩ := result
      cases dash : readChar? '-' afterYear with
      | none =>
          rw [read?, yearRead, Option.bind_eq_bind, Option.bind_some]
          dsimp only
          rw [dash]
          rfl
      | some afterDash =>
          have member := (readDigits?_suffix_tail (by decide) yearRead).subset
            (mem_of_readChar? dash)
          exact absurd member noDash

theorem read?_eq_none_of_head {c : Char} {text : List Char} (noDigit : c.isDigit = false) :
    read? (c :: text) = none := by
  have noYear : readDigits? 4 (some 4) (c :: text) = none :=
    readDigits?_eq_none (by decide) _ (ends_cons.mpr noDigit)
  rw [read?, noYear]
  rfl

end Instant

namespace TimeOfDay

theorem read?_eq_none_of_notMem {text : List Char} (noColon : ':' ∉ text) : read? text = none := by
  cases hourRead : readPart? text with
  | none => simp [read?, readTimeParts?, hourRead]
  | some result =>
      obtain ⟨hour, afterHour⟩ := result
      cases colon : readChar? ':' afterHour with
      | none => simp [read?, readTimeParts?, hourRead, gap, colon]
      | some afterColon =>
          have suffix := (readPart?_suffix_tail hourRead).trans (List.tail_suffix text)
          exact absurd (suffix.subset (mem_of_readChar? colon)) noColon

theorem read?_eq_none_of_head {c : Char} {text : List Char} (solid : isBlank c = false)
    (noDigit : c.isDigit = false) : read? (c :: text) = none := by
  simp [read?, readTimeParts?, readPart?_eq_none solid noDigit]

end TimeOfDay
end RecordQuery
