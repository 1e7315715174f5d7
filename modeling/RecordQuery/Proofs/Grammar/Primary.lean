import RecordQuery.Proofs.Grammar.Comparison

/-!
# Reading primaries

The word of a constant may also be the name of a field.  `readConstant?` decides by what follows the
word, and this file shows that it decides as the grammar does: what follows the name of a field in a
comparison never follows a constant.
-/

namespace RecordQuery
namespace Parser

open Text Grammar

/-! ## What follows a constant -/

theorem begins_nil_nil_iff {text : List Char} : Begins [] text [] ↔ skipBlank text = [] := by
  constructor
  · rintro ⟨blanks, blank, rfl⟩
    rw [List.append_nil, List.append_nil]
    exact List.dropWhile_eq_nil_iff.mpr blank
  · intro empty
    have stripped := begins_nil_skipBlank text
    rwa [empty] at stripped

theorem solid_joiner (connective : Connective) : Solid (joiner connective).toList := by
  cases connective <;> decide

theorem solid_constantWord (value : Bool) : Solid (constantWord value).toList := by
  cases value <;> decide

theorem endsOperand_skipBlank_iff {text : List Char} :
    endsOperand (skipBlank text) = true ↔ FollowsConstant text := by
  have joins : ((keyword? "and" (skipBlank text)).isSome ||
      (keyword? "or" (skipBlank text)).isSome) = true ↔
        ∃ connective after, Keyword (joiner connective) text after := by
    simp only [Bool.or_eq_true, Option.isSome_iff_exists]
    constructor
    · rintro (⟨after, word⟩ | ⟨after, word⟩)
      · exact ⟨.and, after, (keyword?_skipBlank_eq_some_iff (solid_joiner .and)).mp word⟩
      · exact ⟨.or, after, (keyword?_skipBlank_eq_some_iff (solid_joiner .or)).mp word⟩
    · rintro ⟨connective, after, word⟩
      have scanned := (keyword?_skipBlank_eq_some_iff (solid_joiner connective)).mpr word
      cases connective with
      | and => exact .inl ⟨after, scanned⟩
      | or => exact .inr ⟨after, scanned⟩
  have closes : (∃ after, Begins [')'] text after) ↔ ∃ after, skipBlank text = ')' :: after := by
    simp only [begins_iff (show Solid [')'] by decide), List.singleton_append]
  rw [FollowsConstant, begins_nil_nil_iff, closes, ← joins]
  unfold endsOperand
  split
  · rename_i empty
    simp [empty]
  · rename_i closed
    simp [closed]
  · rename_i notEmpty notClosed
    constructor
    · exact fun joined => .inr (.inr joined)
    · rintro (empty | ⟨after, closed⟩ | joined)
      · exact absurd empty notEmpty
      · exact absurd closed (notClosed after)
      · exact joined

theorem not_followsConstant_of_leads {c : Char} {front text : List Char}
    (leads : Leads (c :: front) text) (other : c ≠ ')' ∧ c ≠ 'a' ∧ c ≠ 'o') :
    ¬ FollowsConstant text := by
  rintro (empty | ⟨after, closed⟩ | ⟨connective, after, word⟩)
  · rw [Leads, begins_nil_nil_iff.mp empty] at leads
    simp at leads
  · rw [begins_iff (show Solid [')'] by decide)] at closed
    exact leads.skipBlank_ne_cons (fun same => other.1 (same.symm.trans rfl)) closed
  · have first := word.leads (solid_joiner connective)
    obtain ⟨tail, same⟩ := leads
    obtain ⟨tail', same'⟩ := first
    rw [← same] at same'
    cases connective with
    | and => exact other.2.1 (List.cons.inj same').1.symm
    | or => exact other.2.2 (List.cons.inj same').1.symm

/-- A condition begins with a sign or one of four keywords. -/
theorem not_followsConstant_of_spellsCondition {condition : Condition} {text rest : List Char}
    (spells : SpellsCondition condition text rest) : ¬ FollowsConstant text := by
  cases spells with
  | @relates relation _ _ _ _ sign =>
      have leads := sign.leads (solid_symbol relation)
      cases relation <;> exact not_followsConstant_of_leads leads (by decide)
  | @finds test _ _ _ _ words =>
      cases test with
      | contains =>
          cases words with
          | cons first => exact not_followsConstant_of_leads (first.leads (by decide)) (by decide)
      | notContains =>
          cases words with
          | cons first => exact not_followsConstant_of_leads (first.leads (by decide)) (by decide)
      | beginsWith =>
          cases words with
          | cons first => exact not_followsConstant_of_leads (first.leads (by decide)) (by decide)
  | between introduced =>
      exact not_followsConstant_of_leads (introduced.leads (by decide)) (by decide)

/-! ## Constants -/

theorem readConstant?_skipBlank_eq_some_iff {predicate : Predicate} {text rest : List Char} :
    readConstant? (skipBlank text) = some (predicate, rest) ↔
      ∃ value middle, predicate = .constant value ∧ Keyword (constantWord value) text middle ∧
        FollowsConstant middle ∧ skipBlank middle = rest := by
  have scans (value : Bool) (middle : List Char) :
      keyword? (constantWord value) (skipBlank text) = some middle ↔
        Keyword (constantWord value) text middle :=
    keyword?_skipBlank_eq_some_iff (solid_constantWord value)
  have allScans := scans true
  have noneScans := scans false
  rw [readConstant?]
  rw [Option.filter_eq_some_iff]
  constructor
  · rintro ⟨found, closed⟩
    rcases Option.or_eq_some_iff.mp found with all | ⟨-, none⟩
    · obtain ⟨middle, word, same⟩ := Option.map_eq_some_iff.mp all
      obtain ⟨rfl, rfl⟩ := Prod.mk.inj same
      exact ⟨true, middle, rfl, (allScans middle).mp word, endsOperand_skipBlank_iff.mp closed, rfl⟩
    · obtain ⟨middle, word, same⟩ := Option.map_eq_some_iff.mp none
      obtain ⟨rfl, rfl⟩ := Prod.mk.inj same
      exact ⟨false, middle, rfl, (noneScans middle).mp word, endsOperand_skipBlank_iff.mp closed,
        rfl⟩
  · rintro ⟨value, middle, rfl, word, closed, rfl⟩
    refine ⟨?_, endsOperand_skipBlank_iff.mpr closed⟩
    cases value with
    | true =>
        rw [show keyword? "all" (skipBlank text) = some middle from (allScans middle).mpr word]
        rfl
    | false =>
        have noAll : keyword? "all" (skipBlank text) = none :=
          keyword?_eq_none_of_leads (solid_constantWord true)
            (word.leads (solid_constantWord false)) (by decide)
        rw [noAll,
          show keyword? "none" (skipBlank text) = some middle from (noneScans middle).mpr word]
        rfl

/-! ## Keywords at the start of a name -/

/-- A small letter and its capital are characters of names. -/
def isNameLetter (letter : Char) : Bool :=
  isNameCharacter letter && isNameCharacter (Char.ofNat (letter.toNat - 32))

/-- The characters of a keyword are those of the lower-case word or their capitals. -/
theorem spelled_inside {spelled word : List Char} (lower : spelled.map Char.toLower = word)
    (letters : word.all isNameLetter = true) : ∀ c ∈ spelled, isNameCharacter c = true := by
  subst lower
  intro c inside
  have either : isNameLetter c.toLower = true :=
    List.all_eq_true.mp letters c.toLower (List.mem_map_of_mem inside)
  rw [isNameLetter, Bool.and_eq_true] at either
  rcases eq_of_toLower (rfl : c.toLower = c.toLower) with same | same
  · rw [same]
    exact either.1
  · rw [same]
    exact either.2

/-- Of the characters that end a keyword, the dash alone continues a name. -/
theorem ends_continuesWord_iff {rest : List Char} :
    Ends continuesWord rest ↔ Ends isNameCharacter rest ∨ rest.head? = some '-' := by
  cases rest with
  | nil => simp [ends_nil]
  | cons c rest =>
      rw [ends_cons, ends_cons, List.head?_cons, Option.some.injEq]
      simp only [continuesWord, isNameCharacter, Bool.or_eq_false_iff, beq_eq_false_iff_ne]
      constructor
      · intro outside
        by_cases dash : c = '-'
        · exact .inr dash
        · exact .inl ⟨outside, dash⟩
      · rintro (outside | rfl)
        · exact outside.1
        · decide

/-- A keyword in front of a name ends with the name or before a dash in it. -/
theorem name_eq_of_keyword {word : String} {name text middle after : List Char}
    (solid : Solid word.toList)
    (letters : word.toList.all isNameLetter = true)
    (named : Run isNameCharacter name text middle) (keyword : Keyword word text after) :
    ∃ spelled more, spelled.map Char.toLower = word.toList ∧ name = spelled ++ more ∧
      after = more ++ middle ∧ (more = [] ∨ more.head? = some '-') := by
  obtain ⟨nonempty, inside, begins, ends⟩ := named
  obtain ⟨spelled, lower, scanned, wordEnds⟩ := keyword
  have spelledInside := spelled_inside lower letters
  have same : name ++ middle = spelled ++ after := by
    have nameSolid : Solid name := by
      cases name with
      | nil => exact absurd rfl nonempty
      | cons c name => exact isBlank_of_isNameCharacter (inside c List.mem_cons_self)
    rw [← (begins_iff nameSolid text middle).mp begins,
      (begins_iff (solid_of_toLower lower solid) text after).mp scanned]
  rcases List.append_eq_append_iff.mp same with ⟨more, spelled_eq, middle_eq⟩ | ⟨more, name_eq, after_eq⟩
  · cases more with
    | nil =>
        refine ⟨spelled, [], lower, by simpa using spelled_eq.symm, by simpa using middle_eq.symm, ?_⟩
        exact .inl rfl
    | cons c more =>
        have outside : isNameCharacter c = false := ends c (by simp [middle_eq])
        rw [spelledInside c (by simp [spelled_eq])] at outside
        contradiction
  · refine ⟨spelled, more, lower, name_eq, after_eq, ?_⟩
    cases more with
    | nil => exact .inl rfl
    | cons c more =>
        have named : isNameCharacter c = true := inside c (by simp [name_eq])
        rw [after_eq, ends_continuesWord_iff] at wordEnds
        rcases wordEnds with outside | dash
        · rw [ends_cons.mp outside] at named
          cases named
        · exact .inr dash

/-- A name is not read as a constant if what follows it cannot follow a constant. -/
theorem readConstant?_skipBlank_eq_none {name text middle : List Char}
    (named : Run isNameCharacter name text middle) (opened : ¬ FollowsConstant middle) :
    readConstant? (skipBlank text) = none := by
  cases constant : readConstant? (skipBlank text) with
  | none => rfl
  | some result =>
      obtain ⟨value, after, -, word, closed, -⟩ :=
        readConstant?_skipBlank_eq_some_iff.mp constant
      have letters : (constantWord value).toList.all isNameLetter = true := by
        cases value <;> decide
      obtain ⟨-, more, -, -, rfl, ended⟩ :=
        name_eq_of_keyword (solid_constantWord value) letters named word
      rcases ended with rfl | dash
      · exact absurd closed opened
      · obtain ⟨tail, rfl⟩ := List.head?_eq_some_iff.mp dash
        have leads : Leads ['-'] ('-' :: tail ++ middle) := by
          rw [Leads, List.cons_append, skipBlank_cons rfl]
          exact ⟨_, rfl⟩
        exact absurd closed (not_followsConstant_of_leads leads (by decide))

/-! ## Comparisons -/

theorem readComparison_eq_ok_iff {predicate : Predicate} {text rest : List Char} :
    readComparison text = .ok (predicate, rest) ↔
      ∃ field condition middle, predicate = .compare field condition ∧
        Run isNameCharacter field.toList text middle ∧ SpellsCondition condition middle rest := by
  simp only [readComparison, bind_eq_ok_iff]
  constructor
  · rintro ⟨⟨field, middle⟩, named, ⟨condition, after⟩, conditioned, same⟩
    obtain ⟨rfl, rfl⟩ := Prod.mk.inj (Except.ok.inj same)
    exact ⟨field, condition, middle, rfl, readName_eq_ok_iff.mp named,
      readCondition_eq_ok_iff.mp conditioned⟩
  · rintro ⟨field, condition, middle, rfl, named, conditioned⟩
    exact ⟨(field, middle), readName_eq_ok_iff.mpr named, (condition, rest),
      readCondition_eq_ok_iff.mpr conditioned, rfl⟩

end Parser
end RecordQuery
