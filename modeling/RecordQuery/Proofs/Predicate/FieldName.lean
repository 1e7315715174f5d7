import RecordQuery.Proofs.Predicate.Refusal

/-!
# Queries for a field by its name

A dash continues a name, and it ends a keyword.  A keyword is therefore found where the run of name
characters is that word, and also where the run goes on after the word with a dash.  Most readers of
keywords do not mind: `all-x = 1` compares a field, for no constant goes on like that.  A negation
is taken without a look at what follows, so that `not-x = 1` negates a comparison of the field `-x`.
Apart from the word `not` itself, no other name is read otherwise than it is written.
-/

namespace RecordQuery

open Text Grammar RecordQuery.Parser

/-! ## Operands that are read back -/

/-- The literal of the value is read as that value and nothing after it. -/
def Value.ReadsBack (value : Value) : Prop :=
  readValue value.literal = .ok (value, [])

namespace Value

instance (value : Value) : Decidable value.ReadsBack :=
  inferInstanceAs (Decidable (readValue value.literal = .ok (value, [])))

theorem ReadsBack.hasLiteral {value : Value} (back : value.ReadsBack) : value.HasLiteral := by
  by_contra without
  have spelled := (readValue_eq_ok_iff.mp back).space
  have refused := not_spellsOperand_literal without delimits_nil.closes value []
  rw [List.append_nil] at refused
  exact refused spelled

theorem ReadsBack.reread {value : Value} (back : value.ReadsBack) : value.reread = value := by
  have spelled := spellsOperand_literal back.hasLiteral delimits_nil.closes
  rw [List.append_nil, ← readValue_eq_ok_iff, back] at spelled
  exact (Prod.mk.inj (Except.ok.inj spelled)).1.symm

end Value

/-! ## Where a keyword is found -/

namespace Parser

/-- Where a run of name characters goes on after a word with a dash, the dash is in the run. -/
theorem exists_dash_of_prefix {word run : List Char}
    (characters : ∀ c ∈ run, isNameCharacter c = true)
    (front : word ++ ['-'] <+: run.map Char.toLower) :
    ∃ spelled tail, run = spelled ++ '-' :: tail ∧ spelled.map Char.toLower = word := by
  obtain ⟨more, front⟩ := front
  rw [List.append_assoc, List.singleton_append, eq_comm, List.map_eq_append_iff] at front
  obtain ⟨spelled, further, rfl, lower, furtherLower⟩ := front
  obtain ⟨c, tail, rfl, dash, -⟩ := List.map_eq_cons_iff.mp furtherLower
  have inside : isNameCharacter c = true := characters c (by simp)
  rcases eq_of_toLower dash with rfl | rfl
  · exact ⟨spelled, tail, rfl, lower⟩
  · exact absurd inside (by decide)

/-- A word of letters is found as a keyword where the run of name characters is the word, in any
letter case, or goes on after it with a dash. -/
theorem isSome_keyword?_iff {word : String} (letters : word.toList.all isNameLetter = true)
    (text : List Char) :
    (keyword? word text).isSome = true ↔
      (text.takeWhile isNameCharacter).map Char.toLower = word.toList ∨
        word.toList ++ ['-'] <+: (text.takeWhile isNameCharacter).map Char.toLower := by
  simp only [Option.isSome_iff_exists, keyword?_eq_some_iff]
  constructor
  · rintro ⟨rest, spelled, lower, rfl, ends⟩
    have inside := spelled_inside lower letters
    rcases ends_continuesWord_iff.mp ends with outside | dash
    · rw [takeWhile_append_of_ends inside outside]
      exact .inl lower
    · obtain ⟨tail, rfl⟩ := List.head?_eq_some_iff.mp dash
      rw [List.takeWhile_append_of_pos inside, List.takeWhile_cons_of_pos rfl, List.map_append,
        lower]
      exact .inr (by simp)
  · have whole : text = text.takeWhile isNameCharacter ++ text.dropWhile isNameCharacter :=
      List.takeWhile_append_dropWhile.symm
    rintro (same | front)
    · exact ⟨_, _, same, whole, ends_continuesWord_iff.mpr (.inl (ends_dropWhile _ text))⟩
    · obtain ⟨spelled, tail, run_eq, lower⟩ :=
        exists_dash_of_prefix (fun c taken => List.mem_takeWhile_imp taken) front
      rw [run_eq, List.append_assoc] at whole
      exact ⟨_, spelled, lower, whole, ends_continuesWord_iff.mpr (.inr rfl)⟩

end Parser

/-! ## Names -/

/-- The name goes on after `not`, in any letter case, with a dash. -/
def IsDashedNegation (name : String) : Prop :=
  "not".toList ++ ['-'] <+: name.toList.map Char.toLower

instance (name : String) : Decidable (IsDashedNegation name) :=
  inferInstanceAs (Decidable (_ <+: _))

theorem isFieldName_of_not_isDashedNegation {name : String} (nonempty : name.toList ≠ [])
    (characters : ∀ c ∈ name.toList, isNameCharacter c = true)
    (noNegation : name.toList.map Char.toLower ≠ "not".toList)
    (noDash : ¬ IsDashedNegation name) : IsFieldName name := by
  refine ⟨nonempty, characters, fun lower => ?_⟩
  have whole : (name.toList.take 3).map Char.toLower ++ (name.toList.drop 3).map Char.toLower =
      name.toList.map Char.toLower := by
    rw [← List.map_append, List.take_append_drop]
  rw [lower] at whole
  constructor
  · intro nothing
    rw [nothing, List.map_nil, List.append_nil] at whole
    exact noNegation whole.symm
  · intro dash
    obtain ⟨tail, back⟩ := List.head?_eq_some_iff.mp dash
    refine noDash ⟨tail.map Char.toLower, ?_⟩
    rw [← whole, back]
    rfl

/-- A name that begins with a dash is not read as a negation. -/
theorem isFieldName_of_dash {tail : List Char}
    (characters : ∀ c ∈ '-' :: tail, isNameCharacter c = true) :
    IsFieldName (String.ofList ('-' :: tail)) := by
  constructor <;> rw [String.toList_ofList]
  · exact List.cons_ne_nil _ _
  · exact characters
  · simp

namespace Predicate

theorem readQuery_compare {name : String} (named : IsFieldName name) {condition : Condition}
    (readBack : ∀ operand ∈ condition.operands, operand.ReadsBack) :
    Parser.readQuery (compare name condition).text = .ok (compare name condition) := by
  have printable : (compare name condition).Printable :=
    .compare named fun operand member => (readBack operand member).hasLiteral
  rw [readQuery_text printable, tree, Tree.meaning,
    Condition.reread_eq_self fun operand member => (readBack operand member).reread]

/-- After `not` and a dash the rest of a name is read as a name of its own, under a negation. -/
theorem readQuery_compare_of_isDashedNegation {name : String}
    (characters : ∀ c ∈ name.toList, isNameCharacter c = true)
    (dashed : IsDashedNegation name) {condition : Condition}
    (readBack : ∀ operand ∈ condition.operands, operand.ReadsBack) :
    Parser.readQuery (compare name condition).text =
      .ok (negation (compare (String.ofList (name.toList.drop 3)) condition)) := by
  obtain ⟨spelled, tail, name_eq, lower⟩ := exists_dash_of_prefix characters dashed
  have three : spelled.length = 3 := by simpa using congrArg List.length lower
  have rest_eq : name.toList.drop 3 = '-' :: tail := by rw [name_eq, ← three, List.drop_left]
  have named : IsFieldName (String.ofList ('-' :: tail)) :=
    isFieldName_of_dash fun c member => characters c (name_eq ▸ List.mem_append_right _ member)
  have inner := spells_text (.compare named fun operand member =>
    (readBack operand member).hasLiteral) delimits_nil
  rw [List.append_nil] at inner
  have text_eq : (compare name condition).text =
      spelled ++ (compare (String.ofList ('-' :: tail)) condition).text := by
    show name.toList ++ ' ' :: condition.text =
      spelled ++ ((String.ofList ('-' :: tail)).toList ++ ' ' :: condition.text)
    rw [String.toList_ofList, name_eq, List.append_assoc]
  have stops : Ends continuesWord (compare (String.ofList ('-' :: tail)) condition).text := by
    show Ends continuesWord ((String.ofList ('-' :: tail)).toList ++ ' ' :: condition.text)
    rw [String.toList_ofList]
    exact ends_cons.mpr rfl
  have word : Keyword "not" (compare name condition).text _ :=
    ⟨spelled, lower, text_eq ▸ begins_append spelled _, stops⟩
  have negated : Spells .unit (.negation (compare (String.ofList ('-' :: tail)) condition).tree)
      (compare name condition).text [] := .negation word inner
  have same : condition.reread = condition :=
    Condition.reread_eq_self fun operand member => (readBack operand member).reread
  rw [readQuery_of_spells negated, rest_eq, tree, same]
  rfl

/-- A comparison is read back from its text for every name of name characters but the word `not`,
unless the name goes on after `not` with a dash: then it is read as the negation of a comparison of
the rest.  The reason is where keywords are found, which is before a dash within a run of name
characters as well as at the end of the run. -/
theorem parse_toString_compare {name : String} {condition : Condition} (nonempty : name.toList ≠ [])
    (characters : ∀ c ∈ name.toList, isNameCharacter c = true)
    (noNegation : name.toList.map Char.toLower ≠ "not".toList)
    (readBack : ∀ operand ∈ condition.operands, operand.ReadsBack) :
    parse (toString (compare name condition)) =
        .ok (if IsDashedNegation name then
          negation (compare (String.ofList (name.toList.drop 3)) condition)
        else compare name condition) ∧
      ∀ word : String, word.toList.all isNameLetter = true → ∀ text,
        (keyword? word text).isSome = true ↔
          (text.takeWhile isNameCharacter).map Char.toLower = word.toList ∨
            word.toList ++ ['-'] <+: (text.takeWhile isNameCharacter).map Char.toLower := by
  refine ⟨?_, fun word letters => isSome_keyword?_iff letters⟩
  rw [parse_toString_eq_ok_iff]
  split
  · rename_i dashed
    exact readQuery_compare_of_isDashedNegation characters dashed readBack
  · rename_i noDash
    have named := isFieldName_of_not_isDashedNegation nonempty characters noNegation noDash
    exact readQuery_compare named readBack

/-- A range from an int to a text, as a condition. -/
def looseRange : Condition := .between (.int (-1)) (.string "not-x")

theorem parse_toString_compare_looseRange :
    (∀ operand ∈ looseRange.operands, operand.ReadsBack) ∧
      parse (toString (compare "all-not" looseRange)) = .ok (compare "all-not" looseRange) ∧
      parse (toString (compare "Not-before" looseRange)) =
        .ok (negation (compare "-before" looseRange)) := by
  have readBack : ∀ operand ∈ looseRange.operands, operand.ReadsBack := by decide
  have all : ∀ c ∈ "all-not".toList, isNameCharacter c = true := List.all_eq_true.mp (by decide)
  have before : ∀ c ∈ "Not-before".toList, isNameCharacter c = true :=
    List.all_eq_true.mp (by decide)
  exact ⟨readBack, (parse_toString_compare (by decide) all (by decide) readBack).1,
    (parse_toString_compare (by decide) before (by decide) readBack).1⟩

/-- A field can be named like the negation of another one: its comparisons are not read back. -/
theorem parse_toString_notX :
    "not-x".toList ≠ [] ∧ (∀ c ∈ "not-x".toList, isNameCharacter c = true) ∧
      "not-x".toList.map Char.toLower ≠ "not".toList ∧ (Value.int 1).ReadsBack ∧
      parse (toString (compare "not-x" (.relates .eq (.int 1)))) ≠
        .ok (compare "not-x" (.relates .eq (.int 1))) := by
  refine ⟨by decide, List.all_eq_true.mp (by decide), by decide, by decide, fun read => ?_⟩
  have other : parse (toString (compare "not-x" (.relates .eq (.int 1)))) =
      .ok (negation (compare "-x" (.relates .eq (.int 1)))) := by rfl
  rw [other] at read
  cases read

end Predicate
end RecordQuery
