import RecordQuery.Proofs.Grammar.Tree
import RecordQuery.Proofs.Text.Quoted
import RecordQuery.Proofs.Value.Refusal

/-!
# Reading comparisons and constants

Each reader of a leaf accepts exactly what the grammar says the leaf may be, and leaves what the
grammar leaves.  What has to be shown besides the scanning is that no alternative tried earlier
takes a text from a later one: the alternatives lead in different ways.
-/

namespace RecordQuery
namespace Parser

open Text Grammar

theorem solid_quote (inside : List Char) : Solid (quote inside) := by
  show isBlank '"' = false
  decide

/-! ## Names and strings -/

theorem readName_eq_ok_iff {name : String} {text rest : List Char} :
    readName text = .ok (name, rest) ↔ Run isNameCharacter name.toList text rest := by
  rw [run_iff (fun _ => isBlank_of_isNameCharacter)]
  simp only [readName]
  constructor
  · intro read
    split at read
    · simp at read
    · rename_i nonempty
      obtain ⟨rfl, rfl⟩ := Prod.mk.inj (Except.ok.inj read)
      rw [String.toList_ofList]
      exact ⟨by simpa using nonempty, rfl, rfl⟩
  · rintro ⟨nonempty, taken, rfl⟩
    rw [if_neg (by simpa [taken] using nonempty), taken, String.ofList_toList]

theorem readStringEnd_eq_ok_iff {inside : String} {text rest : List Char} :
    readStringEnd text = .ok (inside, rest) ↔ text = escape inside.toList ++ '"' :: rest := by
  rw [← readQuoted_eq_ok_iff]
  rw [readStringEnd]
  constructor
  · intro read
    split at read
    · rename_i quoted
      obtain ⟨rfl, rfl⟩ := Prod.mk.inj (Except.ok.inj read)
      rw [String.toList_ofList, quoted]
    · simp at read
    · simp at read
  · intro quoted
    rw [quoted]
    simp

theorem begins_quote_iff {inside text rest : List Char} :
    Begins (quote inside) text rest ↔ skipBlank text = '"' :: (escape inside ++ '"' :: rest) := by
  rw [begins_iff (solid_quote inside), quote]
  simp

theorem readString_eq_ok_iff {inside : String} {text rest : List Char} :
    readString text = .ok (inside, rest) ↔ Begins (quote inside.toList) text rest := by
  rw [begins_quote_iff]
  rw [readString]
  constructor
  · intro read
    split at read
    · rename_i opened
      rw [opened, readStringEnd_eq_ok_iff.mp read]
    · simp at read
  · intro uncovered
    rw [uncovered]
    exact readStringEnd_eq_ok_iff.mpr rfl

/-! ## Operands -/

theorem readScalar_skipBlank_eq_ok_iff {value : Value} {text rest : List Char} :
    readScalar (skipBlank text) = .ok (value, rest) ↔
      ∃ run, Run isScalarCharacter run text rest ∧ Value.ofScalar? run = some value := by
  simp only [run_iff (fun _ => isBlank_of_isScalarCharacter)]
  simp only [readScalar]
  constructor
  · intro read
    split at read
    · simp at read
    · rename_i nonempty
      split at read
      · rename_i denotes
        obtain ⟨rfl, rfl⟩ := Prod.mk.inj (Except.ok.inj read)
        exact ⟨_, ⟨by simpa using nonempty, rfl, rfl⟩, denotes⟩
      · simp at read
  · rintro ⟨run, ⟨nonempty, rfl, rfl⟩, denotes⟩
    simp [nonempty, denotes]

/-- No operand begins like one of the words for a Boolean unless it is that Boolean. -/
theorem ofScalar?_eq_none_of_leads {run text rest : List Char}
    (scalar : Run isScalarCharacter run text rest)
    (leads : Leads "true".toList text ∨ Leads "false".toList text) :
    Value.ofScalar? run = none := by
  obtain ⟨c, tail, rfl, -, uncovered⟩ :=
    scalar.exists_skipBlank_eq fun _ => isBlank_of_isScalarCharacter
  apply Value.ofScalar?_eq_none_of_letter
  rw [Leads, Leads, uncovered] at leads
  rcases leads with ⟨front, leads⟩ | ⟨front, leads⟩
  · have lower : c.toLower = 't' := (List.cons.inj leads).1.symm
    rcases eq_of_toLower lower with rfl | rfl <;> decide
  · have lower : c.toLower = 'f' := (List.cons.inj leads).1.symm
    rcases eq_of_toLower lower with rfl | rfl <;> decide

theorem readBool?_skipBlank_eq_some_iff {value : Value} {text rest : List Char} :
    readBool? (skipBlank text) = some (value, rest) ↔
      (value = .bool true ∧ Keyword "true" text rest) ∨
        (value = .bool false ∧ Keyword "false" text rest) := by
  have trueSolid : Solid "true".toList := by decide
  have falseSolid : Solid "false".toList := by decide
  rw [← keyword?_skipBlank_eq_some_iff trueSolid, ← keyword?_skipBlank_eq_some_iff falseSolid]
  unfold readBool?
  cases first : keyword? "true" (skipBlank text) with
  | none =>
      simp only [Option.map_none, Option.none_or, Option.map_eq_some_iff, Prod.mk.injEq,
        reduceCtorEq, and_false, false_or]
      constructor
      · rintro ⟨after, second, rfl, rfl⟩
        exact ⟨rfl, second⟩
      · rintro ⟨rfl, second⟩
        exact ⟨rest, second, rfl, rfl⟩
  | some after =>
      have leads := ((keyword?_skipBlank_eq_some_iff trueSolid).mp first).leads trueSolid
      rw [keyword?_eq_none_of_leads falseSolid leads (by decide)]
      simp [eq_comm]

/-- What denotes a value as a run of scalar characters is no Boolean. -/
theorem readBool?_eq_none_of_scalar {run text rest : List Char} {value : Value}
    (found : Run isScalarCharacter run text rest) (denotes : Value.ofScalar? run = some value) :
    readBool? (skipBlank text) = none := by
  cases boolean : readBool? (skipBlank text) with
  | none => rfl
  | some result =>
      have leads : Leads "true".toList text ∨ Leads "false".toList text := by
        rcases readBool?_skipBlank_eq_some_iff.mp boolean with ⟨-, word⟩ | ⟨-, word⟩
        · exact .inl (word.leads rfl)
        · exact .inr (word.leads rfl)
      rw [ofScalar?_eq_none_of_leads found leads] at denotes
      cases denotes

/-- Without a quote at the start, an operand is a Boolean or else a run of scalar characters. -/
theorem readValue_of_unquoted {text : List Char}
    (unquoted : ∀ inside, skipBlank text ≠ '"' :: inside) :
    readValue text = match readBool? (skipBlank text) with
      | some result => .ok result
      | none => readScalar (skipBlank text) := by
  rw [readValue]
  split
  · rename_i inside opened
    exact absurd opened (unquoted inside)
  · rfl

theorem spellsOperand_of_readValue {value : Value} {text rest : List Char}
    (read : readValue text = .ok (value, rest)) : SpellsOperand value text rest := by
  by_cases quoted : ∃ inside, skipBlank text = '"' :: inside
  · obtain ⟨inside, opened⟩ := quoted
    rw [readValue, opened] at read
    obtain ⟨⟨inside, after⟩, ended, same⟩ := map_eq_ok_iff.mp read
    obtain ⟨rfl, rfl⟩ := Prod.mk.inj same
    refine .string (begins_quote_iff.mpr ?_)
    rw [opened, readStringEnd_eq_ok_iff.mp ended]
  · rw [readValue_of_unquoted (not_exists.mp quoted)] at read
    cases boolean : readBool? (skipBlank text) with
    | some result =>
        rw [boolean] at read
        obtain rfl := Except.ok.inj read
        rcases readBool?_skipBlank_eq_some_iff.mp boolean with ⟨rfl, word⟩ | ⟨rfl, word⟩
        · exact .true word
        · exact .false word
    | none =>
        rw [boolean] at read
        obtain ⟨run, scalar, denotes⟩ := readScalar_skipBlank_eq_ok_iff.mp read
        exact .scalar scalar denotes

theorem readValue_of_spellsOperand {value : Value} {text rest : List Char}
    (spells : SpellsOperand value text rest) : readValue text = .ok (value, rest) := by
  cases spells with
  | string quoted =>
      rw [readValue, begins_quote_iff.mp quoted]
      exact map_eq_ok_iff.mpr ⟨_, readStringEnd_eq_ok_iff.mpr rfl, rfl⟩
  | true word =>
      have leads : Leads "true".toList text := word.leads rfl
      rw [readValue_of_unquoted fun _ => leads.skipBlank_ne_cons (by decide),
        readBool?_skipBlank_eq_some_iff.mpr (.inl ⟨rfl, word⟩)]
  | false word =>
      have leads : Leads "false".toList text := word.leads rfl
      rw [readValue_of_unquoted fun _ => leads.skipBlank_ne_cons (by decide),
        readBool?_skipBlank_eq_some_iff.mpr (.inr ⟨rfl, word⟩)]
  | scalar found denotes =>
      obtain ⟨c, tail, -, inside, uncovered⟩ :=
        found.exists_skipBlank_eq fun _ => isBlank_of_isScalarCharacter
      have unquoted : ∀ more, skipBlank text ≠ '"' :: more := by
        intro more opened
        rw [uncovered] at opened
        rw [(List.cons.inj opened).1] at inside
        exact absurd inside (by decide)
      rw [readValue_of_unquoted unquoted, readBool?_eq_none_of_scalar found denotes]
      exact readScalar_skipBlank_eq_ok_iff.mpr ⟨_, found, denotes⟩

/-- The reader of operands accepts the operands of the grammar. -/
theorem readValue_eq_ok_iff {value : Value} {text rest : List Char} :
    readValue text = .ok (value, rest) ↔ SpellsOperand value text rest :=
  ⟨spellsOperand_of_readValue, readValue_of_spellsOperand⟩

end Parser
end RecordQuery
