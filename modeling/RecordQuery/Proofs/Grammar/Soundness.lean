import RecordQuery.Proofs.Grammar.Primary

/-!
# What is read is a phrase

Every reader of the query language, given a text that is short enough for its fuel, reads only
phrases of its level.  The readers nest in the way the levels do, so there is one theorem for each
way to make a reader from another, and the recursion through parentheses is an induction on fuel.
-/

namespace RecordQuery
namespace Grammar

open Text RecordQuery.Parser

theorem solid_parenthesis : Solid ['('] ∧ Solid [')'] := by
  decide

/-! ## A phrase is a piece of the text -/

theorem Keyword.length_lt {word : String} {text rest : List Char} (solid : Solid word.toList)
    (keyword : Keyword word text rest) : rest.length < text.length := by
  obtain ⟨spelled, lower, begins, -⟩ := keyword
  have shorter := begins.length_le
  have nonempty : spelled ≠ [] := by
    rintro rfl
    exact solid_of_toLower lower solid
  have positive := List.length_pos_iff.mpr nonempty
  omega

theorem Run.length_lt {member : Char → Bool} {run text rest : List Char}
    (found : Run member run text rest) : rest.length < text.length := by
  obtain ⟨nonempty, -, begins, -⟩ := found
  have shorter := begins.length_le
  have positive := List.length_pos_iff.mpr nonempty
  omega

theorem SpellsOperand.length_le {value : Value} {text rest : List Char}
    (spells : SpellsOperand value text rest) : rest.length ≤ text.length := by
  cases spells with
  | string quoted => exact (Nat.le_add_left _ _).trans quoted.length_le
  | true word => exact (word.length_lt (by decide)).le
  | false word => exact (word.length_lt (by decide)).le
  | scalar found => exact found.length_lt.le

theorem Keywords.length_le {words : List String} {text rest : List Char}
    (keywords : Keywords words text rest) : rest.length ≤ text.length := by
  induction keywords with
  | nil => exact Nat.le_refl _
  | cons word _ ih =>
      obtain ⟨spelled, -, begins, -⟩ := word
      exact ih.trans ((Nat.le_add_left _ _).trans begins.length_le)

theorem SpellsCondition.length_le {condition : Condition} {text rest : List Char}
    (spells : SpellsCondition condition text rest) : rest.length ≤ text.length := by
  cases spells with
  | relates sign operand =>
      exact operand.length_le.trans ((Nat.le_add_left _ _).trans sign.length_le)
  | finds words literal =>
      exact ((Nat.le_add_left _ _).trans literal.length_le).trans words.length_le
  | between introduced lower joined upper =>
      have first := introduced.length_lt (by decide)
      have second := joined.length_lt (by decide)
      have lowerLength := lower.length_le
      have upperLength := upper.length_le
      omega

/-- A phrase takes at least one character. -/
theorem Spells.length_lt {level : Level} {tree : Tree} {text rest : List Char}
    (spells : Spells level tree text rest) : rest.length < text.length := by
  induction spells with
  | comparison named conditioned => exact conditioned.length_le.trans_lt named.length_lt
  | constant word _ => exact word.length_lt (solid_constantWord _)
  | parentheses opened _ closed ih =>
      have before := opened.length_le
      have after := closed.length_le
      simp only [List.length_singleton] at before after
      omega
  | negation word _ ih => exact ih.trans (word.length_lt (by decide))
  | primary _ _ ih => exact ih
  | single _ ih => exact ih
  | chain _ word _ earlier later =>
      exact (later.trans (word.length_lt (solid_joiner _))).trans earlier

/-! ## Blanks before a phrase -/

theorem keyword_congr {word : String} (solid : Solid word.toList) {text text' rest : List Char}
    (same : skipBlank text = skipBlank text') (keyword : Keyword word text rest) :
    Keyword word text' rest := by
  rw [← keyword?_skipBlank_eq_some_iff solid] at keyword ⊢
  rw [← same, keyword]

theorem run_congr {member : Char → Bool} (solid : ∀ c, member c = true → isBlank c = false)
    {run text text' rest : List Char} (same : skipBlank text = skipBlank text')
    (found : Run member run text rest) : Run member run text' rest := by
  rw [run_iff solid] at found ⊢
  rw [← same]
  exact found

/-- Whether a phrase begins a text does not depend on the blanks before it. -/
theorem Spells.congr {level : Level} {tree : Tree} {text text' rest : List Char}
    (same : skipBlank text = skipBlank text') (spells : Spells level tree text rest) :
    Spells level tree text' rest := by
  induction spells generalizing text' with
  | comparison named conditioned =>
      exact .comparison (run_congr (fun _ => isBlank_of_isNameCharacter) same named) conditioned
  | constant word closed =>
      exact .constant (keyword_congr (solid_constantWord _) same word) closed
  | parentheses opened inner closed _ =>
      exact .parentheses (begins_congr solid_parenthesis.1 same opened) inner closed
  | negation word inner _ => exact .negation (keyword_congr (by decide) same word) inner
  | primary noNegation _ ih =>
      exact .primary
        (fun after word => noNegation after (keyword_congr (by decide) same.symm word)) (ih same)
  | single _ ih => exact .single (ih same)
  | chain _ word later ih _ => exact .chain (ih same) word later

/-! ## Soundness of the readers -/

/-- On texts shorter than the bound, what the reader reads is a phrase of the level, and what it
leaves is what the phrase leaves, apart from blanks. -/
def Sound (level : Level) (bound : Nat) (reader : Reader Predicate) : Prop :=
  ∀ text predicate rest, text.length < bound → reader text = .ok (predicate, rest) →
    ∃ tree middle, Spells level tree text middle ∧ tree.meaning = predicate ∧
      skipBlank middle = skipBlank rest

theorem sound_readOperand {bound : Nat} {inner : Reader Predicate}
    (innerSound : Sound (.chain .or) bound inner) :
    Sound .primary (bound + 1) (readOperand inner) := by
  intro text predicate rest short read
  unfold readOperand at read
  split at read
  · rename_i inside opened
    obtain ⟨⟨found, last⟩, innerRead, read⟩ := bind_eq_ok_iff.mp read
    have opening : Begins ['('] text inside := (begins_iff solid_parenthesis.1 _ _).mpr opened
    have shorter := opening.length_le
    simp only [List.length_singleton] at shorter
    obtain ⟨tree, middle, spelled, rfl, left⟩ := innerSound inside found last (by omega) innerRead
    simp only at read
    split at read
    · rename_i closed
      obtain ⟨rfl, rfl⟩ := Prod.mk.inj (Except.ok.inj read)
      have closing : Begins [')'] middle _ :=
        (begins_iff solid_parenthesis.2 _ _).mpr (left.trans closed)
      exact ⟨.parentheses tree, _, .parentheses opening spelled closing, rfl, rfl⟩
    · simp at read
  · split at read
    · rename_i constant
      rw [Except.ok.inj read] at constant
      obtain ⟨value, middle, rfl, word, closed, rfl⟩ :=
        readConstant?_skipBlank_eq_some_iff.mp constant
      exact ⟨.constant value, middle, .constant word closed, rfl, (skipBlank_skipBlank _).symm⟩
    · obtain ⟨field, condition, middle, rfl, named, conditioned⟩ :=
        readComparison_eq_ok_iff.mp read
      have spelled : Spells .primary (.comparison field condition) (skipBlank text) rest :=
        .comparison named conditioned
      exact ⟨_, rest, spelled.congr (skipBlank_skipBlank text), rfl, rfl⟩

theorem sound_readNegations {bound fuel : Nat} {operand : Reader Predicate}
    (enough : bound ≤ fuel + 1) (operandSound : Sound .primary bound operand) :
    Sound .unit bound (readNegations operand fuel) := by
  have solid : Solid "not".toList := by decide
  intro text predicate rest short
  have fits : text.length ≤ fuel := by omega
  clear enough
  induction fuel generalizing text predicate with
  | zero =>
      intro read
      obtain ⟨tree, middle, spelled, meaning, left⟩ := operandSound text predicate rest short read
      refine ⟨tree, middle, .primary (fun after word => ?_) spelled, meaning, left⟩
      have shorter := word.length_lt solid
      omega
  | succ fuel ih =>
      intro read
      unfold readNegations at read
      split at read
      · rename_i after word
        have negated := (keyword?_skipBlank_eq_some_iff solid).mp word
        have shorter := negated.length_lt solid
        obtain ⟨⟨found, last⟩, innerRead, same⟩ := bind_eq_ok_iff.mp read
        obtain ⟨rfl, rfl⟩ := Prod.mk.inj (Except.ok.inj same)
        obtain ⟨tree, middle, spelled, rfl, left⟩ :=
          ih after found (by omega) (by omega) innerRead
        exact ⟨.negation tree, middle, .negation negated spelled, rfl, left⟩
      · rename_i noWord
        obtain ⟨tree, middle, spelled, meaning, left⟩ := operandSound text predicate rest short read
        refine ⟨tree, middle, .primary (fun after word => ?_) spelled, meaning, left⟩
        rw [(keyword?_skipBlank_eq_some_iff solid).mpr word] at noWord
        contradiction

/-- The parts read after a chain make a longer chain. -/
theorem sound_readLater {connective : Connective} {bound fuel : Nat} {part : Reader Predicate}
    (partSound : Sound (partLevel connective) bound part) {text : List Char}
    (short : text.length < bound) {earlier : Tree} {middle : List Char}
    (spelled : Spells (.chain connective) earlier text middle) {unread : List Char}
    (same : skipBlank middle = skipBlank unread) {predicate : Predicate} {rest : List Char}
    (read : readLater connective part fuel earlier.meaning unread = .ok (predicate, rest)) :
    ∃ tree last, Spells (.chain connective) tree text last ∧ tree.meaning = predicate ∧
      skipBlank last = skipBlank rest := by
  have solid := solid_joiner connective
  induction fuel generalizing earlier middle unread with
  | zero =>
      obtain ⟨rfl, rfl⟩ := Prod.mk.inj (Except.ok.inj read)
      exact ⟨earlier, middle, spelled, rfl, same.trans (skipBlank_skipBlank unread).symm⟩
  | succ fuel ih =>
      unfold readLater at read
      split at read
      · rename_i after word
        rw [← same] at word
        have joined := (keyword?_skipBlank_eq_some_iff solid).mp word
        have shorter := (joined.length_lt solid).trans spelled.length_lt
        obtain ⟨⟨found, last⟩, partRead, read⟩ := bind_eq_ok_iff.mp read
        obtain ⟨later, afterLater, laterSpelled, rfl, left⟩ :=
          partSound after found last (by omega) partRead
        exact ih (.chain spelled joined laterSpelled) left read
      · obtain ⟨rfl, rfl⟩ := Prod.mk.inj (Except.ok.inj read)
        exact ⟨earlier, middle, spelled, rfl, same.trans (skipBlank_skipBlank unread).symm⟩

theorem sound_readChain {connective : Connective} {bound : Nat} (fuel : Nat)
    {part : Reader Predicate} (partSound : Sound (partLevel connective) bound part) :
    Sound (.chain connective) bound (readChain connective part fuel) := by
  intro text predicate rest short read
  obtain ⟨⟨first, last⟩, firstRead, read⟩ := bind_eq_ok_iff.mp read
  obtain ⟨tree, middle, spelled, rfl, left⟩ := partSound text first last short firstRead
  exact sound_readLater partSound short (.single spelled) left read

/-- A whole expression with fuel for its length is a chain of conjunctions. -/
theorem sound_readExpression (fuel : Nat) : Sound (.chain .or) fuel (readExpression fuel) := by
  induction fuel with
  | zero =>
      intro text predicate rest short
      omega
  | succ fuel ih =>
      have units : Sound .unit (fuel + 1) (readNegations (readOperand (readExpression fuel)) fuel) :=
        sound_readNegations (Nat.le_refl _) (sound_readOperand ih)
      have conjunctions : Sound (.chain .and) (fuel + 1)
          (readChain .and (readNegations (readOperand (readExpression fuel)) fuel) fuel) :=
        sound_readChain fuel units
      exact sound_readChain fuel conjunctions

end Grammar
end RecordQuery
