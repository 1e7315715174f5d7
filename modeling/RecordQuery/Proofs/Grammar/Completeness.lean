import RecordQuery.Proofs.Grammar.Soundness

/-!
# Every phrase is read

The readers stop only where the grammar lets a phrase end, so a phrase is read to its end if no
keyword follows that would make it longer.  A chain is written left-recursively but read from the
left by a loop; the loop reaches the end of every chain that begins the text, with fuel left for
what follows.
-/

namespace RecordQuery
namespace Grammar

open Text RecordQuery.Parser

/-- No keyword follows that would join something to a phrase of the level. -/
def Stops : Level → List Char → Prop
  | .chain .or, rest => ∀ connective after, ¬ Keyword (joiner connective) rest after
  | .chain .and, rest => ∀ after, ¬ Keyword (joiner .and) rest after
  | _, _ => True

/-- On texts shorter than the bound, the reader reads every phrase of the level that stops, with
its meaning, and leaves what the phrase leaves, apart from blanks. -/
def Complete (level : Level) (bound : Nat) (reader : Reader Predicate) : Prop :=
  ∀ tree text rest, Spells level tree text rest → text.length < bound → Stops level rest →
    ∃ unread, reader text = .ok (tree.meaning, unread) ∧ skipBlank unread = skipBlank rest

theorem Stops.part {connective : Connective} {rest : List Char}
    (stops : Stops (.chain connective) rest) : Stops (partLevel connective) rest := by
  cases connective with
  | and => exact trivial
  | or => exact stops .and

theorem Stops.noKeyword {connective : Connective} {rest : List Char}
    (stops : Stops (.chain connective) rest) : ∀ after, ¬ Keyword (joiner connective) rest after := by
  cases connective with
  | and => exact stops
  | or => exact stops .or

/-- A part of a chain stops at the keyword before the next part. -/
theorem stops_of_keyword {connective : Connective} {rest after : List Char}
    (joined : Keyword (joiner connective) rest after) : Stops (partLevel connective) rest := by
  cases connective with
  | and => exact trivial
  | or =>
      have leads := joined.leads (solid_joiner .or)
      exact (keyword?_skipBlank_eq_none_iff (solid_joiner .and)).mp
        (keyword?_eq_none_of_leads (solid_joiner .and) leads (by decide))

/-- An expression stops at a closing parenthesis. -/
theorem stops_of_closing {rest after : List Char} (closed : Begins [')'] rest after) :
    Stops (.chain .or) rest := by
  intro connective other word
  have uncovered := (begins_iff solid_parenthesis.2 _ _).mp closed
  have leads := word.leads (solid_joiner connective)
  cases connective with
  | and => exact leads.skipBlank_ne_cons (by decide) uncovered
  | or => exact leads.skipBlank_ne_cons (by decide) uncovered

/-- An expression stops at the end. -/
theorem stops_of_end {rest : List Char} (ended : Begins [] rest []) : Stops (.chain .or) rest := by
  intro connective
  rw [begins_nil_nil_iff] at ended
  rw [← keyword?_skipBlank_eq_none_iff (solid_joiner connective), ended]
  cases connective <;> rfl

/-- Where a name is followed by nothing that could follow a constant, a comparison is read. -/
theorem readOperand_of_name {name text middle : List Char}
    (named : Run isNameCharacter name text middle) (opened : ¬ FollowsConstant middle)
    (inner : Reader Predicate) : readOperand inner text = readComparison (skipBlank text) := by
  rw [readOperand]
  split
  · rename_i parenthesis
    obtain ⟨c, tail, -, inside, uncovered⟩ :=
      named.exists_skipBlank_eq fun _ => isBlank_of_isNameCharacter
    rw [uncovered] at parenthesis
    rw [(List.cons.inj parenthesis).1] at inside
    exact absurd inside (by decide)
  · rw [readConstant?_skipBlank_eq_none named opened]

theorem complete_readOperand {bound : Nat} {inner : Reader Predicate}
    (innerComplete : Complete (.chain .or) bound inner) :
    Complete .primary (bound + 1) (readOperand inner) := by
  intro tree text rest spells short _
  cases spells with
  | comparison named conditioned =>
      rw [readOperand_of_name named (not_followsConstant_of_spellsCondition conditioned)]
      have namedAgain := run_congr (fun _ => isBlank_of_isNameCharacter)
        (skipBlank_skipBlank text).symm named
      exact ⟨rest, readComparison_eq_ok_iff.mpr ⟨_, _, _, rfl, namedAgain, conditioned⟩, rfl⟩
  | @constant value _ _ word closed =>
      rw [readOperand]
      split
      · rename_i opened
        have leads := word.leads (solid_constantWord value)
        cases value with
        | true => exact absurd opened (leads.skipBlank_ne_cons (by decide))
        | false => exact absurd opened (leads.skipBlank_ne_cons (by decide))
      · rw [readConstant?_skipBlank_eq_some_iff.mpr ⟨value, rest, rfl, word, closed, rfl⟩]
        exact ⟨skipBlank rest, rfl, skipBlank_skipBlank rest⟩
  | @parentheses tree _ first last _ opened spelled closed =>
      have shorter := opened.length_le
      simp only [List.length_singleton] at shorter
      obtain ⟨unread, read, same⟩ :=
        innerComplete tree first last spelled (by omega) (stops_of_closing closed)
      rw [readOperand]
      rw [(begins_iff solid_parenthesis.1 _ _).mp opened]
      refine ⟨rest, bind_eq_ok_iff.mpr ⟨(tree.meaning, unread), read, ?_⟩, rfl⟩
      simp only
      rw [same, (begins_iff solid_parenthesis.2 _ _).mp closed]
      rfl

theorem complete_readNegations {bound fuel : Nat} {operand : Reader Predicate}
    (enough : bound ≤ fuel + 1) (operandComplete : Complete .primary bound operand) :
    Complete .unit bound (readNegations operand fuel) := by
  have solid : Solid "not".toList := by decide
  intro tree text rest spells short _
  have fits : text.length ≤ fuel := by omega
  clear enough
  induction fuel generalizing tree text with
  | zero =>
      have positive := spells.length_lt
      omega
  | succ fuel ih =>
      rw [readNegations]
      cases spells with
      | @negation inner _ middle _ word spelled =>
          have shorter := word.length_lt solid
          obtain ⟨unread, read, same⟩ := ih inner middle spelled (by omega) (by omega)
          rw [(keyword?_skipBlank_eq_some_iff solid).mpr word]
          exact ⟨unread, bind_eq_ok_iff.mpr ⟨(inner.meaning, unread), read, rfl⟩, same⟩
      | primary noNegation spelled =>
          rw [(keyword?_skipBlank_eq_none_iff solid).mpr noNegation]
          exact operandComplete tree text rest spelled short trivial

/-- The loop over the later parts gets to the end of every chain that begins the text. -/
theorem readChain_eq_readLater {connective : Connective} {bound : Nat} {part : Reader Predicate}
    (partComplete : Complete (partLevel connective) bound part) (fuel : Nat) {tree : Tree}
    {text rest : List Char} (spells : Spells (.chain connective) tree text rest)
    (short : text.length < bound) (fits : text.length ≤ fuel + 1)
    (stops : Stops (partLevel connective) rest) :
    ∃ left unread, readChain connective part fuel text =
        readLater connective part left tree.meaning unread ∧
      skipBlank unread = skipBlank rest ∧ rest.length ≤ left := by
  have solid := solid_joiner connective
  generalize level_eq : Level.chain connective = level at spells
  induction spells with
  | comparison => contradiction
  | constant => contradiction
  | parentheses => contradiction
  | negation => contradiction
  | primary => contradiction
  | @single _ tree text rest spelled _ =>
      obtain rfl := Level.chain.inj level_eq
      obtain ⟨unread, read, same⟩ := partComplete tree text rest spelled short stops
      have positive := spelled.length_lt
      refine ⟨fuel, unread, ?_, same, by omega⟩
      rw [readChain]
      rw [read]
      rfl
  | @chain _ earlier later text first second rest before word spelled ih _ =>
      obtain rfl := Level.chain.inj level_eq
      obtain ⟨left, unread, chained, same, enough⟩ := ih short fits (stops_of_keyword word) rfl
      have wordShorter := word.length_lt solid
      have laterShorter := spelled.length_lt
      obtain ⟨left, rfl⟩ : ∃ fewer, left = fewer + 1 := ⟨left - 1, by omega⟩
      have firstShorter := before.length_lt
      obtain ⟨unreadLater, read, sameLater⟩ :=
        partComplete later second rest spelled (by omega) stops
      refine ⟨left, unreadLater, ?_, sameLater, by omega⟩
      rw [chained, readLater, same, (keyword?_skipBlank_eq_some_iff solid).mpr word]
      simp only
      rw [read]
      rfl

/-- At the end of a chain the loop is over. -/
theorem readLater_of_stops {connective : Connective} {part : Reader Predicate} {fuel : Nat}
    {earlier : Predicate} {unread rest : List Char} (stops : Stops (.chain connective) rest)
    (same : skipBlank unread = skipBlank rest) :
    readLater connective part fuel earlier unread = .ok (earlier, skipBlank rest) := by
  cases fuel with
  | zero => rw [readLater, same]
  | succ fuel =>
      have noWord := (keyword?_skipBlank_eq_none_iff (solid_joiner connective)).mpr stops.noKeyword
      rw [readLater, same, noWord]

theorem complete_readChain {connective : Connective} {bound fuel : Nat} {part : Reader Predicate}
    (enough : bound ≤ fuel + 2) (partComplete : Complete (partLevel connective) bound part) :
    Complete (.chain connective) bound (readChain connective part fuel) := by
  intro tree text rest spells short stops
  obtain ⟨left, unread, chained, same, -⟩ :=
    readChain_eq_readLater partComplete fuel spells short (by omega) stops.part
  exact ⟨skipBlank rest, by rw [chained, readLater_of_stops stops same], skipBlank_skipBlank rest⟩

/-- A whole expression with fuel for its length is read. -/
theorem complete_readExpression (fuel : Nat) :
    Complete (.chain .or) fuel (readExpression fuel) := by
  induction fuel with
  | zero =>
      intro tree text rest spells short
      omega
  | succ fuel ih =>
      have units :
          Complete .unit (fuel + 1) (readNegations (readOperand (readExpression fuel)) fuel) :=
        complete_readNegations (Nat.le_refl _) (complete_readOperand ih)
      have conjunctions : Complete (.chain .and) (fuel + 1)
          (readChain .and (readNegations (readOperand (readExpression fuel)) fuel) fuel) :=
        complete_readChain (by omega) units
      exact complete_readChain (by omega) conjunctions

end Grammar
end RecordQuery
