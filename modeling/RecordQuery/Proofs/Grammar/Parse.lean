import RecordQuery.Proofs.Grammar.Completeness

/-!
# The parser decides the grammar

A text is read as a predicate exactly when it spells a syntax tree with that meaning.
-/

namespace RecordQuery

open Text Grammar

/-- The reader of queries accepts the spellings of syntax trees, with their meaning. -/
theorem Parser.readQuery_eq_ok_iff {text : List Char} {predicate : Predicate} :
    readQuery text = .ok predicate ↔ ∃ tree, IsSpelling text tree ∧ tree.meaning = predicate := by
  constructor
  · intro read
    obtain ⟨⟨found, unread⟩, readAll, ended⟩ := bind_eq_ok_iff.mp read
    obtain ⟨tree, rest, spelled, rfl, same⟩ :=
      sound_readExpression _ text found unread (Nat.lt_succ_self _) readAll
    simp only at ended
    split at ended
    · rename_i nothingLeft
      obtain rfl := Except.ok.inj ended
      refine ⟨tree, ⟨rest, spelled, ?_⟩, rfl⟩
      rw [begins_nil_nil_iff, same, nothingLeft]
    · simp at ended
  · rintro ⟨tree, ⟨rest, spelled, ended⟩, rfl⟩
    obtain ⟨unread, read, same⟩ := complete_readExpression (text.length + 1) tree text rest spelled
      (Nat.lt_succ_self _) (stops_of_end ended)
    refine bind_eq_ok_iff.mpr ⟨(tree.meaning, unread), read, ?_⟩
    simp only
    rw [same, begins_nil_nil_iff.mp ended]

theorem Predicate.parse_eq_ok_iff_readQuery {text : String} {predicate : Predicate} :
    parse text = .ok predicate ↔ Parser.readQuery text.toList = .ok predicate := by
  rw [parse]
  cases Parser.readQuery text.toList <;> simp

/-- The parser accepts exactly the spellings of the grammar, and gives each text the meaning of its
syntax tree. -/
theorem Predicate.parse_eq_ok_iff (text : String) (predicate : Predicate) :
    parse text = .ok predicate ↔
      ∃ tree, IsSpelling text.toList tree ∧ tree.meaning = predicate := by
  rw [parse_eq_ok_iff_readQuery, Parser.readQuery_eq_ok_iff]

end RecordQuery
