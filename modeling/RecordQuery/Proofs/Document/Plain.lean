import RecordQuery.Document.Scalar

/-!
# Plain scalars where no type is expected

A plain scalar that nobody asked to be a string is given a type by its spelling.  The text of what it
becomes is its own spelling if it is a string, and otherwise the one spelling of the Boolean or of
the number.  A document into which a scalar is put is as deep as before and has the same keys.
-/

namespace RecordQuery
namespace Document

/-- The text of what a plain scalar becomes where no type is expected; nothing for null and for an
integer that no number holds. -/
def respelled? (text : String) : Option String := (ofPlain? text).bind scalarText?

/-- The document is a Boolean, a number or a string. -/
def IsScalar (document : Document) : Prop := ∃ text, document.scalarText? = some text

theorem isScalar_of_ofInteger? {text : List Char} {value : Int} {document : Document}
    (reads : ofInteger? text value = some document) : document.IsScalar := by
  unfold ofInteger? at reads
  split at reads
  · obtain rfl := Option.some.inj reads
    exact ⟨_, rfl⟩
  · split at reads
    · cases reads
    · split at reads <;> obtain rfl := Option.some.inj reads <;> exact ⟨_, rfl⟩

/-- A plain scalar that is not null is a Boolean, a number or a string. -/
theorem isScalar_of_ofPlain? {text : String} {document : Document} (notNull : text ∉ Yaml.nullTexts)
    (reads : ofPlain? text = some document) : document.IsScalar := by
  unfold ofPlain? at reads
  rw [if_neg notNull] at reads
  split at reads
  · obtain rfl := Option.some.inj reads
    exact ⟨_, rfl⟩
  · split at reads
    · obtain rfl := Option.some.inj reads
      exact ⟨_, rfl⟩
    · split at reads
      · exact isScalar_of_ofInteger? reads
      · split at reads <;> obtain rfl := Option.some.inj reads <;> exact ⟨_, rfl⟩

/-- A plain scalar that is spelled like nothing else is a string. -/
theorem ofPlain?_eq_string {text : String}
    (noWord : text ∉ Yaml.nullTexts ++ ["true", "True", "TRUE"] ++ ["false", "False", "FALSE"])
    (noInteger : readInteger? text.toList = none) (noDouble : readDouble? text.toList = none) :
    ofPlain? text = some (.string text) := by
  simp only [List.mem_append, not_or] at noWord
  rw [ofPlain?, if_neg noWord.1.1, if_neg noWord.1.2, if_neg noWord.2, noInteger]
  dsimp only
  rw [noDouble]

theorem respelled?_eq_some_iff {text written : String} : respelled? text = some written ↔
    ∃ document, ofPlain? text = some document ∧ document.scalarText? = some written :=
  Option.bind_eq_some_iff

/-- A plain scalar that is not null has no type exactly if it has no text. -/
theorem respelled?_eq_none_iff {text : String} (notNull : text ∉ Yaml.nullTexts) :
    respelled? text = none ↔ ofPlain? text = none := by
  constructor
  · intro nothing
    rw [Option.eq_none_iff_forall_ne_some]
    intro document reads
    obtain ⟨written, spelled⟩ := isScalar_of_ofPlain? notNull reads
    rw [respelled?, reads, Option.bind_some, spelled] at nothing
    cases nothing
  · intro nothing
    rw [respelled?, nothing]
    rfl

/-! ## A scalar in a mapping -/

variable {scalar : Document}

/-- A Boolean, a number or a string is not null and holds nothing else. -/
theorem IsScalar.leaf (isScalar : scalar.IsScalar) :
    scalar.isNull = false ∧ scalar.depth = 0 ∧ scalar.hasUniqueKeys = true := by
  obtain ⟨text, spelled⟩ := isScalar
  cases scalar with
  | bool | int | double | string => exact ⟨rfl, rfl, rfl⟩
  | null | sequence | mapping | tagged => cases spelled

theorem entriesDepth_append (entries others : List (Document × Document)) :
    entriesDepth (entries ++ others) = max (entriesDepth entries) (entriesDepth others) := by
  induction entries with
  | nil => rw [List.nil_append, entriesDepth, Nat.zero_max]
  | cons entry entries ih => simp only [List.cons_append, entriesDepth, ih, Nat.max_assoc]

theorem entriesHaveUniqueKeys_append_cons (earlier later : List (Document × Document))
    (key : Document) {content other : Document}
    (same : content.hasUniqueKeys = other.hasUniqueKeys) :
    entriesHaveUniqueKeys (earlier ++ (key, content) :: later) =
      entriesHaveUniqueKeys (earlier ++ (key, other) :: later) := by
  induction earlier with
  | nil => rw [List.nil_append, List.nil_append, entriesHaveUniqueKeys, entriesHaveUniqueKeys, same]
  | cons entry earlier ih =>
      obtain ⟨first, held⟩ := entry
      simp only [List.cons_append, entriesHaveUniqueKeys, ih, List.any_append, List.any_cons]

/-- The entries of a mapping are read one after the other. -/
theorem ofEntries?_append (nodes others : List (Yaml.Node × Yaml.Node)) :
    ofEntries? (nodes ++ others) =
      (ofEntries? nodes).bind fun entries => (ofEntries? others).map (entries ++ ·) := by
  induction nodes with
  | nil => simp [ofEntries?]
  | cons node nodes ih =>
      obtain ⟨key, content⟩ := node
      simp only [List.cons_append, ofEntries?, ih, Option.bind_eq_bind]
      cases ofNode? key with
      | none => rfl
      | some first =>
          cases ofNode? content with
          | none => rfl
          | some held =>
              cases ofEntries? nodes with
              | none => rfl
              | some entries => cases ofEntries? others <;> rfl

end Document
end RecordQuery
