/-!
# Results and refusals

When a computation that may refuse gives a result: a sequence of two does when both do, and a
changed result comes from a result.  A sequence refuses with the first refusal on the way, and so
does a computation that goes through a list item by item.
-/

namespace RecordQuery

variable {ε α β : Type}

theorem bind_eq_ok_iff {first : Except ε α} {next : α → Except ε β} {result : β} :
    (first >>= next) = .ok result ↔ ∃ value, first = .ok value ∧ next value = .ok result := by
  cases first with
  | error refusal => simp [bind, Except.bind]
  | ok value => simp [bind, Except.bind]

theorem bind_eq_error_iff {first : Except ε α} {next : α → Except ε β} {refusal : ε} :
    (first >>= next) = .error refusal ↔
      first = .error refusal ∨ ∃ value, first = .ok value ∧ next value = .error refusal := by
  cases first with
  | error other => simp [bind, Except.bind]
  | ok value => simp [bind, Except.bind]

/-- Two computations whose results are put together refuse with the refusal of the first, or with
that of the second if the first has a result. -/
theorem bind_both_eq_error_iff {γ : Type} {first : Except ε α} {second : Except ε β}
    {both : α → β → γ} {refusal : ε} :
    (first >>= fun value => second >>= fun other => pure (both value other)) = .error refusal ↔
      first = .error refusal ∨ (∃ value, first = .ok value) ∧ second = .error refusal := by
  simp only [bind_eq_error_iff, exists_and_right, reduceCtorEq, pure, Except.pure, and_false,
    exists_false, or_false]

theorem map_eq_ok_iff {first : Except ε α} {change : α → β} {result : β} :
    first.map change = .ok result ↔ ∃ value, first = .ok value ∧ change value = result := by
  cases first with
  | error refusal => simp [Except.map]
  | ok value => simp [Except.map]

theorem map_eq_error_iff {first : Except ε α} {change : α → β} {refusal : ε} :
    first.map change = .error refusal ↔ first = .error refusal := by
  cases first with
  | error other => simp [Except.map]
  | ok value => simp [Except.map]

theorem mapError_eq_ok_iff {ε' : Type} {result : Except ε α} {change : ε → ε'} {value : α} :
    result.mapError change = .ok value ↔ result = .ok value := by
  cases result with
  | error refusal => exact ⟨nofun, nofun⟩
  | ok other =>
      exact ⟨fun same => congrArg Except.ok (Except.ok.inj same),
        fun same => congrArg Except.ok (Except.ok.inj same)⟩

theorem toOption_eq_some_iff {result : Except ε α} {value : α} :
    result.toOption = some value ↔ result = .ok value := by
  cases result with
  | error refusal => simp [Except.toOption]
  | ok other => simp [Except.toOption]

/-- One of the items is refused in this way, and every item before it has a result. -/
def RefusesFirst (step : α → Except ε β) (items : List α) (refusal : ε) : Prop :=
  ∃ before item after, items = before ++ item :: after ∧
    (∀ earlier ∈ before, ∃ result, step earlier = .ok result) ∧ step item = .error refusal

section RefusesFirst

variable {step : α → Except ε β} {refusal : ε}

theorem not_refusesFirst_nil : ¬ RefusesFirst step [] refusal := by
  rintro ⟨before, item, after, split, -⟩
  cases before <;> cases split

theorem refusesFirst_cons {item : α} {items : List α} :
    RefusesFirst step (item :: items) refusal ↔
      step item = .error refusal ∨
        (∃ result, step item = .ok result) ∧ RefusesFirst step items refusal := by
  constructor
  · rintro ⟨before, found, after, split, succeed, refused⟩
    cases before with
    | nil =>
        obtain ⟨rfl, rfl⟩ := List.cons.inj split
        exact .inl refused
    | cons first before =>
        obtain ⟨rfl, rfl⟩ := List.cons.inj split
        obtain ⟨succeeds, others⟩ := List.forall_mem_cons.mp succeed
        exact .inr ⟨succeeds, before, found, after, rfl, others, refused⟩
  · rintro (refused | ⟨succeeds, before, found, after, rfl, others, refused⟩)
    · exact ⟨[], item, items, rfl, List.forall_mem_nil _, refused⟩
    · exact ⟨item :: before, found, after, rfl, List.forall_mem_cons.mpr ⟨succeeds, others⟩,
        refused⟩

theorem refusesFirst_singleton {item : α} :
    RefusesFirst step [item] refusal ↔ step item = .error refusal := by
  rw [refusesFirst_cons]
  exact or_iff_left fun later => not_refusesFirst_nil later.2

theorem refusesFirst_append {items others : List α} :
    RefusesFirst step (items ++ others) refusal ↔
      RefusesFirst step items refusal ∨
        (∀ item ∈ items, ∃ result, step item = .ok result) ∧
          RefusesFirst step others refusal := by
  induction items with
  | nil => simp [not_refusesFirst_nil]
  | cons item items ih =>
      rw [List.cons_append, refusesFirst_cons, refusesFirst_cons, ih, List.forall_mem_cons,
        and_or_left, or_assoc, and_assoc]

/-- One of the items is the first that is refused if any of them is. -/
theorem exists_refusesFirst_iff {items : List α} :
    (∃ refusal, RefusesFirst step items refusal) ↔
      ∃ item ∈ items, ∃ refusal, step item = .error refusal := by
  constructor
  · rintro ⟨refusal, before, item, after, rfl, -, refused⟩
    exact ⟨item, List.mem_append_right _ List.mem_cons_self, refusal, refused⟩
  · rintro ⟨item, member, refused⟩
    induction items with
    | nil => cases member
    | cons first items ih =>
        cases outcome : step first with
        | error refusal => exact ⟨refusal, refusesFirst_cons.mpr (.inl outcome)⟩
        | ok result =>
            rcases List.mem_cons.mp member with rfl | later
            · obtain ⟨refusal, refused⟩ := refused
              rw [outcome] at refused
              cases refused
            · obtain ⟨refusal, refuses⟩ := ih later
              exact ⟨refusal, refusesFirst_cons.mpr (.inr ⟨⟨result, outcome⟩, refuses⟩)⟩

/-- A computation that is refused exactly like the first of the items has a result if every item
has. -/
theorem exists_ok_iff_of_refusesFirst {γ : Type} {items : List α} {whole : Except ε γ}
    (same : ∀ refusal, whole = .error refusal ↔ RefusesFirst step items refusal) :
    (∃ value, whole = .ok value) ↔ ∀ item ∈ items, ∃ result, step item = .ok result := by
  constructor
  · rintro ⟨value, rfl⟩ item member
    cases outcome : step item with
    | ok result => exact ⟨result, rfl⟩
    | error refusal =>
        obtain ⟨first, refuses⟩ := exists_refusesFirst_iff.mpr ⟨item, member, refusal, outcome⟩
        cases (same first).mpr refuses
  · intro succeed
    cases whole with
    | ok value => exact ⟨value, rfl⟩
    | error refusal =>
        obtain ⟨item, member, other, refused⟩ :=
          exists_refusesFirst_iff.mp ⟨refusal, (same refusal).mp rfl⟩
        obtain ⟨result, succeeds⟩ := succeed item member
        rw [succeeds] at refused
        cases refused

end RefusesFirst

end RecordQuery
