import Mathlib.Algebra.BigOperators.Group.List.Lemmas
import Mathlib.Algebra.Ring.Nat
import RecordQuery.Listing
import RecordQuery.Proofs.Record
import RecordQuery.Proofs.Result

/-!
# Counting the values of a field

A table of counts tallies a list of texts if it has one entry for each text that occurs, with the
number of its occurrences.  Counting one more text keeps this, so the table of a listing tallies the
texts of the values that are held.  Up to the order of its entries, nothing else does.

A listing is refused by the first target that does not know the field.  Records can only refuse it
in one way, so for them it does not matter which one is first.
-/

namespace RecordQuery

/-- The text under which a target is listed, if it holds a value. -/
def Target.listed? (target : Target) (field : String) : Option String :=
  match target field with
  | .ok (some value) => some (toString value)
  | _ => none

theorem Target.listed?_eq_some_iff {target : Target} {field text : String} :
    target.listed? field = some text ↔
      ∃ value, target field = .ok (some value) ∧ toString value = text := by
  rw [listed?]
  split
  next value held => simp [held]
  next other => exact ⟨nofun, fun ⟨value, held, _⟩ => absurd held (other value)⟩

namespace Listing

/-! ## Tables of counts -/

section Table

variable {counts : List (String × Nat)} {text other : String}

theorem lookup_cons (entry : String × Nat) (counts : List (String × Nat)) (text : String) :
    (entry :: counts).lookup text = if text = entry.1 then some entry.2 else counts.lookup text := by
  rw [List.lookup_cons]
  by_cases same : text = entry.1
  · rw [if_pos same, beq_iff_eq.mpr same]
  · rw [if_neg same, beq_eq_false_iff_ne.mpr same]

theorem mem_keys_add :
    other ∈ (add text counts).map Prod.fst ↔ other = text ∨ other ∈ counts.map Prod.fst := by
  induction counts with
  | nil => simp [add]
  | cons entry counts ih =>
      rw [add]
      split
      next same => simp [same]
      next differs =>
        rw [List.map_cons, List.mem_cons, ih, List.map_cons, List.mem_cons, or_left_comm]

theorem nodup_add (unique : (counts.map Prod.fst).Nodup) :
    ((add text counts).map Prod.fst).Nodup := by
  induction counts with
  | nil => exact List.nodup_singleton text
  | cons entry counts ih =>
      obtain ⟨first, later⟩ := List.nodup_cons.mp unique
      rw [add]
      split
      next same => exact unique
      next differs =>
        refine List.nodup_cons.mpr ⟨fun member => ?_, ih later⟩
        exact (mem_keys_add.mp member).elim differs first

/-- Counting a text raises its own count and leaves the others. -/
theorem lookup_add : (add text counts).lookup other =
    if other = text then some ((counts.lookup text).getD 0 + 1) else counts.lookup other := by
  induction counts with
  | nil => rw [add, lookup_cons]; rfl
  | cons entry counts ih =>
      rw [add]
      split
      next found =>
        by_cases same : other = text <;> simp [lookup_cons, found, same]
      next differs =>
        by_cases same : other = text
        · subst same
          simp [lookup_cons, Ne.symm differs, ih]
        · simp [lookup_cons, same, ih]

theorem lookup_eq_some_iff_mem {count : Nat} (unique : (counts.map Prod.fst).Nodup) :
    counts.lookup text = some count ↔ (text, count) ∈ counts := by
  induction counts with
  | nil => simp
  | cons entry counts ih =>
      obtain ⟨counted, held⟩ := entry
      obtain ⟨first, later⟩ := List.nodup_cons.mp unique
      rw [lookup_cons, List.mem_cons, Prod.mk.injEq]
      split
      next found =>
        have absent : (text, count) ∉ counts := fun member =>
          first (found ▸ List.mem_map_of_mem member)
        rw [or_iff_left absent, and_iff_right found, Option.some.injEq, eq_comm]
      next differs => rw [ih later, or_iff_right fun same => differs same.1]

end Table

/-- The table has one entry for each text of the list, with the number of its occurrences. -/
structure Tallies (counts : List (String × Nat)) (texts : List String) : Prop where
  /-- No text has two entries. -/
  unique : (counts.map Prod.fst).Nodup
  /-- The entries are those of the texts that occur. -/
  mem_iff : ∀ text count, (text, count) ∈ counts ↔ 0 < count ∧ count = texts.count text

namespace Tallies

variable {counts counts' : List (String × Nat)} {texts texts' : List String}

theorem nil : Tallies [] [] :=
  ⟨List.nodup_nil, fun _ _ => ⟨nofun, fun ⟨positive, absent⟩ => absurd absent positive.ne'⟩⟩

theorem lookup_eq_some_iff (tallies : Tallies counts texts) {text : String} {count : Nat} :
    counts.lookup text = some count ↔ 0 < count ∧ count = texts.count text := by
  rw [lookup_eq_some_iff_mem tallies.unique, tallies.mem_iff]

theorem mem_keys_iff (tallies : Tallies counts texts) {text : String} :
    text ∈ counts.map Prod.fst ↔ text ∈ texts := by
  constructor
  · intro key
    obtain ⟨⟨text, count⟩, entry, rfl⟩ := List.mem_map.mp key
    obtain ⟨positive, rfl⟩ := (tallies.mem_iff text count).mp entry
    exact List.count_pos_iff.mp positive
  · intro member
    have entry := (tallies.mem_iff text _).mpr ⟨List.count_pos_iff.mpr member, rfl⟩
    exact List.mem_map_of_mem entry

theorem lookup_getD (tallies : Tallies counts texts) (text : String) :
    (counts.lookup text).getD 0 = texts.count text := by
  cases found : counts.lookup text with
  | some count => exact (tallies.lookup_eq_some_iff.mp found).2
  | none =>
      by_contra occurs
      have positive := Nat.pos_of_ne_zero (Ne.symm occurs)
      rw [tallies.lookup_eq_some_iff.mpr ⟨positive, rfl⟩] at found
      cases found

/-- The step of counting: a table that tallies the texts so far tallies one more text. -/
theorem add (tallies : Tallies counts texts) (text : String) :
    Tallies (Listing.add text counts) (texts ++ [text]) := by
  have unique : ((Listing.add text counts).map Prod.fst).Nodup := nodup_add tallies.unique
  refine ⟨unique, fun other count => ?_⟩
  rw [← lookup_eq_some_iff_mem unique, lookup_add, List.count_append]
  by_cases same : other = text
  · rw [if_pos same, tallies.lookup_getD, same, List.count_singleton_self, Option.some.injEq]
    omega
  · rw [if_neg same, tallies.lookup_eq_some_iff, List.count_singleton, beq_eq_false_iff_ne.mpr
      (Ne.symm same)]
    rfl

theorem of_perm (tallies : Tallies counts texts) (perm : counts'.Perm counts)
    (texts_perm : texts'.Perm texts) : Tallies counts' texts' := by
  refine ⟨(perm.map Prod.fst).nodup_iff.mpr tallies.unique, fun text count => ?_⟩
  rw [perm.mem_iff, tallies.mem_iff, texts_perm.count_eq]

/-- Two tables that tally the same texts have the same entries. -/
theorem perm (tallies : Tallies counts texts) (tallies' : Tallies counts' texts) :
    counts.Perm counts' := by
  refine (List.perm_ext_iff_of_nodup tallies.unique.of_map tallies'.unique.of_map).mpr ?_
  rintro ⟨text, count⟩
  rw [tallies.mem_iff, tallies'.mem_iff]

theorem dedup (texts : List String) :
    Tallies (texts.dedup.map fun text => (text, texts.count text)) texts := by
  refine ⟨?_, fun text count => ?_⟩
  · have keys : Prod.fst ∘ (fun text => (text, texts.count text)) = id := rfl
    rw [List.map_map, keys, List.map_id]
    exact texts.nodup_dedup
  · simp only [List.mem_map, List.mem_dedup, Prod.mk.injEq]
    constructor
    · rintro ⟨text, occurs, rfl, rfl⟩
      exact ⟨List.count_pos_iff.mpr occurs, rfl⟩
    · rintro ⟨positive, rfl⟩
      exact ⟨text, List.count_pos_iff.mp positive, rfl, rfl⟩

/-- The counts add up to the number of texts. -/
theorem sum_eq (tallies : Tallies counts texts) : (counts.map Prod.snd).sum = texts.length := by
  rw [((tallies.perm (dedup texts)).map Prod.snd).sum_eq, List.map_map]
  exact texts.sum_map_count_dedup_eq_length

end Tallies

/-! ## Collecting -/

variable {targets : List Target} {field : String}

/-- The last target is asked after the others have been counted. -/
theorem collect_concat (targets : List Target) (target : Target) (field : String) :
    collect (targets ++ [target]) field = do
      let counts ← collect targets field
      let held ← target field
      return held.elim counts fun value => add (toString value) counts := by
  rw [collect, List.foldlM_append]
  refine bind_congr fun counts => ?_
  rw [List.foldlM_cons]
  cases target field with
  | error error => rfl
  | ok held => cases held <;> rfl

/-- The table of a listing tallies the texts of the values that are held. -/
theorem tallies_of_collect {counts : List (String × Nat)}
    (collects : collect targets field = .ok counts) :
    Tallies counts (targets.filterMap (·.listed? field)) := by
  induction targets using List.reverseRecOn generalizing counts with
  | nil =>
      obtain rfl := Except.ok.inj collects
      exact .nil
  | append_singleton targets target ih =>
      rw [collect_concat] at collects
      obtain ⟨earlier, counted, collects⟩ := bind_eq_ok_iff.mp collects
      obtain ⟨held, holds, same⟩ := bind_eq_ok_iff.mp collects
      obtain rfl := Except.ok.inj same
      rw [List.filterMap_append]
      cases held with
      | none => simpa [Target.listed?, holds] using ih counted
      | some value => simpa [Target.listed?, holds] using (ih counted).add (toString value)

/-- A listing is refused like the first target that does not know the field. -/
theorem collect_eq_error_iff {error : EvaluationError} :
    collect targets field = .error error ↔
      RefusesFirst (fun target : Target => target field) targets error := by
  induction targets using List.reverseRecOn generalizing error with
  | nil => exact ⟨nofun, fun refuses => absurd refuses not_refusesFirst_nil⟩
  | append_singleton targets target ih =>
      rw [collect_concat, bind_both_eq_error_iff, ih, refusesFirst_append, refusesFirst_singleton,
        exists_ok_iff_of_refusesFirst fun _ => ih]

theorem exists_collect_iff :
    (∃ counts, collect targets field = .ok counts) ↔
      ∀ target ∈ targets, ∃ held, target field = .ok held :=
  exists_ok_iff_of_refusesFirst fun _ => collect_eq_error_iff

/-! ## Records -/

variable {records : List Record}

theorem of_collect_records_eq_error {error : EvaluationError}
    (refuses : collect (records.map Record.target) field = .error error) :
    error = .fieldNotFound field ∧ ∃ record ∈ records, record.schema.field? field = none := by
  obtain ⟨before, target, after, split, -, refused⟩ := collect_eq_error_iff.mp refuses
  have member : target ∈ records.map Record.target := by
    rw [split]
    exact List.mem_append_right _ List.mem_cons_self
  obtain ⟨record, inside, rfl⟩ := List.mem_map.mp member
  change record.target field = .error error at refused
  cases declared : record.schema.field? field with
  | none =>
      rw [Record.target_of_undeclared declared] at refused
      exact ⟨(Except.error.inj refused).symm, record, inside, declared⟩
  | some _ =>
      rw [Record.target_of_declared declared] at refused
      cases refused

/-- Records refuse a listing if one of them does not declare the field, whichever it is in the same
way. -/
theorem collect_records_eq_error_iff {error : EvaluationError} :
    collect (records.map Record.target) field = .error error ↔
      error = .fieldNotFound field ∧ ∃ record ∈ records, record.schema.field? field = none := by
  refine ⟨of_collect_records_eq_error, ?_⟩
  rintro ⟨rfl, record, member, undeclared⟩
  cases outcome : collect (records.map Record.target) field with
  | error error => rw [(of_collect_records_eq_error outcome).1]
  | ok counts =>
      obtain ⟨held, holds⟩ :=
        exists_collect_iff.mp ⟨counts, outcome⟩ record.target (List.mem_map_of_mem member)
      rw [Record.target_of_undeclared undeclared] at holds
      cases holds

theorem mem_listed_iff {text : String} :
    text ∈ (records.map Record.target).filterMap (·.listed? field) ↔
      ∃ record ∈ records, record.target.listed? field = some text := by
  rw [List.filterMap_map, List.mem_filterMap]
  rfl

/-- How often a text is listed is the number of the records that hold a value listed by it. -/
theorem count_listed (records : List Record) (field text : String) :
    ((records.map Record.target).filterMap (·.listed? field)).count text =
      records.countP fun record => record.target.listed? field = some text := by
  rw [List.filterMap_map, List.count_filterMap]
  exact List.countP_congr fun record _ => by simp

end Listing
end RecordQuery
