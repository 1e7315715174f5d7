import RecordQuery.Predicate.Parser
import RecordQuery.Proofs.Text.Character
import RecordQuery.Proofs.Text.Run

/-!
# Tokens of the query language

A token stands after any number of blanks.  The relations of this file hold between a text and what
is left of it after one token: a given text, a keyword in any letter case, or a run of characters of
one class that reaches as far as the class does.  `keyword?_skipBlank_eq_some_iff` and
`skipBlank_run_iff` tie the scanning of keywords and of runs to them.
-/

namespace RecordQuery
namespace Grammar

open Text RecordQuery.Parser

/-- The text is blanks, then the token, then the rest. -/
def Begins (token text rest : List Char) : Prop :=
  ∃ blanks, (∀ c ∈ blanks, isBlank c = true) ∧ text = blanks ++ (token ++ rest)

/-- The text begins with a keyword, in any letter case, that no letter, digit or underscore makes
into a longer word.  The keyword itself is given in lower case. -/
def Keyword (word : String) (text rest : List Char) : Prop :=
  ∃ spelled, spelled.map Char.toLower = word.toList ∧ Begins spelled text rest ∧
    Ends continuesWord rest

/-- The text begins with a nonempty run of characters of the class, as long as there are any. -/
def Run (member : Char → Bool) (run text rest : List Char) : Prop :=
  run ≠ [] ∧ (∀ c ∈ run, member c = true) ∧ Begins run text rest ∧ Ends member rest

/-- The text begins with a character that is no blank. -/
def Solid : List Char → Prop
  | [] => False
  | c :: _ => isBlank c = false

instance (text : List Char) : Decidable (Solid text) :=
  match text with
  | [] => inferInstanceAs (Decidable False)
  | c :: _ => inferInstanceAs (Decidable (isBlank c = false))

/-! ## Blanks before a token -/

theorem skipBlank_of_solid {text : List Char} (solid : Solid text) : skipBlank text = text := by
  cases text with
  | nil => rfl
  | cons c text => exact List.dropWhile_cons_of_neg (by simpa [Solid] using solid)

@[simp]
theorem skipBlank_skipBlank (text : List Char) : skipBlank (skipBlank text) = skipBlank text := by
  cases remaining : skipBlank text with
  | nil => rfl
  | cons c rest =>
      have ends : Ends isBlank (c :: rest) := remaining ▸ ends_dropWhile isBlank text
      exact skipBlank_of_solid (ends_cons.mp ends)

/-- A text is its leading blanks and what is left without them. -/
theorem begins_nil_skipBlank (text : List Char) : Begins [] text (skipBlank text) := by
  refine ⟨text.takeWhile isBlank, fun c member => ?_, ?_⟩
  · exact List.mem_takeWhile_imp member
  · exact List.takeWhile_append_dropWhile.symm

/-- A token that starts with no blank begins a text when skipping the blanks uncovers it. -/
theorem begins_iff {token : List Char} (solid : Solid token) (text rest : List Char) :
    Begins token text rest ↔ skipBlank text = token ++ rest := by
  constructor
  · rintro ⟨blanks, blank, rfl⟩
    rw [skipBlank, List.dropWhile_append_of_pos blank]
    apply skipBlank_of_solid
    cases token with
    | nil => exact solid.elim
    | cons c token => exact solid
  · intro uncovered
    obtain ⟨blanks, blank, text_eq⟩ := begins_nil_skipBlank text
    exact ⟨blanks, blank, by rw [text_eq, uncovered, List.nil_append]⟩

/-- Whether a token begins a text does not depend on the blanks before it. -/
theorem begins_congr {token text text' rest : List Char} (solid : Solid token)
    (same : skipBlank text = skipBlank text') (begins : Begins token text rest) :
    Begins token text' rest := by
  rw [begins_iff solid] at begins ⊢
  rw [← same, begins]

theorem Begins.length_le {token text rest : List Char} (begins : Begins token text rest) :
    token.length + rest.length ≤ text.length := by
  obtain ⟨blanks, -, rfl⟩ := begins
  simp only [List.length_append]
  omega

theorem isBlank_of_isNameCharacter {c : Char} (inside : isNameCharacter c = true) :
    isBlank c = false :=
  isBlank_eq_false (by decide +kernel) inside

theorem isBlank_of_isScalarCharacter {c : Char} (inside : isScalarCharacter c = true) :
    isBlank c = false :=
  isBlank_eq_false (by decide) inside

theorem solid_of_toLower {spelled word : List Char} (lower : spelled.map Char.toLower = word)
    (solid : Solid word) : Solid spelled := by
  subst lower
  cases spelled with
  | nil => exact solid
  | cons c spelled =>
      cases blank : isBlank c with
      | false => exact blank
      | true =>
          have lower_blank : isBlank c.toLower = false := solid
          rw [toLower_of_isBlank blank, blank] at lower_blank
          contradiction

/-! ## Keywords -/

theorem dropWord?_eq_some_iff {word text rest : List Char} :
    dropWord? word text = some rest ↔
      ∃ spelled, spelled.map Char.toLower = word ∧ text = spelled ++ rest := by
  induction word generalizing text with
  | nil => simp [dropWord?, eq_comm]
  | cons letter word ih =>
      cases text with
      | nil =>
          simp only [dropWord?, reduceCtorEq, false_iff]
          rintro ⟨spelled, lower, empty⟩
          obtain rfl : spelled = [] := (List.append_eq_nil_iff.mp empty.symm).1
          simp at lower
      | cons c text =>
          simp only [dropWord?]
          constructor
          · intro read
            split at read
            · rename_i same
              obtain ⟨spelled, lower, text_eq⟩ := ih.mp read
              exact ⟨c :: spelled, by simp [same, lower], by simp [text_eq]⟩
            · simp at read
          · rintro ⟨spelled, lower, text_eq⟩
            cases spelled with
            | nil => simp at lower
            | cons d spelled =>
                simp only [List.map_cons, List.cons.injEq] at lower
                simp only [List.cons_append, List.cons.injEq] at text_eq
                rw [text_eq.1, if_pos lower.1]
                exact ih.mpr ⟨spelled, lower.2, text_eq.2⟩

theorem ends_iff_any {member : Char → Bool} {rest : List Char} :
    Ends member rest ↔ (!rest.head?.any member) = true := by
  cases rest with
  | nil => simp [ends_nil]
  | cons c rest => simp [ends_cons]

theorem keyword?_eq_some_iff {word : String} {text rest : List Char} :
    keyword? word text = some rest ↔
      ∃ spelled, spelled.map Char.toLower = word.toList ∧ text = spelled ++ rest ∧
        Ends continuesWord rest := by
  rw [keyword?, Option.filter_eq_some_iff, dropWord?_eq_some_iff, ← ends_iff_any]
  constructor
  · rintro ⟨⟨spelled, lower, text_eq⟩, ends⟩
    exact ⟨spelled, lower, text_eq, ends⟩
  · rintro ⟨spelled, lower, text_eq, ends⟩
    exact ⟨⟨spelled, lower, text_eq⟩, ends⟩

/-- After the blanks the scanner finds exactly the keywords that the text begins with. -/
theorem keyword?_skipBlank_eq_some_iff {word : String} (solid : Solid word.toList)
    {text rest : List Char} :
    keyword? word (skipBlank text) = some rest ↔ Keyword word text rest := by
  rw [keyword?_eq_some_iff, Keyword]
  refine exists_congr fun spelled => and_congr_right fun lower => and_congr_left' ?_
  exact (begins_iff (solid_of_toLower lower solid) _ _).symm

theorem keyword?_skipBlank_eq_none_iff {word : String} (solid : Solid word.toList)
    {text : List Char} :
    keyword? word (skipBlank text) = none ↔ ∀ rest, ¬ Keyword word text rest := by
  rw [Option.eq_none_iff_forall_ne_some]
  exact forall_congr' fun rest => not_congr (keyword?_skipBlank_eq_some_iff solid)

/-! ## Runs -/

/-- After the blanks, the run of a class without blanks is what the scanner takes and what it
leaves. -/
theorem run_iff {member : Char → Bool} (solid : ∀ c, member c = true → isBlank c = false)
    {run text rest : List Char} :
    Run member run text rest ↔
      run ≠ [] ∧ (skipBlank text).takeWhile member = run ∧
        (skipBlank text).dropWhile member = rest := by
  constructor
  · rintro ⟨nonempty, inside, begins, ends⟩
    have run_solid : Solid run := by
      cases run with
      | nil => exact nonempty rfl
      | cons c run => exact solid c (inside c List.mem_cons_self)
    rw [(begins_iff run_solid text rest).mp begins]
    exact ⟨nonempty, takeWhile_append_of_ends inside ends, dropWhile_append_of_ends inside ends⟩
  · rintro ⟨nonempty, rfl, rfl⟩
    refine ⟨nonempty, fun c taken => List.mem_takeWhile_imp taken, ?_, ends_dropWhile _ _⟩
    obtain ⟨blanks, blank, text_eq⟩ := begins_nil_skipBlank text
    exact ⟨blanks, blank, by rw [List.takeWhile_append_dropWhile]; exact text_eq⟩

/-! ## How a text leads -/

/-- The text begins, apart from blanks and letter case, with the given characters. -/
def Leads (front text : List Char) : Prop := front <+: (skipBlank text).map Char.toLower

theorem Begins.leads {token text rest : List Char} (solid : Solid token)
    (begins : Begins token text rest) : Leads (token.map Char.toLower) text := by
  rw [Leads, (begins_iff solid text rest).mp begins, List.map_append]
  exact List.prefix_append _ _

theorem Keyword.leads {word : String} {text rest : List Char} (solid : Solid word.toList)
    (keyword : Keyword word text rest) : Leads word.toList text := by
  obtain ⟨spelled, lower, begins, -⟩ := keyword
  rw [← lower]
  exact begins.leads (solid_of_toLower lower solid)

theorem Leads.skipBlank_ne_cons {c d : Char} {front text rest : List Char}
    (leads : Leads (c :: front) text) (different : d.toLower ≠ c) :
    skipBlank text ≠ d :: rest := by
  intro uncovered
  rw [Leads, uncovered] at leads
  obtain ⟨tail, same⟩ := leads
  exact different (List.cons.inj same).1.symm

theorem Run.exists_skipBlank_eq {member : Char → Bool}
    (solid : ∀ c, member c = true → isBlank c = false) {run text rest : List Char}
    (found : Run member run text rest) :
    ∃ c tail, run = c :: tail ∧ member c = true ∧ skipBlank text = c :: (tail ++ rest) := by
  obtain ⟨nonempty, inside, begins, -⟩ := found
  cases run with
  | nil => exact absurd rfl nonempty
  | cons c run =>
      have first := inside c List.mem_cons_self
      have run_solid : Solid (c :: run) := solid c first
      exact ⟨c, run, rfl, first, (begins_iff run_solid text rest).mp begins⟩

/-- A text does not begin with a keyword if it leads in another way. -/
theorem keyword?_eq_none_of_leads {word : String} {front text : List Char}
    (solid : Solid word.toList) (leads : Leads front text)
    (apart : ¬ word.toList <+: front ∧ ¬ front <+: word.toList) :
    keyword? word (skipBlank text) = none := by
  cases scanned : keyword? word (skipBlank text) with
  | none => rfl
  | some rest =>
      have other := ((keyword?_skipBlank_eq_some_iff solid).mp scanned).leads solid
      rcases List.prefix_or_prefix_of_prefix other leads with first | second
      · exact absurd first apart.1
      · exact absurd second apart.2

end Grammar
end RecordQuery
