import RecordQuery.Proofs.Cursor.Scan
import RecordQuery.Proofs.Grammar.Comparison

/-!
# Scanning tokens

Blanks, keywords, signs and runs of characters, scanned by a cursor that goes on by as many bytes as
are taken to have been passed: by the size of a character, by the length of a keyword or a sign, or
by one.  Each of these scans tracks the reader of the same token.
-/

namespace RecordQuery
namespace Cursor

open Text RecordQuery.Parser

namespace Scan

/-- Goes on over characters of a class; a character of it is passed by `width` bytes. -/
def passWhile (member : Char → Bool) (width : Char → Nat) : Nat → Scan Unit
  | 0 => stop .exhausted
  | steps + 1 => do
    if ← atEnd then
      return ()
    else
      let c ← current
      if member c then
        advance (width c)
        passWhile member width steps
      else
        return ()

/-- Goes on over blanks. -/
def passBlanks : Scan Unit := bounded (passWhile isBlank Char.utf8Size)

/-- Goes on over a character if the text goes on with it. -/
def passChar (c : Char) : Scan Bool := do
  if ← atEnd then
    return false
  else if (← current) == c then
    advance c.utf8Size
    return true
  else
    return false

/-- Goes on over a sign if the text goes on with it. -/
def passSign (sign : List Char) : Scan Bool := do
  if sign.isPrefixOf (← unread) then
    advance (byteLength sign)
    return true
  else
    return false

/-- Goes on over a keyword, given in lower case, if the text goes on with it and not with a longer
word. -/
def passKeyword (word : String) : Scan Bool := do
  let rest ← unread
  match cutAt? rest (byteLength word.toList) with
  | none => return false
  | some (head, _) =>
    if head.map Char.toLower = word.toList then
      let after ← piece ((cutAt? rest (byteLength word.toList)).map (·.2))
      if after.head?.any continuesWord then
        return false
      else
        advance (byteLength word.toList)
        return true
    else
      return false

end Scan

variable {text base rest after : List Char}

/-! ## Single steps -/

namespace Follows

theorem unread (ends : rest <:+ text) (within : rest <:+ base) :
    Follows text base (Scan.unread text (placeOf text rest)) (.ok (rest, rest)) := by
  obtain ⟨front, rfl⟩ := ends
  have cut := cutAt?_append front rest
  rw [← placeOf_append front rest] at cut
  rw [Scan.unread, cut]
  exact .still _ within

theorem current (ends : rest <:+ text) (within : rest <:+ base) :
    Follows text base (Scan.current text (placeOf text rest)) (.ok (rest.headD '\x00', rest)) :=
  (unread ends within).bind_ok (.still _ within)

theorem atEnd (ends : rest <:+ text) (within : rest <:+ base) :
    Follows text base (Scan.atEnd text (placeOf text rest)) (.ok (rest.isEmpty, rest)) := by
  have same : decide (byteLength text ≤ placeOf text rest) = rest.isEmpty := by
    obtain ⟨front, rfl⟩ := ends
    rw [placeOf_append, byteLength_append]
    cases rest with
    | nil => simp
    | cons c rest =>
        exact decide_eq_false (Nat.not_le_of_gt (Nat.lt_add_of_pos_right byteLength_pos))
  rw [Scan.atEnd, same]
  exact .still _ within

theorem position (within : rest <:+ base) :
    Follows text base (Scan.position text (placeOf text rest)) (.ok (placeOf text rest, rest)) :=
  .still _ within

theorem advance (run : List Char) (ends : run ++ rest <:+ text) (within : rest <:+ base) :
    Follows text base (Scan.advance (byteLength run) text (placeOf text (run ++ rest)))
      (.ok ((), rest)) := by
  have further : placeOf text (run ++ rest) + byteLength run = placeOf text rest := by
    obtain ⟨front, rfl⟩ := ends
    rw [placeOf_append, ← List.append_assoc, placeOf_append, byteLength_append]
  rw [Scan.advance, further]
  exact moved within _

theorem readSince {run : List Char} (ends : run ++ rest <:+ text) (within : rest <:+ base) :
    Follows text base
      (Scan.readSince (placeOf text (run ++ rest)) text (placeOf text rest)) (.ok (run, rest)) := by
  obtain ⟨front, rfl⟩ := ends
  have cut := cutAt?_append (front ++ run) rest
  rw [← placeOf_append (front ++ run) rest, List.append_assoc] at cut
  rw [Scan.readSince, cut, placeOf_append, Option.bind_some]
  dsimp only
  rw [cutAt?_append]
  exact .still _ within

end Follows

/-! ## Runs of characters -/

namespace Scan

theorem follows_passWhile {member : Char → Bool} {width : Char → Nat}
    (exact : ∀ c, member c = true → width c = c.utf8Size) (ends : rest <:+ text) {steps : Nat}
    (enough : rest.length < steps) :
    Follows text rest (passWhile member width steps text (placeOf text rest))
      (.ok ((), rest.dropWhile member)) := by
  induction steps generalizing rest with
  | zero => exact absurd enough (Nat.not_lt_zero _)
  | succ steps ih =>
      refine (Follows.atEnd ends (List.suffix_refl rest)).bind_ok ?_
      cases rest with
      | nil => exact .still _ (List.suffix_refl _)
      | cons c rest =>
          have shorter : rest <:+ c :: rest := List.suffix_cons c rest
          refine (Follows.current ends (List.suffix_refl _)).bind_ok ?_
          rw [List.headD_cons]
          cases inside : member c with
          | false =>
              rw [List.dropWhile_cons_of_neg (by simp [inside])]
              exact .still _ (List.suffix_refl _)
          | true =>
              rw [List.dropWhile_cons_of_pos inside, exact c inside]
              have goesOn := ih (shorter.trans ends) (Nat.lt_of_succ_lt_succ enough)
              exact (Follows.advance [c] ends shorter).bind_ok (goesOn.mono shorter)

theorem tracks_passBlanks {limit : Nat} :
    Tracks limit passBlanks fun rest => .ok ((), skipBlank rest) :=
  fun _ _ ends _ =>
    follows_passWhile (fun _ _ => rfl) ends (Nat.lt_succ_of_le ends.length_le)

/-! ## Signs and keywords -/

/-- The reader that drops something if the text begins with it, and says whether it does. -/
def attempt (drop? : List Char → Option (List Char)) : Reader Bool := fun rest =>
  match drop? rest with
  | some after => .ok (true, after)
  | none => .ok (false, rest)

theorem attempt_eq (drop? : List Char → Option (List Char)) (rest : List Char) :
    attempt drop? rest = .ok ((drop? rest).isSome, (drop? rest).getD rest) := by
  rw [attempt]
  cases drop? rest <;> rfl

/-- What has been recognised is passed. -/
theorem follows_pass (run : List Char) (ends : run ++ after <:+ text) :
    Follows text (run ++ after)
      ((do advance (byteLength run); return true : Scan Bool) text (placeOf text (run ++ after)))
      (.ok (true, after)) := by
  have within : after <:+ run ++ after := List.suffix_append run after
  exact (Follows.advance run ends within).bind_ok (.still _ within)

theorem tracks_passSign {limit : Nat} (sign : List Char) :
    Tracks limit (passSign sign) (attempt sign.isPrefixOf?) := by
  intro text rest ends _
  refine (Follows.unread ends (List.suffix_refl rest)).bind_ok ?_
  rw [attempt]
  cases begins : sign.isPrefixOf? rest with
  | some after =>
      obtain rfl := isPrefixOf?_eq_some_iff.mp begins
      rw [if_pos (List.isPrefixOf_iff_prefix.mpr (List.prefix_append sign after))]
      exact follows_pass sign ends
  | none =>
      have other : ¬ sign.isPrefixOf rest = true := by
        intro found
        obtain ⟨after, rfl⟩ := List.isPrefixOf_iff_prefix.mp found
        rw [isPrefixOf?_eq_some_iff.mpr rfl] at begins
        cases begins
      rw [if_neg other]
      exact .still _ (List.suffix_refl rest)

theorem tracks_passChar {limit : Nat} (c : Char) :
    Tracks limit (passChar c) (attempt [c].isPrefixOf?) := by
  intro text rest ends _
  refine (Follows.atEnd ends (List.suffix_refl rest)).bind_ok ?_
  cases rest with
  | nil => exact .still _ (List.suffix_refl _)
  | cons d rest =>
      refine (Follows.current ends (List.suffix_refl _)).bind_ok ?_
      rw [List.headD_cons, attempt, List.isPrefixOf?]
      by_cases same : d = c
      · subst same
        rw [if_pos (beq_self_eq_true d), if_pos (beq_self_eq_true d)]
        exact follows_pass [d] ends
      · rw [if_neg (by simpa using same), if_neg (by simpa using Ne.symm same)]
        exact .still _ (List.suffix_refl _)

theorem utf8Size_toLower (c : Char) : c.toLower.utf8Size = c.utf8Size := by
  unfold Char.toLower
  split
  next capital =>
    have upper : c.val.toNat ≤ 90 := UInt32.le_iff_toNat_le.mp capital.2
    have small : c.utf8Size = 1 :=
      Char.utf8Size_eq_one_iff.mpr (UInt32.le_iff_toNat_le.mpr (Nat.le_trans upper (by decide)))
    rw [small, Char.utf8Size_eq_one_iff, UInt32.le_iff_toNat_le]
    show (c.val.toNat + 32) % 2 ^ 32 ≤ 127
    omega
  next => rfl

theorem byteLength_map_toLower (text : List Char) :
    byteLength (text.map Char.toLower) = byteLength text := by
  induction text with
  | nil => rfl
  | cons c text ih => rw [List.map_cons, byteLength_cons, byteLength_cons, ih, utf8Size_toLower]

/-- A keyword takes as many bytes in any letter case. -/
theorem keyword?_eq_some_iff_cutAt? {word : String} :
    keyword? word rest = some after ↔
      ∃ head, cutAt? rest (byteLength word.toList) = some (head, after) ∧
        head.map Char.toLower = word.toList ∧ after.head?.any continuesWord = false := by
  rw [Grammar.keyword?_eq_some_iff]
  refine exists_congr fun head => ?_
  rw [cutAt?_eq_some_iff, Grammar.ends_iff_any, Bool.not_eq_true']
  constructor
  · rintro ⟨lower, split, ends⟩
    exact ⟨⟨split, by rw [← lower, byteLength_map_toLower]⟩, lower, ends⟩
  · rintro ⟨⟨split, -⟩, lower, ends⟩
    exact ⟨lower, split, ends⟩

theorem tracks_passKeyword {limit : Nat} (word : String) :
    Tracks limit (passKeyword word) (attempt (keyword? word)) := by
  intro text rest ends _
  refine (Follows.unread ends (List.suffix_refl rest)).bind_ok ?_
  have stays (absent : keyword? word rest = none) :
      Follows text rest ⟨[], .ok (false, placeOf text rest)⟩ (attempt (keyword? word) rest) := by
    rw [attempt, absent]
    exact .still _ (List.suffix_refl rest)
  cases cut : cutAt? rest (byteLength word.toList) with
  | none =>
      refine stays (Option.eq_none_iff_forall_ne_some.mpr fun after found => ?_)
      obtain ⟨head, cut', -⟩ := keyword?_eq_some_iff_cutAt?.mp found
      rw [cut] at cut'
      cases cut'
  | some pieces =>
      obtain ⟨head, after⟩ := pieces
      have noKeyword (fails : ¬ (head.map Char.toLower = word.toList ∧
          after.head?.any continuesWord = false)) : keyword? word rest = none := by
        refine Option.eq_none_iff_forall_ne_some.mpr fun after' found => fails ?_
        obtain ⟨head', cut', holds⟩ := keyword?_eq_some_iff_cutAt?.mp found
        rw [cut] at cut'
        obtain ⟨rfl, rfl⟩ := Prod.mk.inj (Option.some.inj cut')
        exact holds
      dsimp only
      by_cases lower : head.map Char.toLower = word.toList
      · rw [if_pos lower]
        have sliced : Follows text rest (piece (some after) text (placeOf text rest))
            (.ok (after, rest)) := .still after (List.suffix_refl rest)
        refine sliced.bind_ok ?_
        cases longer : after.head?.any continuesWord with
        | true => exact stays (noKeyword fun holds => by simp [longer] at holds)
        | false =>
            obtain ⟨rfl, size⟩ := eq_append_of_cutAt? cut
            rw [attempt, keyword?_eq_some_iff_cutAt?.mpr ⟨head, cut, lower, longer⟩, size]
            exact follows_pass head ends
      · rw [if_neg lower]
        exact stays (noKeyword fun holds => lower holds.1)

/-! ## Choices -/

namespace Tracks

variable {α : Type} {limit : Nat} {scan yes no : Scan α} {reader readYes readNo : Reader α}

/-- Blanks are passed before anything else. -/
theorem afterBlanks (tracks : Tracks limit scan reader) :
    Tracks limit (do passBlanks; scan) fun rest => reader (skipBlank rest) :=
  tracks_passBlanks.bind fun _ => tracks

/-- A scan goes on in one of two ways, according to whether something is there to be passed.  What
has been passed makes the text shorter. -/
theorem ite {pass : Scan Bool} {drop? : List Char → Option (List Char)}
    (tracks : Tracks limit pass (attempt drop?))
    (shorter : ∀ rest after, drop? rest = some after → after.length < rest.length)
    (found : Tracks (limit - 1) yes readYes) (absent : Tracks limit no readNo) :
    Tracks limit (do if ← pass then yes else no) fun rest =>
      match drop? rest with
      | some after => readYes after
      | none => readNo rest := by
  intro text rest ends short
  have passes := tracks text rest ends short
  rw [attempt] at passes
  cases dropped : drop? rest with
  | some after =>
      rw [dropped] at passes
      have less : after.length < limit - 1 :=
        Nat.lt_sub_of_add_lt (Nat.lt_of_le_of_lt (shorter rest after dropped) short)
      have goesOn := found text after (passes.leaves.trans ends) less
      simp only [dropped]
      exact passes.bind_ok (goesOn.mono passes.leaves)
  | none =>
      rw [dropped] at passes
      simp only [dropped]
      exact passes.bind_ok (absent text rest ends short)

theorem ifSign {sign : List Char} (nonempty : sign ≠ []) (found : Tracks (limit - 1) yes readYes)
    (absent : Tracks limit no readNo) :
    Tracks limit (do if ← passSign sign then yes else no) fun rest =>
      match sign.isPrefixOf? rest with
      | some after => readYes after
      | none => readNo rest := by
  refine ite (tracks_passSign sign) (fun rest after begins => ?_) found absent
  rw [isPrefixOf?_eq_some_iff.mp begins, List.length_append]
  have := List.length_pos_of_ne_nil nonempty
  omega

theorem ifChar (c : Char) (found : Tracks (limit - 1) yes readYes)
    (absent : Tracks limit no readNo) :
    Tracks limit (do if ← passChar c then yes else no) fun rest =>
      match [c].isPrefixOf? rest with
      | some after => readYes after
      | none => readNo rest := by
  refine ite (tracks_passChar c) (fun rest after begins => ?_) found absent
  rw [isPrefixOf?_eq_some_iff.mp begins]
  exact Nat.lt_succ_self _

theorem ifKeyword {word : String} (nonempty : word.toList ≠ [])
    (found : Tracks (limit - 1) yes readYes) (absent : Tracks limit no readNo) :
    Tracks limit (do if ← passKeyword word then yes else no) fun rest =>
      match keyword? word rest with
      | some after => readYes after
      | none => readNo rest := by
  refine ite (tracks_passKeyword word) (fun rest after begins => ?_) found absent
  obtain ⟨head, lower, rfl, -⟩ := Grammar.keyword?_eq_some_iff.mp begins
  have := List.length_pos_of_ne_nil nonempty
  rw [← lower, List.length_map] at this
  rw [List.length_append]
  omega

/-- No keyword begins a text that is empty. -/
theorem noKeyword {word : String} (nonempty : word.toList ≠ []) (last : limit ≤ 1)
    (absent : Tracks limit no readNo) :
    Tracks limit (do if ← passKeyword word then yes else no) readNo := by
  have found : Tracks (limit - 1) yes readNo := vacuous.weaken (Nat.sub_le_of_le_add last)
  refine (ifKeyword nonempty found absent).congr fun rest short => ?_
  obtain rfl : rest = [] := List.eq_nil_of_length_eq_zero (by omega)
  have none_found : keyword? word [] = none := by
    rw [keyword?]
    cases letters : word.toList with
    | nil => exact absurd letters nonempty
    | cons letter word => rfl
  rw [none_found]

end Tracks

end Scan
end Cursor
end RecordQuery
