import RowSieve.Text.Lowercase
import RowSieve.Text.Segment

/-!
# The Lower Case of a Part of a Text

A part of a text has a place in the lower-case form of the whole, and what
stands there is the lower-case form of the part among the texts around it. It
need not be the lower-case form of the part on its own. One character makes the
difference: a capital sigma looks to both sides for the word it may end, and
what it finds beyond the ends of the part can change the letter it becomes.

So the lower-case form of a part is a part of the lower-case form of the whole
if the capital sigmas of the part end words there exactly where they end words
in the part alone. A part without capital sigmas leaves nothing to ask.

## Main definitions

* `lowerBetween`: The lower-case form of a text between two others.
* `KeepsSigmas`: The capital sigmas of a text find the same among two others.

## Theorems

* `lowercase_between`: The place of a part in the lower-case form of the whole.
* `lowerBetween_eq_lowercase_iff`: When it is filled by the lower-case form of
  the part.
* `lowercase_infix`: Parts whose lower-case form is found again.
-/

namespace RowSieve

namespace Text

/-- The lower-case form of a text that stands between two others. The one in
    front is given in reverse. -/
def lowerBetween (before : List Char) : (text after : List Char) → List Char
  | [], _ => []
  | c :: cs, after => lowerWithin before c (cs ++ after) ++ lowerBetween (c :: before) cs after

/-- Each capital sigma of the text ends a word between the two others exactly
    if it ends a word in the text alone. -/
def KeepsSigmas (before text after : List Char) : Prop :=
  ∀ front back, text = front ++ 'Σ' :: back →
    endsWord (front.reverse ++ before.reverse) (back ++ after) = endsWord front.reverse back

theorem lowercaseAfter_append (before text after : List Char) :
    lowercaseAfter before (text ++ after) =
      lowerBetween before text after ++ lowercaseAfter (text.reverse ++ before) after := by
  induction text generalizing before with
  | nil => rfl
  | cons c cs ih =>
      rw [List.cons_append, lowercaseAfter, ih, lowerBetween, List.append_assoc,
        List.reverse_cons, List.append_assoc, List.singleton_append]

/-- The lower-case form of a text is made of those of its parts among each
    other. -/
theorem lowercase_between (before text after : List Char) :
    lowercase (before ++ text ++ after) =
      lowerBetween [] before (text ++ after) ++ lowerBetween before.reverse text after ++
        lowercaseAfter (text.reverse ++ before.reverse) after := by
  rw [lowercase, List.append_assoc, lowercaseAfter_append, lowercaseAfter_append,
    List.append_nil, List.append_assoc]

section Sigmas

/-- How long the lower-case form of a character is depends on nothing around
    it. -/
theorem length_lowerWithin (c : Char) (before after before' after' : List Char) :
    (lowerWithin before c after).length = (lowerWithin before' c after').length := by
  unfold lowerWithin
  by_cases hsigma : c = 'Σ'
  · rw [if_pos hsigma, if_pos hsigma, List.length_singleton, List.length_singleton]
  · rw [if_neg hsigma, if_neg hsigma]

/-- Nor does the form itself, unless the character is a capital sigma. -/
theorem lowerWithin_eq_iff {c : Char} {before after before' after' : List Char} :
    lowerWithin before c after = lowerWithin before' c after' ↔
      (c = 'Σ' → endsWord before after = endsWord before' after') := by
  unfold lowerWithin
  by_cases hsigma : c = 'Σ'
  · rw [if_pos hsigma, if_pos hsigma, hsigma]
    cases endsWord before after <;> cases endsWord before' after' <;> decide
  · rw [if_neg hsigma, if_neg hsigma]
    exact iff_of_true rfl fun h => absurd h hsigma

/-- A text has the same lower-case form in two places exactly if its capital
    sigmas find the same in both. -/
theorem lowerBetween_eq_iff {text before after before' after' : List Char} :
    lowerBetween before text after = lowerBetween before' text after' ↔
      ∀ front back, text = front ++ 'Σ' :: back →
        endsWord (front.reverse ++ before) (back ++ after) =
          endsWord (front.reverse ++ before') (back ++ after') := by
  induction text generalizing before before' with
  | nil =>
      refine iff_of_true rfl fun front back h => ?_
      simp only [List.nil_eq, List.append_eq_nil_iff, reduceCtorEq, and_false] at h
  | cons c cs ih =>
      rw [lowerBetween, lowerBetween]
      constructor
      · intro h front back hsplit
        -- The forms of a character have one length, so the rest begins at the
        -- same place on both sides.
        rcases List.append_inj h (length_lowerWithin ..) with ⟨hchar, hrest⟩
        -- The sigma is the first character or one of the others.
        cases front with
        | nil =>
            rcases List.cons.inj hsplit with ⟨hc, rfl⟩
            exact lowerWithin_eq_iff.mp hchar hc
        | cons d ds =>
            rcases List.cons.inj hsplit with ⟨rfl, hcs⟩
            rw [List.reverse_cons, List.append_assoc, List.append_assoc]
            exact ih.mp hrest ds back hcs
      · intro h
        have hchar : lowerWithin before c (cs ++ after) = lowerWithin before' c (cs ++ after') :=
          lowerWithin_eq_iff.mpr fun hc => h [] cs (by rw [hc, List.nil_append])
        have hrest : lowerBetween (c :: before) cs after = lowerBetween (c :: before') cs after' :=
          ih.mpr fun front back hcs => by
            have hsigma := h (c :: front) back (by rw [hcs, List.cons_append])
            rw [List.reverse_cons, List.append_assoc, List.append_assoc] at hsigma
            exact hsigma
        rw [hchar, hrest]

/-- The place of a part is filled by its lower-case form exactly if the part
    keeps its capital sigmas. -/
theorem lowerBetween_eq_lowercase_iff {before text after : List Char} :
    lowerBetween before.reverse text after = lowercase text ↔ KeepsSigmas before text after := by
  have halone : lowercase text = lowerBetween [] text [] := by
    have h := lowercaseAfter_append [] text []
    rw [List.append_nil, lowercaseAfter, List.append_nil] at h
    exact h
  rw [halone, lowerBetween_eq_iff, KeepsSigmas]
  simp only [List.append_nil]

instance (before text after : List Char) : Decidable (KeepsSigmas before text after) :=
  decidable_of_iff _ lowerBetween_eq_lowercase_iff

/-- A text without capital sigmas keeps them wherever it stands. -/
theorem keepsSigmas_of_not_mem {text : List Char} (h : 'Σ' ∉ text) (before after : List Char) :
    KeepsSigmas before text after := by
  rintro front back rfl
  exact absurd (List.mem_append_right front List.mem_cons_self) h

/-- A part that keeps its capital sigmas is found again in lower case. -/
theorem lowercase_infix {before text after : List Char} (h : KeepsSigmas before text after) :
    lowercase text <:+: lowercase (before ++ text ++ after) := by
  rw [lowercase_between, lowerBetween_eq_lowercase_iff.mpr h]
  exact ⟨_, _, rfl⟩

end Sigmas

end Text

end RowSieve
