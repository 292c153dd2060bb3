import RowSieve.Proofs.Predicate.MemberText

/-!
# Predicates Shown by Their Text

No two predicates share a text, if names are words, date-times are ones that some
text denotes, and no conjunction has fewer than two members. A conjunction of one
member would be written as that member, and one of none as the predicate that is
always met.

That a negation ends at its closing parenthesis is known once it is known of
the predicate inside, and there it is a matter of its conjuncts, which may be
negations again. So what is proved by recursion is about the conjuncts of a
predicate, and not about the predicate.

## Main definitions

* `Predicate.conjuncts`: The members of a conjunction, or the predicate itself.

## Theorems

* `Predicate.spelling_eq`: A predicate is written by its conjuncts.
* `Predicate.shown_of_conjuncts`: A predicate is shown if its conjuncts are.
* `Predicate.conjuncts_shown`: All conjuncts are shown.
* `Predicate.text_eq_text_iff`: The text determines the predicate.
-/

namespace RowSieve

namespace Predicate

/-- The members of a conjunction, or the predicate alone if it is none. -/
def conjuncts : Predicate → List Predicate
  | .and ps => ps
  | p => [p]

theorem conjuncts_of_not_conjunction {p : Predicate} (h : p.isConjunction = false) :
    p.conjuncts = [p] := by
  cases p with
  | and => exact Bool.noConfusion h
  | _ => rfl

theorem eq_and_of_isConjunction {p : Predicate} (h : p.isConjunction = true) :
    ∃ ps, p = .and ps := by
  cases p with
  | and ps => exact ⟨ps, rfl⟩
  | _ => exact Bool.noConfusion h

theorem isPlain_and {ps : List Predicate} (h : (and ps).isPlain = true) :
    2 ≤ ps.length ∧ ∀ p ∈ ps, p.isPlain = true := by
  rw [isPlain, Bool.and_eq_true, decide_eq_true_eq, arePlain_iff] at h
  exact h

/-- There is always a conjunct, and all of them are plain. -/
theorem conjuncts_plain {p : Predicate} (h : p.isPlain = true) :
    p.conjuncts ≠ [] ∧ ∀ q ∈ p.conjuncts, q.isPlain = true := by
  cases hconjunction : p.isConjunction with
  | false =>
      rw [conjuncts_of_not_conjunction hconjunction]
      refine ⟨List.cons_ne_nil p [], fun q hq => ?_⟩
      rw [List.mem_singleton.mp hq, h]
  | true =>
      rcases eq_and_of_isConjunction hconjunction with ⟨ps, rfl⟩
      rcases isPlain_and h with ⟨hlength, hmembers⟩
      refine ⟨?_, hmembers⟩
      intro hnil
      rw [show ps = [] from hnil] at hlength
      exact absurd hlength (by decide)

/-- A predicate is written by its conjuncts. -/
theorem spelling_eq (p : Predicate) (h : p.isPlain = true) :
    p.spelling = " AND ".toList.intercalate (p.conjuncts.map member) := by
  cases hconjunction : p.isConjunction with
  | false =>
      rw [conjuncts_of_not_conjunction hconjunction, List.map_singleton,
        List.intercalate_singleton, member, enclosed, hconjunction, if_neg Bool.false_ne_true]
  | true =>
      rcases eq_and_of_isConjunction hconjunction with ⟨ps, rfl⟩
      have hne : ps ≠ [] := (conjuncts_plain h).1
      unfold spelling
      rw [memberSpellings_eq, conjuncts]
      cases ps with
      | nil => exact absurd rfl hne
      | cons p ps => rfl

/-- The conjuncts show the predicate, since one conjunct is not a conjunction
    of two. -/
theorem conjuncts_injective {p q : Predicate} (hp : p.isPlain = true) (hq : q.isPlain = true)
    (h : p.conjuncts = q.conjuncts) : p = q := by
  have hne : ∀ {p : Predicate} {qs : List Predicate}, (and qs).isPlain = true → [p] ≠ qs := by
    intro p qs hqs hsingle
    have hlength := (isPlain_and hqs).1
    rw [← hsingle, List.length_singleton] at hlength
    exact absurd hlength (by decide)
  cases hpc : p.isConjunction <;> cases hqc : q.isConjunction
  · rw [conjuncts_of_not_conjunction hpc, conjuncts_of_not_conjunction hqc] at h
    exact (List.cons.inj h).1
  · rcases eq_and_of_isConjunction hqc with ⟨qs, rfl⟩
    rw [conjuncts_of_not_conjunction hpc] at h
    exact absurd h (hne hq)
  · rcases eq_and_of_isConjunction hpc with ⟨ps, rfl⟩
    rw [conjuncts_of_not_conjunction hqc] at h
    exact absurd h.symm (hne hp)
  · rcases eq_and_of_isConjunction hpc with ⟨ps, rfl⟩
    rcases eq_and_of_isConjunction hqc with ⟨qs, rfl⟩
    rw [show ps = qs from h]

/-- A predicate is shown if its conjuncts are. -/
theorem shown_of_conjuncts {p : Predicate} (hp : p.isPlain = true)
    (h : ∀ q ∈ p.conjuncts, q.MemberShown) : p.Shown := by
  intro q r s hq hr hs heq
  have hsep : ∀ t, ¬ Closes (" AND ".toList ++ t) := fun t ht =>
    absurd (closes_cons.mp ht) (by decide)
  rw [spelling_eq p hp, spelling_eq q hq] at heq
  rcases List.exists_cons_of_ne_nil (conjuncts_plain hp).1 with ⟨x, xs, hx⟩
  rcases List.exists_cons_of_ne_nil (conjuncts_plain hq).1 with ⟨y, ys, hy⟩
  have hplain := (conjuncts_plain hq).2
  rw [hx] at h heq
  rw [hy] at heq hplain
  rcases Text.shows_separated hsep h hplain hr hs heq with ⟨hconjuncts, hrest⟩
  exact ⟨conjuncts_injective hp hq (hx.trans (hconjuncts.trans hy.symm)), hrest⟩

mutual

/-- All conjuncts of a predicate are shown. A negation is shown by what is
    inside of it, and that by its own conjuncts. -/
theorem conjuncts_shown : ∀ (p : Predicate), p.isPlain = true → ∀ q ∈ p.conjuncts, q.MemberShown
  | .not inner, hp, q, hq => by
      rw [List.mem_singleton.mp hq]
      have hinner := shown_of_conjuncts (p := inner) hp (conjuncts_shown inner hp)
      refine member_shown hp (fun i hi => ?_) nofun
      cases hi
      exact hinner
  | .and ps, hp, q, hq => members_shown ps (isPlain_and hp).2 q hq
  | .compare .., hp, q, hq | .oneOf .., hp, q, hq | .noneOf .., hp, q, hq
  | .isNull _, hp, q, hq | .isNotNull _, hp, q, hq | .like .., hp, q, hq
  | .contains .., hp, q, hq | .always, hp, q, hq => by
      rw [List.mem_singleton.mp hq]
      exact member_shown hp nofun nofun

/-- All members of a list are shown as members of a conjunction. -/
theorem members_shown : ∀ (ps : List Predicate), (∀ p ∈ ps, p.isPlain = true) →
    ∀ q ∈ ps, q.MemberShown
  | [], _, q, hq => absurd hq List.not_mem_nil
  | p :: ps, hps, q, hq => by
      rw [List.forall_mem_cons] at hps
      have hconjuncts := conjuncts_shown p hps.1
      rcases List.mem_cons.mp hq with rfl | hq
      -- Its conjuncts show it, whether it is one of them or not.
      · cases hconjunction : q.isConjunction with
        | false =>
            rw [conjuncts_of_not_conjunction hconjunction] at hconjuncts
            exact hconjuncts q (List.mem_singleton_self q)
        | true =>
            rcases eq_and_of_isConjunction hconjunction with ⟨qs, rfl⟩
            exact member_shown hps.1 nofun fun _ _ => shown_of_conjuncts hps.1 hconjuncts
      · exact members_shown ps hps.2 q hq

end

/-- The text determines the predicate. -/
theorem text_eq_text_iff {p q : Predicate} (hp : p.isPlain = true) (hq : q.isPlain = true) :
    p.text = q.text ↔ p = q := by
  refine ⟨fun h => ?_, fun h => by rw [h]⟩
  have hspelling : p.spelling = q.spelling := String.ofList_inj.mp h
  have hclosed : Closes [] := nofun
  refine (shown_of_conjuncts hp (conjuncts_shown p hp) q [] [] hq hclosed hclosed ?_).1
  rw [hspelling]

/-- A pattern that looks like the end of a shorter one and a second condition. -/
def imitation : Predicate := .like (.field "title") "a' AND id > '5"

/-- The two conditions that it imitates. -/
def imitated : Predicate :=
  .and [.like (.field "title") "a", .compare .greater (.field "id") (.string "5")]

/-- The imitation is no use, since the quotes inside the pattern are doubled. -/
theorem text_imitation_ne :
    imitation.isPlain = true ∧ imitated.isPlain = true ∧
      (imitation.text = imitated.text ↔ imitation = imitated) ∧ imitation ≠ imitated :=
  ⟨by decide, by decide, text_eq_text_iff (by decide) (by decide), Predicate.noConfusion⟩

end Predicate

end RowSieve
