import RowSieve.Text.Quoted

/-!
# Texts That Show What They Were Written For

A text that is part of a longer one shows what it was written for only if the
reader can also tell where it ends. Nothing in a digit says that the number is
over, so a number is shown only in front of something that cannot continue it.
`Shows` therefore speaks of a written value together with what follows it, and
of the texts that may follow.

Three ways to write are treated here. A run of characters ends where another
kind of character begins. Quoted text ends at a quote that is not doubled. And
a list shows its members if each member is shown in front of a separator and at
the end of the list.

## Main definitions

* `Text.Shows`: A value and what follows it are shown by the text of both.
* `Text.NotNext`: No character of a kind comes next.

## Theorems

* `Text.run_cancel`: A run of characters is shown by its end.
* `Text.Quoted.enclose_cancel`: Quoted text is shown, whatever is inside.
* `Text.shows_separated`: A list is shown if its members are.
-/

namespace RowSieve

namespace Text

/-- Among the values that are `ok`, only this one and only this rest give the
    text of both, if what follows a value is a text that may follow it. -/
def Shows {α : Type} (write : α → List Char) (ok : α → Prop) (after : List Char → Prop)
    (a : α) : Prop :=
  ∀ b r s, ok b → after r → after s → write a ++ r = write b ++ s → a = b ∧ r = s

/-- If less may follow it, a value is shown all the more. -/
theorem Shows.mono {α : Type} {write : α → List Char} {ok : α → Prop}
    {after after' : List Char → Prop} {a : α} (h : Shows write ok after a)
    (hafter : ∀ r, after' r → after r) : Shows write ok after' a :=
  fun b r s hb hr hs heq => h b r s hb (hafter r hr) (hafter s hs) heq

/-- The text does not start with a character of the kind. -/
def NotNext (kind : Char → Bool) (rest : List Char) : Prop := ∀ c ∈ rest.head?, kind c = false

theorem notNext_cons {kind : Char → Bool} {c : Char} {cs : List Char} :
    NotNext kind (c :: cs) ↔ kind c = false := by
  simp only [NotNext, List.head?_cons, Option.mem_def, Option.some.injEq, forall_eq']

/-- A run of characters of one kind is over where another kind begins. -/
theorem run_cancel {kind : Char → Bool} {as bs r s : List Char} (has : ∀ c ∈ as, kind c = true)
    (hbs : ∀ c ∈ bs, kind c = true) (hr : NotNext kind r) (hs : NotNext kind s)
    (h : as ++ r = bs ++ s) : as = bs ∧ r = s := by
  induction as generalizing bs with
  | nil =>
      cases bs with
      | nil => exact ⟨rfl, h⟩
      | cons b bs =>
          -- What follows the empty run would have to start like the other run.
          rw [List.nil_append, List.cons_append] at h
          rw [h, notNext_cons, hbs b List.mem_cons_self] at hr
          exact Bool.noConfusion hr
  | cons a as ih =>
      cases bs with
      | nil =>
          rw [List.nil_append, List.cons_append] at h
          rw [← h, notNext_cons, has a List.mem_cons_self] at hs
          exact Bool.noConfusion hs
      | cons b bs =>
          rw [List.cons_append, List.cons_append, List.cons.injEq] at h
          rw [List.forall_mem_cons] at has hbs
          rcases ih has.2 hbs.2 h.2 with ⟨hrun, hrest⟩
          exact ⟨by rw [h.1, hrun], hrest⟩

section Affixes

variable {a b c z r s : List Char}

/-- The same text in front of two texts is taken off both. -/
theorem cancel_front (h : a ++ b ++ r = a ++ c ++ s) : b ++ r = c ++ s := by
  rw [List.append_assoc, List.append_assoc] at h
  exact List.append_cancel_left h

/-- The same if they end alike, and have different rests behind that. -/
theorem cancel_between (h : a ++ b ++ z ++ r = a ++ c ++ z ++ s) :
    b ++ (z ++ r) = c ++ (z ++ s) := by
  rw [List.append_assoc _ z r, List.append_assoc _ z s] at h
  exact cancel_front h

end Affixes

namespace Quoted

theorem double_cons {c : Char} (hc : c ≠ '\'') (cs : List Char) :
    double (c :: cs) = c :: double cs := by
  rw [double]
  exact fun h => hc h

/-- The inside of quotes is over at the first quote that is not doubled. -/
theorem double_cancel {as bs r s : List Char} (hr : NotNext (· == '\'') r)
    (hs : NotNext (· == '\'') s) (h : double as ++ '\'' :: r = double bs ++ '\'' :: s) :
    as = bs ∧ r = s := by
  -- The end of one text cannot stand where the other one goes on.
  have hend : ∀ {c : Char} {cs r s : List Char}, NotNext (· == '\'') r →
      '\'' :: r ≠ double (c :: cs) ++ '\'' :: s := by
    intro c cs r s hr h
    by_cases hc : c = '\''
    · rw [hc, double, List.cons_append, List.cons_append, List.cons.injEq] at h
      rw [h.2, notNext_cons] at hr
      exact Bool.noConfusion hr
    · rw [double_cons hc, List.cons_append, List.cons.injEq] at h
      exact hc h.1.symm
  induction as generalizing bs with
  | nil =>
      cases bs with
      | nil => exact ⟨rfl, (List.cons.inj h).2⟩
      | cons b bs => exact absurd h (hend hr)
  | cons a as ih =>
      cases bs with
      | nil => exact absurd h.symm (hend hs)
      | cons b bs =>
          by_cases ha : a = '\'' <;> by_cases hb : b = '\''
          · simp only [ha, hb, double, List.cons_append, List.cons.injEq, true_and] at h
            rcases ih h with ⟨htext, hrest⟩
            exact ⟨by rw [ha, hb, htext], hrest⟩
          · simp only [ha, double, double_cons hb, List.cons_append, List.cons.injEq] at h
            exact absurd h.1.symm hb
          · simp only [hb, double, double_cons ha, List.cons_append, List.cons.injEq] at h
            exact absurd h.1 ha
          · simp only [double_cons ha, double_cons hb, List.cons_append, List.cons.injEq] at h
            rcases ih h.2 with ⟨htext, hrest⟩
            exact ⟨by rw [h.1, htext], hrest⟩

theorem enclose_cancel {as bs r s : List Char} (hr : NotNext (· == '\'') r)
    (hs : NotNext (· == '\'') s) (h : enclose as ++ r = enclose bs ++ s) : as = bs ∧ r = s := by
  rw [enclose, enclose, List.cons_append, List.cons_append, List.cons_append, List.cons_append,
    List.cons.injEq, List.append_assoc, List.append_assoc] at h
  exact double_cancel hr hs h.2

end Quoted

section Lists

variable {α : Type} {write : α → List Char} {ok : α → Prop} {after : List Char → Prop}
  {sep : List Char}

/-- A list starts with its first member. -/
theorem exists_intercalate_cons (sep t : List Char) (ts : List (List Char)) :
    ∃ u, sep.intercalate (t :: ts) = t ++ u := by
  cases ts with
  | nil => exact ⟨[], by rw [List.intercalate_singleton, List.append_nil]⟩
  | cons t' ts => exact ⟨_, by rw [List.intercalate_cons_cons, List.append_assoc]⟩

/-- What may follow a member of a list: the separator, or what may follow the
    list. -/
def AfterMember (sep : List Char) (after : List Char → Prop) (rest : List Char) : Prop :=
  after rest ∨ ∃ t, rest = sep ++ t

/-- A list of at least one member is shown if its members are. What follows the
    list must not start with a separator. -/
theorem shows_separated (hsep : ∀ t, ¬ after (sep ++ t)) {x y : α} {xs ys : List α}
    (hxs : ∀ z ∈ x :: xs, Shows write ok (AfterMember sep after) z) (hys : ∀ z ∈ y :: ys, ok z)
    {r s : List Char} (hr : after r) (hs : after s)
    (h : sep.intercalate ((x :: xs).map write) ++ r = sep.intercalate ((y :: ys).map write) ++ s) :
    x :: xs = y :: ys ∧ r = s := by
  induction xs generalizing x y ys with
  | nil =>
      rw [List.map_singleton, List.intercalate_singleton] at h
      have hx := hxs x List.mem_cons_self y
      have hy := hys y List.mem_cons_self
      cases ys with
      | nil =>
          rw [List.map_singleton, List.intercalate_singleton] at h
          rcases hx r s hy (.inl hr) (.inl hs) h with ⟨hmember, hrest⟩
          exact ⟨by rw [hmember], hrest⟩
      | cons y' ys =>
          rw [List.map_cons, List.map_cons, List.intercalate_cons_cons, List.append_assoc,
            List.append_assoc] at h
          have hrest := (hx r _ hy (.inl hr) (.inr ⟨_, rfl⟩) h).2
          exact absurd (hrest ▸ hr) (hsep _)
  | cons x' xs ih =>
      have hx := hxs x List.mem_cons_self y
      have hy := hys y List.mem_cons_self
      rw [List.map_cons, List.map_cons, List.intercalate_cons_cons, List.append_assoc,
        List.append_assoc] at h
      cases ys with
      | nil =>
          rw [List.map_singleton, List.intercalate_singleton] at h
          have hrest := (hx _ s hy (.inr ⟨_, rfl⟩) (.inl hs) h).2
          exact absurd (hrest ▸ hs) (hsep _)
      | cons y' ys =>
          rw [List.map_cons, List.map_cons, List.intercalate_cons_cons, List.append_assoc,
            List.append_assoc] at h
          rcases hx _ _ hy (.inr ⟨_, rfl⟩) (.inr ⟨_, rfl⟩) h with ⟨hmember, hrest⟩
          rcases ih (fun z hz => hxs z (List.mem_cons_of_mem _ hz))
            (fun z hz => hys z (List.mem_cons_of_mem _ hz)) (List.append_cancel_left hrest)
            with ⟨hmembers, hrest⟩
          exact ⟨by rw [hmember, hmembers], hrest⟩

end Lists

end Text

end RowSieve
