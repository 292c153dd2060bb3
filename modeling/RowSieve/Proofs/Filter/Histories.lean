import RowSieve.Proofs.Filter.Acceptance

/-!
# Filters and Their History

A filter comes about by starting without conditions and setting them. A filter
on date-times can come about in two more ways: from a text, and from a plain
filter. Each of these ways moves the inclusive bounds by a step of its own, and
setting a condition moves them by another one. So whether a bound stands at an
end of its day could depend on how the filter came about and on what was done to
it in between.

It does not. `Filter.lastGiven?` looks at a history from its end and finds the
operand that was given last for a condition, as it was given. What the filter
holds is that operand, moved to the start or the end of its day for the two
inclusive bounds of a filter on date-times, and untouched everywhere else.

A text is the one step that can fail. What is given by a text is what the plain
filter of the same text holds, since plain filters keep operands as they are.
The two kinds of filter accept the same texts.

## Main definitions

* `Filter.Assignment`: A condition and the operand it is set to.
* `Filter.Step`: One step in the history of a filter.
* `Filter.Step.apply`, `Filter.after`: The filter after a step, and after a
  history.
* `Filter.Step.says?`, `Filter.lastGiven?`: What a step says of a condition, and
  the operand that was given last.

## Theorems

* `Filter.toOption_ofJson?_dateTime`: Reading is reading a plain filter and
  widening it.
* `Filter.operand?_apply`: What a step does to a condition.
* `Filter.view_foldl`: What a run leaves in one place.
* `Filter.operand?_after`: What a history leaves of a condition.
* `Filter.Reachable.widened_plain`: A filter that was built survives the way
  through a plain one.
* `Filter.after_holds_lastGiven`: Bounds are whole days after every history.
-/

namespace RowSieve

open Calendar

namespace Filter

/-- A condition that a kind of filter has, and the operand it is set to. -/
structure Assignment (kind : Kind) where
  condition : Condition
  supported : kind.supports condition.family = true
  operand : condition.Operand kind.scalar

/-- One step in the history of a filter. -/
inductive Step : Kind → Type where
  /-- Start again without conditions. -/
  | new {kind : Kind} : Step kind
  /-- Set a condition. -/
  | set {kind : Kind} (a : Assignment kind) : Step kind
  /-- Start again from a text. -/
  | ofJson (text : String) : Step .dateTime
  /-- Start again from a plain filter. -/
  | ofPlain (f : Filter (.range .dateTime)) : Step .dateTime

namespace Step

/-- The filter after a step. A text that is no filter leaves the one there
    was. -/
def apply {kind : Kind} (f : Filter kind) : Step kind → Filter kind
  | .new => empty
  | .set a => f.set a.condition a.supported a.operand
  | .ofJson text => (ofJson? .dateTime text).toOption.getD f
  | .ofPlain g => g.widened

/-- What a step says of a condition: an operand for it, that there is none, or
    nothing at all. -/
def says? {kind : Kind} (c : Condition) : Step kind → Option (Option (c.Operand kind.scalar))
  | .new => some none
  | .set a => if h : a.condition = c then some (some (h ▸ a.operand)) else none
  | .ofJson text => (ofJson? (.range .dateTime) text).toOption.map fun g => g.operand? c
  | .ofPlain g => some (g.operand? c)

end Step

/-- The filter after a history. Before the first step there are no
    conditions. -/
def after {kind : Kind} (steps : List (Step kind)) : Filter kind := steps.foldl Step.apply empty

/-- The operand that was given last for a condition, as it was given. There is
    none if the filter was started again since. -/
def lastGiven? {kind : Kind} (steps : List (Step kind)) :
    Json.Members (Condition.Operand kind.scalar) :=
  fun c => (steps.reverse.findSome? (Step.says? c)).join

section Reading

variable {kind : Kind}

/-- A list of operands makes a filter unless one of them is misplaced. -/
theorem isSome_ofMembers? (m : Json.Members (Condition.Operand kind.scalar)) :
    (ofMembers? m).toOption.isSome = (misplaced? kind m).isNone := by
  unfold ofMembers?
  split
  case h_1 c hmisplaced => exact (congrArg Option.isNone hmisplaced).symm
  case h_2 hplaced => exact (congrArg Option.isNone hplaced).symm

/-- A list of operands makes a filter on date-times if it makes a plain one,
    and then it is the plain one widened. -/
theorem toOption_ofMembers?_dateTime
    (m : Json.Members (Condition.Operand Kind.dateTime.scalar)) :
    (ofMembers? m : Except Condition (Filter .dateTime)).toOption =
      (ofMembers? m : Except Condition (Filter (.range .dateTime))).toOption.map widened := by
  cases hg : (ofMembers? m : Except Condition (Filter (.range .dateTime))) with
  | error c =>
      -- The same operands are misplaced in both kinds.
      have hsame : (ofMembers? m : Except Condition (Filter .dateTime)).toOption.isSome =
          (ofMembers? m : Except Condition (Filter (.range .dateTime))).toOption.isSome := by
        rw [isSome_ofMembers?, isSome_ofMembers?]
        rfl
      rw [hg] at hsame
      exact Option.not_isSome_iff_eq_none.mp (ne_true_of_eq_false hsame)
  | ok g =>
      rcases ofMembers?_eq_ok_iff.mp hg with ⟨hplaced, hoperands⟩
      have hother : Kind.range .dateTime ≠ .dateTime := Kind.noConfusion
      have hplain : g.operand? = m := hoperands.trans (keepAll_of_ne hother m)
      have hwidened : (ofMembers? m : Except Condition (Filter .dateTime)) = .ok g.widened := by
        refine ofMembers?_eq_ok_iff.mpr ⟨hplaced, ?_⟩
        rw [← hplain]
        rfl
      rw [hwidened]
      rfl

/-- A text is read as a filter on date-times if it is read as a plain one, and
    then the filter is the plain one widened. -/
theorem toOption_ofJson?_dateTime (text : String) :
    (ofJson? .dateTime text).toOption =
      (ofJson? (.range .dateTime) text).toOption.map widened := by
  -- The record of conditions is read in the same way for both.
  rw [toOption_ofJson?_text, toOption_ofJson?_text, Option.map_bind]
  refine Option.bind_congr fun r _ => ?_
  rw [toOption_ofMembers?_dateTime, Option.bind_map, Function.comp_apply, Option.map_bind]
  refine Option.bind_congr fun f _ => ?_
  rw [Function.comp_apply]
  split <;> rfl

end Reading

section Steps

variable {kind : Kind} {f : Filter kind}

/-- After a step a condition has the operand that the step gives for it, as the
    kind keeps it, and the one it had if the step says nothing of it. -/
theorem operand?_apply (f : Filter kind) (step : Step kind) (c : Condition) :
    (step.apply f).operand? c =
      (step.says? c).elim (f.operand? c) (Option.map (kind.kept c)) := by
  cases step with
  | new => rfl
  | ofPlain g => rfl
  | ofJson text =>
      unfold Step.apply Step.says?
      simp only []
      -- A text that is no plain filter is none of this kind, so nothing changes.
      rw [toOption_ofJson?_dateTime]
      cases (ofJson? (.range .dateTime) text).toOption <;> rfl
  | set a =>
      unfold Step.apply Step.says?
      simp only []
      -- Only the condition that is set gets another operand.
      rw [operand?_set]
      split <;> rfl

/-- Every step builds a filter from one that was built. -/
theorem Reachable.apply (hf : f.Reachable) (step : Step kind) : (step.apply f).Reachable := by
  cases step with
  | new => exact .empty
  | ofPlain g => exact .widened g
  | set a => exact .set a.condition a.supported a.operand hf
  | ofJson text =>
      unfold Step.apply
      simp only []
      cases hread : ofJson? .dateTime text with
      | error e => exact hf
      | ok g => exact .ofJson text hread

/-- A filter that was built is its own widening. -/
theorem Reachable.widened_plain {f : Filter .dateTime} (hf : f.Reachable) : f.plain.widened = f :=
  ext fun c => congrFun hf.settled c

end Steps

section Histories

/-- What a run leaves in one place is what its last steps say of the place, and
    before they say something what there was. The induction is on the run from
    any state, since every step hands over another one. -/
theorem view_foldl {σ τ α β : Type} (view : σ → β) {apply : σ → τ → σ} {says? : τ → Option α}
    {place : α → β} (hstep : ∀ s t, view (apply s t) = (says? t).elim (view s) place)
    (ts : List τ) (s : σ) :
    view (ts.foldl apply s) = (ts.reverse.findSome? says?).elim (view s) place := by
  induction ts generalizing s with
  | nil => rfl
  | cons t ts ih =>
      rw [List.foldl_cons, ih, hstep, List.reverse_cons, List.findSome?_append,
        List.findSome?_singleton]
      -- A later step hides the first one, unless it says nothing.
      cases ts.reverse.findSome? says? <;> rfl

variable {kind : Kind}

/-- A history leaves of a condition what its last steps say. -/
theorem operand?_foldl (steps : List (Step kind)) (f : Filter kind) (c : Condition) :
    (steps.foldl Step.apply f).operand? c =
      (steps.reverse.findSome? (Step.says? c)).elim (f.operand? c) (Option.map (kind.kept c)) :=
  view_foldl (fun g => g.operand? c) (fun g step => operand?_apply g step c) steps f

/-- Every condition has the operand that was given last, as the kind keeps it. -/
theorem operand?_after (steps : List (Step kind)) :
    (after steps).operand? = keepAll kind (lastGiven? steps) := by
  funext c
  rw [after, operand?_foldl, keepAll, lastGiven?]
  cases steps.reverse.findSome? (Step.says? c) <;> rfl

theorem Reachable.foldl {f : Filter kind} (hf : f.Reachable) (steps : List (Step kind)) :
    (steps.foldl Step.apply f).Reachable := by
  induction steps generalizing f with
  | nil => exact hf
  | cons step steps ih => exact ih (hf.apply step)

theorem reachable_after (steps : List (Step kind)) : (after steps).Reachable :=
  Reachable.empty.foldl steps

/-- After every history the inclusive bounds are whole days: the lower one is
    the first reading on the day of the operand that was given last, and the
    upper one the last reading on the day of its own. Every other condition
    holds the operand that was given last, unchanged. The filter survives the
    way to a plain filter and back. -/
theorem after_holds_lastGiven (steps : List (Step .dateTime)) :
    (after steps).operand? .greaterThanOrEqual =
      (lastGiven? steps .greaterThanOrEqual).map
        (fun t => ⟨t.date, ⟨⟨0, 0, 0, 0⟩, by decide⟩⟩) ∧
    (after steps).operand? .lessThanOrEqual =
      (lastGiven? steps .lessThanOrEqual).map
        (fun t => ⟨t.date, ⟨⟨23, 59, 59, 999999999⟩, by decide⟩⟩) ∧
    (∀ c, c ≠ .greaterThanOrEqual → c ≠ .lessThanOrEqual →
      (after steps).operand? c = lastGiven? steps c) ∧
    (after steps).plain.widened = after steps := by
  have hafter : ∀ c, (after steps).operand? c = (lastGiven? steps c).map (Kind.kept .dateTime c) :=
    congrFun (operand?_after steps)
  refine ⟨hafter _, hafter _, fun c hlower hupper => ?_, (reachable_after steps).widened_plain⟩
  have hkept : ∀ v, Kind.kept .dateTime c v = v := by
    intro v
    cases c with
    | greaterThanOrEqual => exact absurd rfl hlower
    | lessThanOrEqual => exact absurd rfl hupper
    | _ => rfl
  rw [hafter, funext hkept, Option.map_id']

end Histories

end Filter

/-- In the leap second at the end of the first day there is. -/
def firstDay : DateTime :=
  ⟨⟨⟨-262143, 1, 1⟩, by decide, by decide, by decide⟩, ⟨⟨23, 59, 59, 1750000000⟩, by decide⟩⟩

/-- In the leap second at the end of the last day there is. -/
def lastDay : DateTime :=
  ⟨⟨⟨262142, 12, 31⟩, by decide, by decide, by decide⟩, ⟨⟨23, 59, 59, 1250000000⟩, by decide⟩⟩

/-- A text in the middle ends what was set before it. The text after it is no
    filter, and the lower bound is set twice. -/
def restarted : List (Filter.Step .dateTime) :=
  [.set ⟨.notEquals, rfl, lastDay⟩,
   .ofJson ("\x7b\"lessThanOrEqual\":\"+262142-12-31T23:59:60.25\"," ++
     "\"lessThan\":\"+262142-12-31T23:59:60.25\"\x7d"),
   .ofJson "lessThan",
   .set ⟨.greaterThanOrEqual, Filter.Kind.dateTime_supports_bounds, lastDay⟩,
   .set ⟨.greaterThan, Filter.Kind.dateTime_supports_bounds, firstDay⟩,
   .set ⟨.greaterThanOrEqual, Filter.Kind.dateTime_supports_bounds, firstDay⟩]

/-- The inclusive bounds end up on the outermost days and lose their leap
    seconds, which the exclusive bounds keep. -/
theorem after_holds_lastGiven_restarted :
    (Filter.after restarted).operand? .greaterThanOrEqual = some firstDay.startOfDay ∧
      (Filter.after restarted).operand? .lessThanOrEqual = some lastDay.endOfDay ∧
      (Filter.after restarted).operand? .lessThan = some lastDay ∧
      (Filter.after restarted).operand? .greaterThan = some firstDay ∧
      (Filter.after restarted).operand? .notEquals = none ∧
      (Filter.after restarted).plain.widened = Filter.after restarted := by
  rcases Filter.after_holds_lastGiven restarted with ⟨hlower, hupper, hexact, hsame⟩
  -- What the text gives is found by reading it.
  have hgiven : Filter.lastGiven? restarted .lessThanOrEqual = some lastDay ∧
      Filter.lastGiven? restarted .lessThan = some lastDay ∧
      Filter.lastGiven? restarted .notEquals = none := by
    decide +kernel
  refine ⟨hlower, ?_, ?_, hexact .greaterThan (by decide) (by decide), ?_, hsame⟩
  · rw [hupper, hgiven.1]
    rfl
  · exact (hexact .lessThan (by decide) (by decide)).trans hgiven.2.1
  · exact (hexact .notEquals (by decide) (by decide)).trans hgiven.2.2

end RowSieve
