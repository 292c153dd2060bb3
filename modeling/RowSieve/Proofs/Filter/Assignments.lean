import RowSieve.Proofs.Filter.Histories
import RowSieve.Proofs.Filter.Recovery

/-!
# Conditions Set One by One

A filter is made in a program by setting its conditions, one call for each, or
it is read from JSON, all of it at once. The two ways share little. A call finds
its operand's place in the filter and replaces what is there, and a filter on
date-times moves some operands before it places them. Reading gathers operands
from the members of an object, moves them afterwards, and refuses what the kind
does not have.

They make the same filters, as far as texts denote operands. Whatever calls were
made, in any order and however often, the filter is the one that is read from an
object with a member for each condition that was set, whose value denotes the
operand of its last call as it was given. Where that operand is a date-time that
no text denotes, the value that is written for it denotes another one, and so
what is read is the filter as its text shows it.

Nothing else of the calls is left, so calls that end in the same operands make
equal filters, with equal predicates, whose conditions stand in one order that
no call can change.

## Main definitions

* `Filter.sets`: Conditions that are set one by one, as a history.
* `Filter.assigned`: The filter after that history.
* `Filter.Spells`: The entries of an object are given operands.

## Theorems

* `Filter.supports_of_lastGiven?`: What was set is a condition of the kind.
* `Filter.ofJson?_of_spells`: What is read from an object of given operands.
* `Filter.assigned_eq_ofJson?`: It is the filter that is read from an object.
-/

namespace RowSieve

namespace Filter

variable {kind : Kind}

/-- Conditions that are set one by one, as a history. -/
def sets (calls : List (Assignment kind)) : List (Step kind) := calls.map .set

/-- The filter after conditions were set one by one. -/
def assigned (calls : List (Assignment kind)) : Filter kind := after (sets calls)

/-- What was set is a condition that the kind has. -/
theorem supports_of_lastGiven? {calls : List (Assignment kind)} {c : Condition}
    {v : c.Operand kind.scalar} (h : lastGiven? (sets calls) c = some v) :
    kind.supports c.family = true := by
  rw [lastGiven?, Option.join_eq_some_iff] at h
  rcases List.exists_of_findSome?_eq_some h with ⟨step, hstep, hsays⟩
  rw [List.mem_reverse, sets, List.mem_map] at hstep
  rcases hstep with ⟨a, -, rfl⟩
  unfold Step.says? at hsays
  by_cases hc : a.condition = c
  · exact hc ▸ a.supported
  · simp only [dif_neg hc] at hsays
    cases hsays

/-- The operands that were given last, as a filter that has moved none of
    them. -/
def asGiven (calls : List (Assignment kind)) : Filter kind where
  operand? := lastGiven? (sets calls)
  absent c hc := by
    refine Option.eq_none_iff_forall_ne_some.mpr fun v hv => ?_
    rw [supports_of_lastGiven? hv] at hc
    exact Bool.noConfusion hc

section Spelling

variable {m : Json.Members (Condition.Operand kind.scalar)} {entries : List Json.Entry}

/-- The entries of an object are the given operands: one for each, whose value
    denotes the operand, and no others. No zero is written with a sign. -/
structure Spells (kind : Kind) (m : Json.Members (Condition.Operand kind.scalar))
    (entries : List Json.Entry) : Prop where
  distinct : (entries.map Json.Entry.key?).Nodup
  given : ∀ e ∈ entries, ∃ c v, e.key? = some (Condition.key c) ∧ m c = some v ∧
    c.Denotes kind.scalar e.value v
  complete : ∀ c v, m c = some v → ∃ e ∈ entries, e.key? = some c.key
  unsigned : Unsigned entries

/-- The value under the key of a condition denotes its operand. -/
theorem Spells.denotes (h : Spells kind m entries) {e : Json.Entry} (he : e ∈ entries)
    {c : Condition} (hkey : e.key? = some c.key) :
    ∃ v, m c = some v ∧ c.Denotes kind.scalar e.value v := by
  rcases h.given e he with ⟨d, v, hd, hm, hv⟩
  rw [hkey, Option.some.injEq] at hd
  rcases key_injective hd with rfl
  exact ⟨v, hm, hv⟩

theorem Spells.wellTyped (h : Spells kind m entries) : WellTyped kind.scalar entries where
  known e he := by
    rcases h.given e he with ⟨c, -, hkey, -⟩
    exact ⟨c, hkey⟩
  distinct := h.distinct
  typed _ he _ hkey _ := (h.denotes he hkey).imp fun _ => And.right

/-- So the entries say what the operands are. -/
theorem Spells.said?_eq (h : Spells kind m entries) : said? kind entries = m := by
  funext c
  by_cases hc : ∃ e ∈ entries, e.key? = some c.key
  · rcases hc with ⟨e, he, hkey⟩
    rcases h.denotes he hkey with ⟨v, hm, hv⟩
    rw [h.wellTyped.said?_eq h.unsigned he hkey hv, hm]
  · have hnone : m c = none := Option.eq_none_iff_forall_ne_some.mpr fun v hv =>
      hc (h.complete c v hv)
    rw [said?_of_absent fun e he hkey => hc ⟨e, he, hkey⟩, hnone]

/-- An object with the operands of a filter is read as the filter that holds them
    as its kind keeps them, however the object is laid out. -/
theorem ofJson?_of_spells {f g : Filter kind} (h : g.operand? = keepAll kind f.operand?)
    {o : Json.ObjectText} (ho : Spells kind f.operand? o.entries) :
    ofJson? kind o.text = .ok g := by
  have hplaced : Acceptable kind o.entries := by
    refine ⟨ho.wellTyped, fun e he c hkey _ => kind.mem_conditions_iff.mpr ?_⟩
    rcases ho.denotes he hkey with ⟨v, hv, -⟩
    refine eq_true_of_ne_false fun hlacks => ?_
    rw [f.absent c hlacks] at hv
    cases hv
  refine toOption_eq_some_iff.mp (ofJson?_eq_some_iff.mpr ⟨⟨hplaced, ho.unsigned⟩, ?_⟩)
  rw [ho.said?_eq, h]

end Spelling

/-- Setting conditions makes the filter that is read from an object: the one
    that has, for each condition that was set, a member whose value denotes the
    operand that was given last, the members in any order and the text laid out in
    any way. If the operands are written, what is read is the filter as its text
    shows it, which is the filter itself exactly if its date-times are readable.
    Calls with the same last operands make equal filters with equal predicates,
    in which the conditions stand in one order, each with its last operand, moved
    where the kind moves it. -/
theorem assigned_eq_ofJson? (kind : Kind) (calls : List (Assignment kind)) :
    (∀ cs : List Condition, cs.Perm Condition.all →
      ofJson? kind (String.ofList (Json.objectText (cs.filterMap fun c =>
        (lastGiven? (sets calls) c).map fun v => Json.memberText c.key (c.operandJson v)))) =
          .ok (assigned calls).shown) ∧
    ((assigned calls).shown = assigned calls ↔ (assigned calls).IsReadable) ∧
    (∀ o : Json.ObjectText, Spells kind (lastGiven? (sets calls)) o.entries →
      ofJson? kind o.text = .ok (assigned calls)) ∧
    (∀ others : List (Assignment kind),
      (∀ c, lastGiven? (sets others) c = lastGiven? (sets calls) c) →
      assigned others = assigned calls ∧
        ∀ path, (assigned others).predicate path = (assigned calls).predicate path) ∧
    ∀ path, ((assigned calls).predicate path).members =
      [.equals, .notEquals, .specified, .oneOf, .noneOf, .greaterThan, .greaterThanOrEqual,
        .lessThan, .lessThanOrEqual, .like, .contains, .doesNotContain].filterMap
          fun c => ((lastGiven? (sets calls) c).map (kind.moved c)).bind (c.leaf? path) := by
  -- The members are those of the operands before they were moved.
  have hkept : (assigned calls).operand? = keepAll kind (asGiven calls).operand? :=
    operand?_after (sets calls)
  refine ⟨fun cs hcs => (written_members hkept hcs).whole, shown_eq_iff,
    fun o ho => ofJson?_of_spells hkept ho, fun others hothers => ?_, fun path => ?_⟩
  · have hsame : assigned others = assigned calls := by
      refine ext fun c => ?_
      rw [assigned, assigned, operand?_after, operand?_after, keepAll, keepAll, hothers]
    exact ⟨hsame, fun path => hsame ▸ rfl⟩
  · rw [predicate, Predicate.members_all_of_leaves fun _ => members_leaf, leaves, hkept]
    simp only [keepAll, kind.kept_eq_moved]
    rfl

end Filter

/-- An upper bound that is set twice, with something else in between. -/
def revised : List (Filter.Assignment .dateTime) :=
  [⟨.lessThanOrEqual, Filter.Kind.dateTime_supports_bounds, lastDay⟩,
   ⟨.specified, Filter.Kind.dateTime_supports_base, true⟩,
   ⟨.lessThanOrEqual, Filter.Kind.dateTime_supports_bounds, firstDay⟩]

/-- The same bound, set once and first. -/
def straight : List (Filter.Assignment .dateTime) :=
  [⟨.lessThanOrEqual, Filter.Kind.dateTime_supports_bounds, firstDay⟩,
   ⟨.specified, Filter.Kind.dateTime_supports_base, true⟩]

/-- The bound that `dueAlone` has as a member, set by a call. -/
def due : List (Filter.Assignment .dateTime) :=
  [⟨.lessThanOrEqual, Filter.Kind.dateTime_supports_bounds, dueTime⟩]

theorem spells_dueAlone :
    Filter.Spells .dateTime (Filter.lastGiven? (Filter.sets due)) dueAlone.entries where
  distinct := List.pairwise_singleton _ _
  given := List.forall_mem_singleton.mpr ⟨.lessThanOrEqual, dueTime, rfl, rfl, dueText_denotes⟩
  complete c v h := by
    cases c with
    | lessThanOrEqual => exact ⟨dueEntry, List.mem_cons_self, rfl⟩
    | _ => exact nomatch h
  unsigned := List.forall_mem_singleton.mpr rfl

/-- Only the last bound counts, and its place among the members does not. It is
    given in a leap second, and kept as the end of its day. Nor does it count how
    the text spells a bound. -/
theorem assigned_eq_ofJson?_revised :
    Filter.ofJson? .dateTime
        "\x7b\"lessThanOrEqual\":\"-262143-01-01T23:59:60.750\",\"specified\":true\x7d" =
      .ok (Filter.assigned revised) ∧
    Filter.ofJson? .dateTime "\x7b\"lessThanOrEqual\": \"2019-11-3T8:5:0\"\x7d" =
      .ok (Filter.assigned due) ∧
    Filter.assigned straight = Filter.assigned revised ∧
    ((Filter.assigned revised).predicate (.field "at")).members =
      [.isNotNull (.field "at"),
       .compare .lessOrEqual (.field "at") (.timestamp firstDay.endOfDay)] := by
  rcases Filter.assigned_eq_ofJson? .dateTime revised with ⟨hread, hshown, -, hsame, hmembers⟩
  have hgiven : ∀ c, Filter.lastGiven? (Filter.sets straight) c =
      Filter.lastGiven? (Filter.sets revised) c := by
    intro c
    cases c <;> rfl
  have hreadable : (Filter.assigned revised).IsReadable := by
    intro c v hv
    cases c with
    | lessThanOrEqual =>
        cases hv
        exact Calendar.DateTime.isReadable_endOfDay firstDay
    | specified => trivial
    | _ => exact nomatch hv
  have hreversed := hread Condition.all.reverse (List.reverse_perm _)
  rw [hshown.mpr hreadable] at hreversed
  have hspelled := (Filter.assigned_eq_ofJson? .dateTime due).2.2.1 dueAlone spells_dueAlone
  exact ⟨hreversed, hspelled, (hsame straight hgiven).1, hmembers _⟩

/-- An exact value that no text denotes. -/
def lateCall : List (Filter.Assignment .dateTime) := 
  [⟨.equals, Filter.Kind.dateTime_supports_base, lateFraction⟩]

/-- The object that is written for it is read as a filter with another value. -/
theorem late_call_not_read :
    Json.objectText [Json.memberText (Condition.key .equals)
        (Condition.operandJson (s := .dateTime) .equals lateFraction)] =
      "\x7b\"equals\":\"2019-06-01T12:00:05.333333333\"\x7d".toList ∧
    Filter.ofJson? .dateTime "\x7b\"equals\":\"2019-06-01T12:00:05.333333333\"\x7d" =
      .ok (Filter.empty.set .equals rfl carriedFraction) ∧
    (Filter.assigned lateCall).operand? .equals = some lateFraction ∧
    (Filter.empty.set .equals rfl carriedFraction : Filter .dateTime) ≠
      Filter.assigned lateCall := by
  refine ⟨by decide +kernel, ?_, rfl, by decide +kernel⟩
  exact toOption_eq_some_iff.mp (by decide +kernel)

end RowSieve
