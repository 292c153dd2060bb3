import RowSieve.Criteria.Book
import RowSieve.Proofs.Attempt
import RowSieve.Proofs.Calendar.ReadBack
import RowSieve.Proofs.Json.Records

/-!
# Filters Written and Read Back

Writing a filter and reading the text gives the filter back, for every kind of
filter and for criteria, which are filters in a record of their own. Every
operand is read back by the reader of its condition, and records do the rest.

Two things stand in the way. Reading moves the inclusive bounds of a filter on
date-times to the ends of their days, so a bound in the middle of a day would
not survive. There is none in a filter that was built by setting conditions,
by reading or by widening, since all of these move the bounds as well.

The other one is a date-time that no text denotes: a fraction of one second or
more at another second than the last of its minute. It is written as a fraction
of the next second and read back as that. So what is read back is the filter
with every operand as its text shows it, and that is the filter itself exactly
if its date-times are readable. Criteria hold no date-times.

## Main definitions

* `Scalar.shown`, `Condition.shown`, `Filter.shown`: What the texts of values,
  operands and filters denote.
* `Filter.IsReadable`: Every date-time of a filter is one that some text denotes.
* `Filter.Settled`: The operands of a filter are as its kind keeps them.
* `Filter.Reachable`: A filter that was built step by step.

## Theorems

* `Scalar.written`, `Condition.written`: Values and operands are read back.
* `Filter.shown_eq_iff`: Which filters their texts denote.
* `Filter.Reachable.settled`: What was built is settled.
* `Filter.written_members`: The members of a filter are read in any order.
* `Filter.written`, `BookCriteria.written`: Filters and criteria are read back.
* `ofJson?_json`: So are their texts as a whole.
-/

namespace RowSieve

open Calendar

namespace Scalar

/-- What the text of a value denotes. -/
def shown : (s : Scalar) → s.Value → s.Value
  | .dateTime, t => t.shown
  | .long, n => n
  | .integer, n => n
  | .string, t => t
  | .boolean, b => b
  | .date, d => d

/-- The value is no date-time, or one that some text denotes. -/
def IsReadable : (s : Scalar) → s.Value → Prop
  | .dateTime, t => t.IsReadable
  | _, _ => True

theorem shown_eq_iff {s : Scalar} {v : s.Value} : s.shown v = v ↔ s.IsReadable v := by
  cases s with
  | dateTime => exact DateTime.shown_eq_iff
  | _ => exact iff_of_true rfl trivial

theorem isReadable_of_ne {s : Scalar} (h : s ≠ .dateTime) (v : s.Value) : s.IsReadable v := by
  cases s with
  | dateTime => exact absurd rfl h
  | _ => trivial

/-- A value of any type is read as its text shows it. -/
theorem written (s : Scalar) (v : s.Value) : Json.Written s.read (s.json v) (s.shown v) := by
  cases s with
  | long => exact Json.written_integer (by decide) (by decide) _ v
  | integer => exact Json.written_integer (by decide) (by decide) _ v
  | string => exact Json.written_text (congrArg _ String.ofList_toList)
  | boolean => exact Json.written_boolean _ v
  | date =>
      refine Json.written_text ?_
      rw [calendarCheck, String.toList_ofList, Date.read_text]
      rfl
  | dateTime =>
      refine Json.written_text ?_
      rw [calendarCheck, String.toList_ofList, DateTime.read_isoText]
      rfl

end Scalar

namespace Condition

variable {s : Scalar}

/-- What the text of an operand denotes. -/
def shown : (c : Condition) → c.Operand s → c.Operand s
  | .equals, v => s.shown v
  | .notEquals, v => s.shown v
  | .specified, b => b
  | .oneOf, vs => vs.map s.shown
  | .noneOf, vs => vs.map s.shown
  | .greaterThan, v => s.shown v
  | .lessThan, v => s.shown v
  | .greaterThanOrEqual, v => s.shown v
  | .lessThanOrEqual, v => s.shown v
  | .like, v => s.shown v
  | .contains, t => t
  | .doesNotContain, t => t

/-- Every date-time of the operand is one that some text denotes. -/
def IsReadable : (c : Condition) → c.Operand s → Prop :=
  onOperand s.IsReadable (fun vs => ∀ v ∈ vs, s.IsReadable v) (fun _ => True) fun _ => True

theorem map_shown_eq_iff {vs : List s.Value} :
    vs.map s.shown = vs ↔ ∀ v ∈ vs, s.IsReadable v := by
  have hid : vs.map s.shown = vs ↔ vs.map s.shown = vs.map id := by rw [List.map_id]
  rw [hid, List.map_inj_left]
  exact forall₂_congr fun _ _ => Scalar.shown_eq_iff

theorem shown_eq_iff {c : Condition} {v : c.Operand s} : c.shown v = v ↔ c.IsReadable v := by
  cases c with
  | specified | contains | doesNotContain => exact iff_of_true rfl trivial
  | oneOf | noneOf => exact map_shown_eq_iff
  | _ => exact Scalar.shown_eq_iff

/-- An operand of any condition is read as its text shows it. -/
theorem written (c : Condition) (v : c.Operand s) :
    Json.Written (c.readOperand s) (c.operandJson v) (c.shown v) := by
  cases c with
  | specified => exact Json.written_boolean _ v
  | oneOf | noneOf => exact Json.written_list _ fun x _ => s.written x
  | contains | doesNotContain => exact Json.written_text (congrArg _ String.ofList_toList)
  | _ => exact s.written v

end Condition

namespace Filter

variable {kind : Kind}

/-- What the text of a filter denotes: every operand as its text shows it. -/
def shown (f : Filter kind) : Filter kind where
  operand? c := (f.operand? c).map c.shown
  absent c hc := by rw [f.absent c hc, Option.map_none]

/-- Every date-time among the operands is one that some text denotes. -/
def IsReadable (f : Filter kind) : Prop := ∀ c v, f.operand? c = some v → c.IsReadable v

/-- The text of a filter denotes the filter exactly if its date-times are
    readable. -/
theorem shown_eq_iff {f : Filter kind} : f.shown = f ↔ f.IsReadable := by
  constructor
  · intro h c v hv
    have hshown : (f.operand? c).map c.shown = f.operand? c :=
      congrArg (fun g => Filter.operand? g c) h
    rw [hv, Option.map_some, Option.some.injEq] at hshown
    exact Condition.shown_eq_iff.mp hshown
  · intro h
    refine ext fun c => ?_
    change (f.operand? c).map c.shown = f.operand? c
    cases hv : f.operand? c with
    | none => rfl
    | some v => rw [Option.map_some, Condition.shown_eq_iff.mpr (h c v hv)]

/-- A filter without date-times is readable. -/
theorem isReadable_of_ne (h : kind.scalar ≠ .dateTime) (f : Filter kind) : f.IsReadable := by
  intro c v _
  cases c with
  | specified | contains | doesNotContain => trivial
  | oneOf | noneOf => exact fun w _ => Scalar.isReadable_of_ne h w
  | _ => exact Scalar.isReadable_of_ne h v

/-- Every operand is as the kind of the filter keeps it. -/
def Settled (f : Filter kind) : Prop := keepAll kind f.operand? = f.operand?

/-- A filter that was built step by step: by setting conditions one after the
    other, by reading, or from a plain filter by widening. -/
inductive Reachable : {kind : Kind} → Filter kind → Prop where
  | empty {kind : Kind} : Reachable (empty : Filter kind)
  | set {kind : Kind} {f : Filter kind} (c : Condition) (h : kind.supports c.family = true)
      (v : c.Operand kind.scalar) : Reachable f → Reachable (f.set c h v)
  | ofJson {kind : Kind} {f : Filter kind} (s : String) : ofJson? kind s = .ok f → Reachable f
  | widened (f : Filter (.range .dateTime)) : Reachable f.widened

/-- Only filters on date-times change an operand when they keep it. -/
theorem kept_of_ne (h : kind ≠ .dateTime) (c : Condition) (v : c.Operand kind.scalar) :
    kind.kept c v = v := by
  cases kind with
  | dateTime => exact absurd rfl h
  | _ => rfl

/-- What they keep is kept as it is: a bound moved to an end of its day stays
    there. -/
theorem kept_kept (c : Condition) (v : c.Operand kind.scalar) :
    kind.kept c (kind.kept c v) = kind.kept c v := by
  cases kind with
  | dateTime => cases c <;> rfl
  | _ => rfl

/-- It makes no difference whether a bound is moved before it is written or
    after it was read, since the text of a date-time shows its date. -/
theorem kept_shown (c : Condition) (v : c.Operand kind.scalar) :
    kind.kept c (c.shown v) = c.shown (kind.kept c v) := by
  cases kind with
  | dateTime =>
      cases c with
      | greaterThanOrEqual => exact (DateTime.shown_eq_iff.mpr (DateTime.isReadable_startOfDay v)).symm
      | lessThanOrEqual => exact (DateTime.shown_eq_iff.mpr (DateTime.isReadable_endOfDay v)).symm
      | _ => rfl
  | _ => rfl

theorem keepAll_of_ne (h : kind ≠ .dateTime)
    (m : Json.Members (Condition.Operand kind.scalar)) : keepAll kind m = m := by
  funext c
  rw [keepAll, funext (kept_of_ne h c), Option.map_id']

theorem settled_of_ne (h : kind ≠ .dateTime) (f : Filter kind) : f.Settled :=
  keepAll_of_ne h f.operand?

theorem keepAll_keepAll (kind : Kind) (m : Json.Members (Condition.Operand kind.scalar)) :
    keepAll kind (keepAll kind m) = keepAll kind m := by
  funext c
  rw [keepAll, keepAll, Option.map_map]
  exact congrFun (congrArg _ (funext (kept_kept c))) (m c)

/-- A filter from a list of operands holds them as its kind keeps them. -/
theorem operand?_of_ofMembers? {m : Json.Members (Condition.Operand kind.scalar)}
    {f : Filter kind} (h : ofMembers? m = .ok f) : f.operand? = keepAll kind m := by
  unfold ofMembers? at h
  split at h
  · simp only [reduceCtorEq] at h
  · rw [Except.ok.injEq] at h
    rw [← h]

/-- Setting a condition gives it the operand, as the kind keeps it, and leaves the
    others alone. -/
theorem operand?_set (f : Filter kind) (c : Condition) (h : kind.supports c.family = true)
    (v : c.Operand kind.scalar) (d : Condition) :
    (f.set c h v).operand? d =
      if hd : c = d then some (kind.kept d (hd ▸ v)) else f.operand? d := by
  by_cases hd : c = d
  · subst hd
    rw [dif_pos rfl]
    exact Json.Members.assign_self ..
  · rw [dif_neg hd]
    exact Json.Members.assign_of_ne _ (fun h => hd h.symm) _

/-- Whatever was built is settled. Every step keeps the operands that it
    takes, and leaves alone those that were there. -/
theorem Reachable.settled {f : Filter kind} (h : f.Reachable) : f.Settled := by
  induction h with
  | empty => rfl
  | set c hc v hf ih =>
      -- The condition that is set is kept now, any other one was before.
      funext d
      rw [keepAll, operand?_set]
      by_cases hd : c = d
      · rw [dif_pos hd, Option.map_some, kept_kept]
      · rw [dif_neg hd]
        exact congrFun ih d
  | ofJson s hread =>
      -- What was read went through keeping all operands at once.
      rcases bind_eq_ok.mp hread with ⟨⟨g, rest⟩, hg, hwhole⟩
      by_cases hend : (Json.skipSpace rest).isEmpty = true
      · simp only [if_pos hend, Except.ok.injEq] at hwhole
        subst hwhole
        rcases bind_eq_ok.mp hg with ⟨⟨m, after⟩, -, hmembers⟩
        cases hof : ofMembers? m with
        | error c => simp only [hof, reduceCtorEq] at hmembers
        | ok f =>
            simp only [hof, Except.ok.injEq, Prod.mk.injEq] at hmembers
            rw [← hmembers.1, Settled, operand?_of_ofMembers? hof, keepAll_keepAll]
      · simp only [if_neg hend, reduceCtorEq] at hwhole
  | widened f => exact keepAll_keepAll .dateTime f.operand?

/-- The operands of a filter give the filter that holds them as its kind keeps
    them. None of them is misplaced. -/
theorem ofMembers?_operand? {f g : Filter kind} (h : g.operand? = keepAll kind f.operand?) :
    ofMembers? f.operand? = .ok g := by
  have hplaced : misplaced? kind f.operand? = none := by
    rw [misplaced?, List.find?_eq_none]
    intro c _ hc
    rw [Bool.and_eq_true, Bool.not_eq_true'] at hc
    rw [f.absent c hc.2] at hc
    exact Bool.false_ne_true hc.1
  unfold ofMembers?
  split
  case h_1 c heq =>
    rw [hplaced] at heq
    cases heq
  case h_2 =>
    rw [Except.ok.injEq]
    exact ext fun c => congrFun h.symm c

/-- The keys of the conditions can be told apart. -/
theorem form_distinct : form.Distinct := by
  intro c _
  cases c <;> decide

/-- The operand of a condition as it is written, `null` if there is none. -/
def operandText (f : Filter kind) (c : Condition) : List Char :=
  ((f.operand? c).map c.operandJson).getD Json.nullText

/-- The members that are written are those of the conditions with an operand. -/
theorem filterMap_member? (f : Filter kind) (cs : List Condition) :
    cs.filterMap f.member? =
      (cs.filter fun c => (f.operand? c).isSome).map fun c =>
        Json.memberText c.key (f.operandText c) := by
  induction cs with
  | nil => rfl
  | cons c cs ih =>
      rw [List.filterMap_cons, List.filter_cons, ih, member?]
      cases hv : f.operand? c with
      | none => rfl
      | some v =>
          rw [Option.isSome_some, if_pos rfl, List.map_cons, operandText, hv]
          rfl

/-- Keeping the operands that a text denotes gives what the text of the kept
    ones denotes. -/
theorem shown_of_keepAll {f g : Filter kind} (h : g.operand? = keepAll kind f.operand?) :
    g.shown.operand? = keepAll kind f.shown.operand? := by
  funext c
  change (g.operand? c).map c.shown = ((f.operand? c).map c.shown).map (kind.kept c)
  rw [h, keepAll, Option.map_map, Option.map_map]
  exact congrFun (congrArg _ (funext fun v => (kept_shown c v).symm)) (f.operand? c)

/-- The members of a filter, written in any order, are read as the filter that
    holds its operands as the kind keeps them, each as its text shows it. -/
theorem written_members {f g : Filter kind} (h : g.operand? = keepAll kind f.operand?)
    {cs : List Condition} (hcs : cs.Perm Condition.all) :
    Json.Written (read kind) (Json.objectText (cs.filterMap f.member?)) g.shown := by
  have hmem : ∀ c : Condition, c ∈ cs := fun c => hcs.mem_iff.mpr c.mem_all
  have hmembers : Json.Written (form.read (Condition.readOperand kind.scalar))
      (Json.objectText (cs.filterMap f.member?)) f.shown.operand? := by
    rw [filterMap_member?]
    -- No key is written twice, every operand is read back, every key is one of
    -- the record, and what is not written is absent.
    refine Json.Form.written_object form_distinct ?_ ?_ ?_ ?_
    · exact List.Pairwise.filter _ (hcs.nodup_iff.mpr (show Condition.all.Nodup by decide))
    · intro c _ rest hrest
      exact Json.optional_written (fun v _ => c.written v) hrest
    · exact fun c _ => c.mem_all
    · intro c hc
      rw [List.mem_filter, not_and] at hc
      have hnone : f.operand? c = none := Option.not_isSome_iff_eq_none.mp (hc (hmem c))
      exact congrArg (Option.map c.shown) hnone
  refine ⟨hmembers.starts, fun rest hrest => ?_⟩
  rw [read, hmembers.recovers rest hrest]
  simp only [bind, Except.bind, ofMembers?_operand? (shown_of_keepAll h)]

/-- A settled filter is read back as its text shows it. -/
theorem written {f : Filter kind} (h : f.Settled) : Json.Written (read kind) f.json f.shown :=
  written_members h.symm (.refl _)

end Filter

namespace BookCriteria

/-- The keys of the properties can be told apart. -/
theorem form_distinct : form.Distinct := by
  intro p _
  cases p <;> decide

/-- Criteria are read back from their text, absent filters included. -/
theorem written (c : BookCriteria) : Json.Written read c.json c := by
  have hmembers : Json.Written (form.read fun p => Filter.read p.kind) c.json c.filter? := by
    refine Json.Form.written_object form_distinct (by decide) ?_ (fun p _ => p.mem_all) ?_
    · intro p _ rest hrest
      -- No property is a date-time, so every filter is settled and readable.
      have hfilter : ∀ f : Filter p.kind, Json.Written (Filter.read p.kind) f.json f := by
        intro f
        have hread : Json.Written (Filter.read p.kind) f.json f.shown :=
          Filter.written (f.settled_of_ne (by cases p <;> exact Filter.Kind.noConfusion))
        rwa [Filter.shown_eq_iff.mpr
          (f.isReadable_of_ne (by cases p <;> exact Scalar.noConfusion))] at hread
      have hread : Json.optional (Filter.read p.kind)
          (((c.filter? p).map Filter.json).getD Json.nullText ++ rest) =
            .ok ((c.filter? p).map id, rest) :=
        Json.optional_written (fun f _ => hfilter f) hrest
      rwa [Option.map_id] at hread
    · exact fun p hp => absurd p.mem_all hp
  refine ⟨hmembers.starts, fun rest hrest => ?_⟩
  rw [read, hmembers.recovers rest hrest]
  rfl

end BookCriteria

/-- Reading undoes writing as far as texts denote date-times: for every filter of
    every kind, date-time filters being those that can be built, and for all
    criteria. What is read is the filter as its text shows it, and that is the
    filter itself exactly if its date-times are readable. -/
theorem ofJson?_json :
    (∀ (kind : Filter.Kind) (f : Filter kind), (kind = .dateTime → f.Reachable) →
      Filter.ofJson? kind (String.ofList f.json) = .ok f.shown ∧ (f.shown = f ↔ f.IsReadable)) ∧
    ∀ c : BookCriteria, BookCriteria.ofJson? (String.ofList c.json) = .ok c := by
  constructor
  · intro kind f hbuilt
    refine ⟨?_, Filter.shown_eq_iff⟩
    -- Only for date-times does it matter how the filter came about.
    by_cases hkind : kind = .dateTime
    · exact (Filter.written (hbuilt hkind).settled).whole
    · exact (Filter.written (f.settled_of_ne hkind)).whole
  · exact fun c => c.written.whole

theorem Filter.Kind.dateTime_supports_base : supports .dateTime .base = true := rfl

theorem Filter.Kind.dateTime_supports_bounds : supports .dateTime .bounds = true := rfl

/-- A leap second of the year 12024, as an exact value and as the day of an
    upper bound. -/
def leapSecond : Filter .dateTime :=
  let t : DateTime :=
    ⟨⟨⟨12024, 2, 29⟩, by decide, by decide, by decide⟩, ⟨⟨23, 59, 59, 1500000000⟩, by decide⟩⟩
  (Filter.empty.set .equals rfl t).set .lessThanOrEqual Filter.Kind.dateTime_supports_bounds t

theorem leapSecond_readable : leapSecond.IsReadable := by
  intro c v hv
  cases c with
  | equals | lessThanOrEqual =>
      cases hv
      exact .inr rfl
  | _ => exact nomatch hv

/-- It is read back as it is: the exact value keeps its leap second, and the
    bound had lost it before it was written. -/
theorem ofJson?_json_leapSecond :
    leapSecond.IsReadable ∧
      Filter.ofJson? .dateTime (String.ofList leapSecond.json) = .ok leapSecond := by
  rcases ofJson?_json.1 .dateTime leapSecond fun _ => .set _ rfl _ (.set _ rfl _ .empty) with
    ⟨hread, hsame⟩
  exact ⟨leapSecond_readable, hread.trans (congrArg _ (hsame.mpr leapSecond_readable))⟩

/-- Five seconds past noon, as four seconds and a fraction of more than one. -/
def lateFraction : DateTime :=
  ⟨⟨⟨2019, 6, 1⟩, by decide, by decide, by decide⟩, ⟨⟨12, 0, 4, 1333333333⟩, by decide⟩⟩

/-- The same moment in the only way that a text denotes it. -/
def carriedFraction : DateTime :=
  ⟨lateFraction.date, ⟨⟨12, 0, 5, 333333333⟩, by decide⟩⟩

def lateFilter : Filter (.base .dateTime) := Filter.empty.set .equals rfl lateFraction

def carriedFilter : Filter (.base .dateTime) := Filter.empty.set .equals rfl carriedFraction

/-- A filter with that fraction is not read back. It is written as a fraction of
    the next second, and so is another filter, which is the one that is read. -/
theorem late_fraction_not_readBack :
    String.ofList lateFilter.json = "\x7b\"equals\":\"2019-06-01T12:00:05.333333333\"\x7d" ∧
      Filter.ofJson? (.base .dateTime) (String.ofList lateFilter.json) = .ok carriedFilter ∧
      carriedFilter ≠ lateFilter := by
  refine ⟨by decide +kernel, ?_, by decide +kernel⟩
  exact toOption_eq_some_iff.mp (by decide +kernel)

end RowSieve
