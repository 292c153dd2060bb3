import RowSieve.Proofs.Filter.Histories
import RowSieve.Proofs.Filter.Recovery
import RowSieve.Proofs.Filter.TextSearch

/-!
# Filters with More and with Fewer Conditions

The kinds of filter differ in which conditions they have, and every kind reads
its texts by itself. A text that one kind accepts could be refused by a kind
with more conditions, or come to mean something else there.

It cannot. What a text gives for the twelve conditions is settled by the type of
the field, before the kind has any say. The kind then refuses the conditions it
does not have, by name, and nothing else. So a kind with more conditions accepts
what one with fewer accepts, with the same predicate, and whatever it accepts
beyond that has one of the conditions that the other lacks. Filters on
date-times have the conditions of plain ones, and there the predicates differ in
the constants of the two inclusive bounds.

## Main definitions

* `Filter.given?`: What a text gives for the conditions of a field.
* `Predicate.onWholeDays`: A leaf whose inclusive bound means a whole day.

## Theorems

* `Filter.ofJson?_of_given?`: What a kind makes of what a text gives.
* `Filter.given?_of_ofJson?`: An accepted text gives the operands of its filter.
* `Filter.accepted_of_given?`: A text is accepted if no condition is misplaced.
* `Filter.refused_of_given?`: A text is refused for a condition that is.
* `Filter.ofJson?_extends`: Kinds with more conditions extend those with fewer.
-/

namespace RowSieve

open Calendar

/-- A leaf whose inclusive lower bound is moved to 00:00:00 of its date, and
    whose inclusive upper bound to 23:59:59.999999999. Every other leaf stays as
    it is. -/
def Predicate.onWholeDays : Predicate → Predicate
  | .compare .greaterOrEqual path (.timestamp t) =>
    .compare .greaterOrEqual path (.timestamp ⟨t.date, ⟨⟨0, 0, 0, 0⟩, Clock.isValid_first⟩⟩)
  | .compare .lessOrEqual path (.timestamp t) =>
    .compare .lessOrEqual path (.timestamp ⟨t.date, ⟨⟨23, 59, 59, 999999999⟩, Clock.isValid_last⟩⟩)
  | p => p

/-- What a condition on a date-time asks for once its operand was moved. -/
theorem Condition.leaf?_kept (path : FieldPath) (c : Condition) (v : c.Operand .dateTime) :
    c.leaf? path (Filter.Kind.kept .dateTime c v) =
      (c.leaf? path v).map Predicate.onWholeDays := by
  cases c with
  | specified => cases v <;> rfl
  | oneOf | noneOf => cases v <;> rfl
  | _ => rfl

namespace Filter

variable {kind : Kind} {text : String}

/-- What a text gives for the conditions of a field of some type, if it is a
    record of conditions at all. No kind of filter is asked. -/
def given? (s : Scalar) (text : String) : Option (Json.Members (Condition.Operand s)) :=
  (Json.whole (form.read (Condition.readOperand s)) text).toOption

section Giving

variable {m : Json.Members (Condition.Operand kind.scalar)}

/-- A kind makes a filter of what a text gives, or refuses one of its conditions
    by name. -/
theorem ofJson?_of_given? (h : given? kind.scalar text = some m) :
    ofJson? kind text = (ofMembers? m).mapError (refusal kind) := by
  rcases bind_eq_ok.mp (toOption_eq_some_iff.mp h) with ⟨⟨m', rest⟩, hread, hend⟩
  by_cases hblank : (Json.skipSpace rest).isEmpty = true
  · simp only [if_pos hblank, Except.ok.injEq] at hend
    subst hend
    rw [ofJson?, Json.whole, read, hread]
    simp only [bind, Except.bind]
    cases (ofMembers? m' : Except Condition (Filter kind)) with
    | error c => rfl
    | ok f => exact if_pos hblank
  · simp only [if_neg hblank, reduceCtorEq] at hend

/-- An accepted text gives operands, and its filter holds them as the kind keeps
    them. -/
theorem given?_of_ofJson? {f : Filter kind} (h : ofJson? kind text = .ok f) :
    ∃ m, given? kind.scalar text = some m ∧ f.operand? = keepAll kind m := by
  rw [← toOption_eq_some_iff, toOption_ofJson?_text, Option.bind_eq_some_iff] at h
  rcases h with ⟨⟨m, rest⟩, hread, h⟩
  rcases Option.bind_eq_some_iff.mp h with ⟨g, hg, hend⟩
  simp only [Option.ite_none_right_eq_some, Option.some.injEq] at hend
  refine ⟨m, ?_, hend.2 ▸ operand?_of_ofMembers? (toOption_eq_some_iff.mp hg)⟩
  rw [given?, Json.whole, toOption_bind, hread]
  exact congrArg Except.toOption (if_pos hend.1)

/-- A text is accepted if no condition is given an operand that the kind does
    not have. -/
theorem accepted_of_given? (h : given? kind.scalar text = some m)
    (hplaced : ∀ c : Condition, m c ≠ none → kind.supports c.family = true) :
    ∃ f : Filter kind, ofJson? kind text = .ok f ∧ f.operand? = keepAll kind m := by
  have hsome := isSome_ofMembers? m
  rw [misplaced?_eq_none_iff.mpr hplaced, Option.isNone_none] at hsome
  rcases Option.isSome_iff_exists.mp hsome with ⟨f, hf⟩
  have hmembers := toOption_eq_some_iff.mp hf
  refine ⟨f, ?_, operand?_of_ofMembers? hmembers⟩
  rw [ofJson?_of_given? h, hmembers]
  rfl

/-- A text that gives operands is refused for a condition that the kind does not
    have, and the refusal names it. -/
theorem refused_of_given? {fault : Json.Fault} (hfault : ofJson? kind text = .error fault)
    (h : given? kind.scalar text = some m) :
    ∃ c : Condition, m c ≠ none ∧ kind.supports c.family = false ∧ fault = refusal kind c := by
  rw [ofJson?_of_given? h, ofMembers?] at hfault
  split at hfault
  case h_1 c hmisplaced =>
    have hc := List.find?_some hmisplaced
    rw [Bool.and_eq_true, Option.isSome_iff_ne_none, Bool.not_eq_true'] at hc
    exact ⟨c, hc.1, hc.2, (Except.error.inj hfault).symm⟩
  case h_2 => exact nomatch hfault

end Giving

/-- A filter has an operand only for a condition that its kind has. -/
theorem supports_of_operand? (f : Filter kind) {c : Condition} (h : f.operand? c ≠ none) :
    kind.supports c.family = true :=
  eq_true_of_ne_false fun hlacks => h (f.absent c hlacks)

section Plain

variable {f : Filter kind}

/-- A kind that keeps operands as they are accepts a text with the operands that
    the text gives. -/
theorem given?_of_plain (hkind : kind ≠ .dateTime) (h : ofJson? kind text = .ok f) :
    given? kind.scalar text = some f.operand? := by
  rcases given?_of_ofJson? h with ⟨m, hm, hf⟩
  rw [hm, hf, keepAll_of_ne hkind]

/-- And it accepts whatever gives operands that it has. -/
theorem plain_of_given? (kind : Kind) (hkind : kind ≠ .dateTime)
    {m : Json.Members (Condition.Operand kind.scalar)} (h : given? kind.scalar text = some m)
    (hplaced : ∀ c : Condition, m c ≠ none → kind.supports c.family = true) :
    ∃ f : Filter kind, ofJson? kind text = .ok f ∧ f.operand? = m := by
  rcases accepted_of_given? h hplaced with ⟨f, hf, hoperand⟩
  exact ⟨f, hf, hoperand.trans (keepAll_of_ne hkind m)⟩

end Plain

section Extending

/-- What filters with base conditions only accept, plain filters accept as the
    same question. -/
theorem range_of_base {s : Scalar} {f : Filter (.base s)} (h : ofJson? (.base s) text = .ok f) :
    ∃ g : Filter (.range s), ofJson? (.range s) text = .ok g ∧
      ∀ path, g.predicate path = f.predicate path := by
  have hgiven := given?_of_plain Kind.noConfusion h
  have hplaced : ∀ c : Condition, f.operand? c ≠ none → Kind.supports (.range s) c.family := by
    intro c hc
    have hbase : (c.family == .base) = true := f.supports_of_operand? hc
    rw [beq_iff_eq.mp hbase]
    rfl
  rcases plain_of_given? (.range s) Kind.noConfusion hgiven hplaced with ⟨g, hg, hsame⟩
  refine ⟨g, hg, fun path => ?_⟩
  rw [predicate, predicate, leaves, leaves, hsame]

/-- What plain filters on text accept, filters on text with all conditions accept
    as the same question. -/
theorem string_of_range {f : Filter (.range .string)} (h : ofJson? (.range .string) text = .ok f) :
    ∃ g : Filter .string, ofJson? .string text = .ok g ∧
      ∀ path, g.predicate path = f.predicate path := by
  have hgiven := given?_of_plain Kind.noConfusion h
  rcases plain_of_given? .string Kind.noConfusion hgiven fun _ _ => rfl with
    ⟨g, hg, hsame⟩
  refine ⟨g, hg, fun path => ?_⟩
  rw [predicate, predicate, leaves, leaves, hsame]

/-- The predicate of a filter on date-times is that of the plain filter it was
    widened from, with the inclusive bounds moved. -/
theorem predicate_widened (f : Filter (.range .dateTime)) (path : FieldPath) :
    f.widened.predicate path =
      Predicate.all ((f.predicate path).members.map Predicate.onWholeDays) := by
  have hleaf : ∀ c : Condition, (f.widened.operand? c).bind (c.leaf? path) =
      ((f.operand? c).bind (c.leaf? path)).map Predicate.onWholeDays := by
    intro c
    have hkept : f.widened.operand? c = (f.operand? c).map (Kind.kept .dateTime c) := rfl
    rw [hkept, Option.bind_map, Option.map_bind]
    exact Option.bind_congr fun v _ => c.leaf?_kept path v
  -- The members of a predicate are the leaves it was made of.
  rw [predicate, predicate, Predicate.members_all_of_leaves fun _ => members_leaf, leaves, leaves,
    List.map_filterMap, funext hleaf]

/-- Where filters with base conditions only refuse what a plain filter accepts,
    they refuse one of its bounds. -/
theorem bounds_of_refused {s : Scalar} {g : Filter (.range s)} {fault : Json.Fault}
    (hg : ofJson? (.range s) text = .ok g) (hfault : ofJson? (.base s) text = .error fault) :
    ∃ c, c.family = .bounds ∧ g.operand? c ≠ none ∧ fault = refusal (.base s) c := by
  have hgiven := given?_of_plain Kind.noConfusion hg
  rcases refused_of_given? hfault hgiven with ⟨c, hc, hlacks, hnamed⟩
  refine ⟨c, ?_, hc, hnamed⟩
  -- Plain filters have two families, and this is not the first of them.
  have hplain := g.supports_of_operand? hc
  unfold Kind.supports at hlacks hplain
  cases hfamily : c.family with
  | bounds => rfl
  | base => exact nomatch hfamily ▸ hlacks
  | text => exact nomatch hfamily ▸ hplain

/-- Where plain filters on text refuse what one with all conditions accepts, they
    refuse one of its conditions on text. -/
theorem text_of_refused {g : Filter .string} {fault : Json.Fault}
    (hg : ofJson? .string text = .ok g) (hfault : ofJson? (.range .string) text = .error fault) :
    ∃ c, c.family = .text ∧ g.operand? c ≠ none ∧ fault = refusal (.range .string) c := by
  have hgiven := given?_of_plain Kind.noConfusion hg
  rcases refused_of_given? hfault hgiven with ⟨c, hc, hlacks, hnamed⟩
  have htext : (c.family != .text) = false := hlacks
  exact ⟨c, bne_eq_false_iff_eq.mp htext, hc, hnamed⟩

end Extending

/-- Kinds of filter with more conditions extend those with fewer, whatever the
    text. Plain filters accept what filters with base conditions only accept, and
    filters on text accept what plain filters on text accept, with the same
    predicate on every path. What they accept beyond that has a condition that
    the others lack, for which the others refuse the text by name. Filters on
    date-times accept what plain filters on date-times accept, and the predicates
    differ in the constants of the two inclusive bounds. -/
theorem ofJson?_extends (text : String) :
    (∀ (s : Scalar) (f : Filter (.base s)), ofJson? (.base s) text = .ok f →
      ∃ g : Filter (.range s), ofJson? (.range s) text = .ok g ∧
        ∀ path, g.predicate path = f.predicate path) ∧
    (∀ f : Filter (.range .string), ofJson? (.range .string) text = .ok f →
      ∃ g : Filter .string, ofJson? .string text = .ok g ∧
        ∀ path, g.predicate path = f.predicate path) ∧
    ((∃ g, ofJson? .dateTime text = .ok g) ↔ ∃ f, ofJson? (.range .dateTime) text = .ok f) ∧
    (∀ (f : Filter (.range .dateTime)) (g : Filter .dateTime),
      ofJson? (.range .dateTime) text = .ok f → ofJson? .dateTime text = .ok g →
        ∀ path, g.predicate path =
          Predicate.all ((f.predicate path).members.map Predicate.onWholeDays)) ∧
    (∀ (s : Scalar) (g : Filter (.range s)) (fault : Json.Fault),
      ofJson? (.range s) text = .ok g → ofJson? (.base s) text = .error fault →
        ∃ c, c.family = .bounds ∧ g.operand? c ≠ none ∧ fault = refusal (.base s) c) ∧
    ∀ (g : Filter .string) (fault : Json.Fault),
      ofJson? .string text = .ok g → ofJson? (.range .string) text = .error fault →
        ∃ c, c.family = .text ∧ g.operand? c ≠ none ∧ fault = refusal (.range .string) c := by
  have hdateTime := toOption_ofJson?_dateTime text
  refine ⟨fun _ _ => range_of_base, fun _ => string_of_range, ⟨?_, ?_⟩, fun f g hf hg path => ?_,
    fun _ _ _ => bounds_of_refused, fun _ _ => text_of_refused⟩
  · rintro ⟨g, hg⟩
    rw [hg] at hdateTime
    rcases Option.map_eq_some_iff.mp hdateTime.symm with ⟨f, hf, -⟩
    exact ⟨f, toOption_eq_some_iff.mp hf⟩
  · rintro ⟨f, hf⟩
    rw [hf] at hdateTime
    exact ⟨f.widened, toOption_eq_some_iff.mp hdateTime⟩
  · rw [hf, hg] at hdateTime
    rw [Option.some.inj hdateTime, predicate_widened]

end Filter

/-- Base conditions in the positional form, one of them an empty list. -/
def sevenText : String := "[7,null,true,[],null,null,null,null,null,null,null,null]"

def seven : Signed64 := ⟨7, by decide, by decide⟩

def sevenOnly : Filter (.base .long) :=
  ((Filter.empty.set .equals rfl seven).set .specified rfl true).set .oneOf rfl []

/-- A bound in the middle of a day. -/
def boundText : String := "\x7b\"lessThanOrEqual\":\"2019-11-3T8:5:0\"\x7d"

def plainBound : Filter (.range .dateTime) := Filter.empty.set .lessThanOrEqual rfl dueTime

def dunePatternText : String := "\x7b\"like\":\"Dune\"\x7d"

def dunePattern : Filter (.range .string) := Filter.empty.set .like rfl "Dune"

def duneNeedleText : String := "\x7b\"contains\":\"Dune\"\x7d"

def duneNeedle : Filter .string := .containing "Dune"

/-- Every part of the extension at a text of its own. The plain filter asks what
    the one with base conditions asks, and the empty list asks for nothing in
    either. The bound is moved in one kind, left in the other, and refused by name
    in the third. -/
theorem ofJson?_extends_texts :
    (∃ g : Filter (.range .long), Filter.ofJson? (.range .long) sevenText = .ok g ∧
      g.predicate (.field "id") =
        .and [.compare .equal (.field "id") (.integer seven), .isNotNull (.field "id")]) ∧
    (∃ g : Filter .string, Filter.ofJson? .string dunePatternText = .ok g ∧
      g.predicate (.field "title") = .like (.field "title") "%Dune%") ∧
    (∃ g, Filter.ofJson? .dateTime boundText = .ok g ∧
      g.predicate (.field "due") =
        .compare .lessOrEqual (.field "due") (.timestamp dueDayEnd)) ∧
    (∃ c, c.family = .bounds ∧ plainBound.operand? c ≠ none ∧
      Filter.ofJson? (.base .dateTime) boundText = .error (Filter.refusal (.base .dateTime) c)) ∧
    ∃ c, c.family = .text ∧ duneNeedle.operand? c ≠ none ∧
      Filter.ofJson? (.range .string) duneNeedleText =
        .error (Filter.refusal (.range .string) c) := by
  rcases Filter.ofJson?_extends sevenText with ⟨hbase, -⟩
  rcases Filter.ofJson?_extends dunePatternText with ⟨-, hstring, -⟩
  rcases Filter.ofJson?_extends boundText with ⟨-, -, haccepts, hmoved, hbounds, -⟩
  rcases Filter.ofJson?_extends duneNeedleText with ⟨-, -, -, -, -, htext⟩
  have hseven : Filter.ofJson? (.base .long) sevenText = .ok sevenOnly :=
    toOption_eq_some_iff.mp (by decide +kernel)
  have hpattern : Filter.ofJson? (.range .string) dunePatternText = .ok dunePattern :=
    toOption_eq_some_iff.mp (by decide +kernel)
  have hbound : Filter.ofJson? (.range .dateTime) boundText = .ok plainBound :=
    toOption_eq_some_iff.mp (by decide +kernel)
  have hneedle : Filter.ofJson? .string duneNeedleText = .ok duneNeedle :=
    toOption_eq_some_iff.mp (by decide +kernel)
  have hnoBound : Filter.ofJson? (.base .dateTime) boundText =
      .error (.refused "condition `lessThanOrEqual` is not supported by BaseFilter") :=
    failure?_eq_some_iff.mp (by decide +kernel)
  have hnoNeedle : Filter.ofJson? (.range .string) duneNeedleText =
      .error (.refused "condition `contains` is not supported by RangeFilter") :=
    failure?_eq_some_iff.mp (by decide +kernel)
  refine ⟨?_, ?_, ?_, ?_, ?_⟩
  · rcases hbase .long sevenOnly hseven with ⟨g, hg, hsame⟩
    exact ⟨g, hg, hsame (.field "id")⟩
  · rcases hstring dunePattern hpattern with ⟨g, hg, hsame⟩
    exact ⟨g, hg, hsame (.field "title")⟩
  · rcases haccepts.mpr ⟨plainBound, hbound⟩ with ⟨g, hg⟩
    exact ⟨g, hg, hmoved plainBound g hbound hg (.field "due")⟩
  · rcases hbounds .dateTime plainBound _ hbound hnoBound with ⟨c, hc, hoperand, hnamed⟩
    exact ⟨c, hc, hoperand, hnoBound.trans (congrArg _ hnamed)⟩
  · rcases htext duneNeedle _ hneedle hnoNeedle with ⟨c, hc, hoperand, hnamed⟩
    exact ⟨c, hc, hoperand, hnoNeedle.trans (congrArg _ hnamed)⟩

end RowSieve
