import Mathlib.Data.List.Forall2
import RowSieve.Proofs.Calendar.Grammar
import RowSieve.Proofs.Filter.RoundTrip
import RowSieve.Proofs.Json.Objects

/-!
# Which Objects Are Filters

An object is a filter of a kind exactly if its keys are names of conditions,
none of them twice, every value is `null` or an operand of its condition, and
no operand belongs to a condition that the kind does not have. The filter then
holds those operands and no others.

What an operand is follows from how it is written, and no reader is asked. There
is one exception, and it is a reader that makes it. A zero with a sign in front
is an integer as it is written, but a floating-point number to the reader, which
refuses it.

Nothing of this refers to the order of the members or to the layout of the
text, so neither can matter. A `null` says that its condition has no operand,
which is what the absence of the whole member says.

## Main definitions

* `Scalar.Denotes`, `Condition.Denotes`: What a value of an object denotes.
* `Scalar.denoted?`, `Condition.denoted?`: What a reader makes of it.
* `Filter.Kind.conditions`: The conditions of a kind.
* `Filter.Acceptable`: The objects that are filters of a kind.
* `Filter.Unsigned`: No operand has a zero with a sign.
* `Filter.Kind.moved`: What becomes of an operand.
* `Filter.Holds`: The operands of a filter are those of an object.
* `Filter.said?`: The operand that an object gives for a condition.

## Theorems

* `Scalar.reads`, `Condition.reads`: What readers make of values and operands.
* `Condition.denoted?_eq_some_iff`: They make of them what they denote, unless
  there is a zero with a sign.
* `Filter.ofJson?_eq_some_iff`: The filter that is read from an object.
* `Filter.ofJson?_object`: Acceptance, result and independence of order.
-/

namespace RowSieve

open Calendar Json

namespace Scalar

/-- The tree is written as the value of a type. -/
def Denotes : (s : Scalar) → Tree → s.Value → Prop
  | .long, t, n => t.integer? = some (Bounded.val n)
  | .integer, t, n => t.integer? = some (Bounded.val n)
  | .string, t, s => t.string? = some (String.toList s)
  | .boolean, t, b => t.boolean? = some b
  | .date, t, d => ∃ x : DateText, t.string? = some x.text ∧ x.Denotes d
  | .dateTime, t, d => ∃ x : DateTimeText, t.string? = some x.text ∧ x.Denotes d

/-- What a reader makes of a tree. -/
def denoted? : (s : Scalar) → Tree → Option s.Value
  | .long, t => t.readInteger?.bind Bounded.ofInt?
  | .integer, t => t.readInteger?.bind Bounded.ofInt?
  | .string, t => t.string?.map String.ofList
  | .boolean, t => t.boolean?
  | .date, t => t.string?.bind fun cs => (Date.read cs).toOption
  | .dateTime, t => t.string?.bind fun cs => (DateTime.read cs).toOption

theorem toOption_calendarCheck {α : Type} (read : List Char → Except Flaw α) (cs : List Char) :
    (calendarCheck read (String.ofList cs)).toOption = (read cs).toOption := by
  rw [calendarCheck, String.toList_ofList]
  cases read cs <;> rfl

theorem reads (s : Scalar) : Reads s.read s.denoted? := by
  cases s with
  | long => exact reads_integer (by decide) (by decide) _
  | integer => exact reads_integer (by decide) (by decide) _
  | boolean => exact reads_boolean _
  | string =>
      have hread := reads_text (expected .string) .ok
      have hmap : ∀ t : Tree, (t.string?.bind fun cs => some (String.ofList cs)) =
          t.string?.map String.ofList := by
        intro t
        cases t.string? <;> rfl
      simp only [Except.toOption, hmap] at hread
      exact hread
  | date =>
      have hread := reads_text (expected .date) (calendarCheck Date.read)
      simp only [toOption_calendarCheck] at hread
      exact hread
  | dateTime =>
      have hread := reads_text (expected .dateTime) (calendarCheck DateTime.read)
      simp only [toOption_calendarCheck] at hread
      exact hread

theorem denoted?_null (s : Scalar) : s.denoted? .null = none := by
  cases s <;> rfl

/-- A text denotes one value of a type at most. -/
theorem Denotes.unique {s : Scalar} {t : Tree} {v w : s.Value} (hv : s.Denotes t v)
    (hw : s.Denotes t w) : v = w := by
  cases s with
  | long | integer => exact Bounded.ext (Option.some.inj (hv.symm.trans hw))
  | string => exact String.ext (Option.some.inj (hv.symm.trans hw))
  | boolean => exact Option.some.inj (hv.symm.trans hw)
  -- Two ways to make one text denote one date, since a reader finds both.
  | date =>
      rcases hv with ⟨x, hx, hdate⟩
      rcases hw with ⟨y, hy, hother⟩
      have hread := Date.read_eq_ok_iff.mpr ⟨x, rfl, hdate⟩
      rw [Option.some.inj (hx.symm.trans hy)] at hread
      exact Except.ok.inj (hread.symm.trans (Date.read_eq_ok_iff.mpr ⟨y, rfl, hother⟩))
  | dateTime =>
      rcases hv with ⟨x, hx, htime⟩
      rcases hw with ⟨y, hy, hother⟩
      have hread := DateTime.read_eq_ok_iff.mpr ⟨x, rfl, htime⟩
      rw [Option.some.inj (hx.symm.trans hy)] at hread
      exact Except.ok.inj (hread.symm.trans (DateTime.read_eq_ok_iff.mpr ⟨y, rfl, hother⟩))

/-- A value of a type is no list. -/
theorem Denotes.items?_eq_none {s : Scalar} {t : Tree} {v : s.Value} (h : s.Denotes t v) :
    t.items? = none := by
  cases t with
  | list inner items =>
      cases s with
      | date | dateTime =>
          rcases h with ⟨x, hx, -⟩
          cases hx
      | _ => cases h
  | _ => rfl

theorem readInteger?_eq_some_iff {lo hi : Int} {t : Tree} {n : Bounded lo hi} :
    t.readInteger?.bind Bounded.ofInt? = some n ↔
      t.integer? = some n.val ∧ t.isSignedZero = false := by
  simp only [Tree.readInteger?, Option.bind_eq_some_iff, Option.ite_none_left_eq_some,
    Bool.not_eq_true, Bounded.ofInt?_eq_some_iff]
  constructor
  · rintro ⟨i, ⟨hsign, hi⟩, rfl⟩
    exact ⟨hi, hsign⟩
  · rintro ⟨hi, hsign⟩
    exact ⟨n.val, ⟨hsign, hi⟩, rfl⟩

/-- A string is no number, so it is no zero either. -/
theorem isSignedZero_of_string? {t : Tree} {cs : List Char} (h : t.string? = some cs) :
    t.isSignedZero = false := by
  cases t with
  | string pieces => rfl
  | _ => cases h

/-- A text of a calendar that is read is a text that denotes what is read. -/
theorem string?_bind_eq_some_iff {α : Type} {read : List Char → Except Flaw α}
    {Means : List Char → α → Prop} (hread : ∀ {cs x}, read cs = .ok x ↔ Means cs x) {t : Tree}
    {x : α} :
    (t.string?.bind fun cs => (read cs).toOption) = some x ↔
      (∃ cs, t.string? = some cs ∧ Means cs x) ∧ t.isSignedZero = false := by
  simp only [Option.bind_eq_some_iff, toOption_eq_some_iff, hread]
  exact (and_iff_left_of_imp fun ⟨_, hcs, _⟩ => isSignedZero_of_string? hcs).symm

/-- A reader makes of a tree what it denotes, unless it is a zero with a sign. -/
theorem denoted?_eq_some_iff {s : Scalar} {t : Tree} {v : s.Value} :
    s.denoted? t = some v ↔ s.Denotes t v ∧ t.isSignedZero = false := by
  cases s with
  | long => exact readInteger?_eq_some_iff
  | integer => exact readInteger?_eq_some_iff
  | boolean =>
      refine (and_iff_left_of_imp fun h => ?_).symm
      cases t with
      | boolean b => rfl
      | _ => cases h
  | string =>
      refine Iff.trans ?_ (and_iff_left_of_imp fun h => isSignedZero_of_string? h).symm
      refine Option.map_eq_some_iff.trans ?_
      constructor
      · rintro ⟨cs, hcs, rfl⟩
        exact hcs.trans (congrArg some String.toList_ofList.symm)
      · intro h
        exact ⟨_, h, String.ofList_toList⟩
  | date =>
      refine (string?_bind_eq_some_iff Date.read_eq_ok_iff).trans (and_congr_left fun _ => ?_)
      constructor
      · rintro ⟨_, hcs, x, rfl, hx⟩
        exact ⟨x, hcs, hx⟩
      · rintro ⟨x, hcs, hx⟩
        exact ⟨_, hcs, x, rfl, hx⟩
  | dateTime =>
      refine (string?_bind_eq_some_iff DateTime.read_eq_ok_iff).trans (and_congr_left fun _ => ?_)
      constructor
      · rintro ⟨_, hcs, x, rfl, hx⟩
        exact ⟨x, hcs, hx⟩
      · rintro ⟨x, hcs, hx⟩
        exact ⟨_, hcs, x, rfl, hx⟩

end Scalar

namespace Condition

variable {s : Scalar}

/-- The tree is written as the operand of a condition. No element of a list is
    `null`, which is no value of any type. -/
def Denotes (s : Scalar) : (c : Condition) → Tree → c.Operand s → Prop
  | .equals, t, v => s.Denotes t v
  | .notEquals, t, v => s.Denotes t v
  | .specified, t, v => t.boolean? = some v
  | .oneOf, t, vs => ∃ ts, t.items? = some ts ∧ List.Forall₂ s.Denotes ts vs
  | .noneOf, t, vs => ∃ ts, t.items? = some ts ∧ List.Forall₂ s.Denotes ts vs
  | .greaterThan, t, v => s.Denotes t v
  | .lessThan, t, v => s.Denotes t v
  | .greaterThanOrEqual, t, v => s.Denotes t v
  | .lessThanOrEqual, t, v => s.Denotes t v
  | .like, t, v => s.Denotes t v
  | .contains, t, v => t.string? = some (String.toList v)
  | .doesNotContain, t, v => t.string? = some (String.toList v)

/-- A text denotes one operand of a condition at most. -/
theorem Denotes.unique {c : Condition} {t : Tree} {v w : c.Operand s} (hv : c.Denotes s t v)
    (hw : c.Denotes s t w) : v = w := by
  cases c with
  | specified => exact Option.some.inj (hv.symm.trans hw)
  -- Two lists of values for the same trees agree one by one.
  | oneOf | noneOf =>
      rcases hv with ⟨ts, hts, hvs⟩
      rcases hw with ⟨us, hus, hws⟩
      rw [hts, Option.some.injEq] at hus
      have hunique : Relator.RightUnique s.Denotes := fun _ _ _ => Scalar.Denotes.unique
      exact hunique.forall₂ hvs (hus ▸ hws)
  | contains | doesNotContain => exact Scalar.Denotes.unique (s := .string) hv hw
  | _ => exact Scalar.Denotes.unique hv hw

/-- What a reader makes of a tree as the operand of a condition. -/
def denoted? (s : Scalar) : (c : Condition) → Tree → Option (c.Operand s)
  | .equals, t => s.denoted? t
  | .notEquals, t => s.denoted? t
  | .specified, t => t.boolean?
  | .oneOf, t => t.items?.bind fun ts => ts.mapM s.denoted?
  | .noneOf, t => t.items?.bind fun ts => ts.mapM s.denoted?
  | .greaterThan, t => s.denoted? t
  | .lessThan, t => s.denoted? t
  | .greaterThanOrEqual, t => s.denoted? t
  | .lessThanOrEqual, t => s.denoted? t
  | .like, t => s.denoted? t
  | .contains, t => t.string?.map String.ofList
  | .doesNotContain, t => t.string?.map String.ofList

theorem reads (c : Condition) : Reads (c.readOperand s) (c.denoted? s) := by
  cases c with
  | specified => exact reads_boolean _
  | oneOf | noneOf => exact reads_list s.reads _
  | contains | doesNotContain => exact Scalar.string.reads
  | _ => exact s.reads

theorem denoted?_null (c : Condition) : c.denoted? s .null = none := by
  cases c with
  | specified | oneOf | noneOf | contains | doesNotContain => rfl
  | _ => exact s.denoted?_null

/-- The elements of a list are read one by one. -/
theorem mapM_denoted?_eq_some_iff {ts : List Tree} {vs : List s.Value} :
    ts.mapM s.denoted? = some vs ↔
      List.Forall₂ s.Denotes ts vs ∧ ts.any Tree.isSignedZero = false := by
  induction ts generalizing vs with
  | nil =>
      simp only [List.mapM_nil, pure, Option.some.injEq, List.forall₂_nil_left_iff, List.any_nil,
        and_true, eq_comm]
  | cons t ts ih =>
      simp only [List.mapM_cons, bind, pure, Option.bind_eq_some_iff, Option.some.injEq, ih,
        Scalar.denoted?_eq_some_iff, List.forall₂_cons_left_iff, List.any_cons, Bool.or_eq_false_iff]
      constructor
      · rintro ⟨v, ⟨hv, hsign⟩, ws, ⟨hws, hsigns⟩, rfl⟩
        exact ⟨⟨v, ws, hv, hws, rfl⟩, hsign, hsigns⟩
      · rintro ⟨⟨v, ws, hv, hws, rfl⟩, hsign, hsigns⟩
        exact ⟨v, ⟨hv, hsign⟩, ws, ⟨hws, hsigns⟩, rfl⟩

/-- What is no list has no elements to look at. -/
theorem hasSignedZero_of_items? {t : Tree} (h : t.items? = none) :
    t.hasSignedZero = t.isSignedZero := by
  rw [Tree.hasSignedZero, h, Option.getD_none, List.any_nil, Bool.or_false]

/-- A list is read if each of its elements is. -/
theorem items?_bind_eq_some_iff {t : Tree} {vs : List s.Value} :
    (t.items?.bind fun ts => ts.mapM s.denoted?) = some vs ↔
      (∃ ts, t.items? = some ts ∧ List.Forall₂ s.Denotes ts vs) ∧ t.hasSignedZero = false := by
  cases t with
  | list inner items =>
      simp only [Tree.items?, Option.bind_some, Option.some.injEq, exists_eq_left',
        Tree.hasSignedZero, Tree.isSignedZero, Option.getD_some, Bool.false_or]
      exact mapM_denoted?_eq_some_iff
  | _ => simp only [Tree.items?, Option.bind_none, reduceCtorEq, false_and, exists_false]

/-- A reader makes of an operand what it denotes, unless it has a zero with a
    sign. -/
theorem denoted?_eq_some_iff {c : Condition} {t : Tree} {v : c.Operand s} :
    c.denoted? s t = some v ↔ c.Denotes s t v ∧ t.hasSignedZero = false := by
  have hscalar : ∀ {r : Scalar} {v : r.Value}, r.denoted? t = some v ↔
      r.Denotes t v ∧ t.hasSignedZero = false := by
    intro r v
    rw [Scalar.denoted?_eq_some_iff]
    exact and_congr_right fun h => by rw [hasSignedZero_of_items? h.items?_eq_none]
  -- Flags and search texts are read as values of the types that they have.
  cases c with
  | specified => exact hscalar (r := .boolean)
  | oneOf | noneOf => exact items?_bind_eq_some_iff
  | contains | doesNotContain => exact hscalar (r := .string)
  | _ => exact hscalar

end Condition

namespace Filter

variable {kind : Kind}

/-- The keys are names of conditions, none of them comes twice, and every value
    is `null` or an operand of its condition. -/
structure WellTyped (s : Scalar) (entries : List Entry) : Prop where
  known : ∀ e ∈ entries, ∃ c : Condition, e.key? = some c.key
  distinct : (entries.map Entry.key?).Nodup
  typed : ∀ e ∈ entries, ∀ c : Condition, e.key? = some c.key → e.value ≠ .null →
    ∃ v, c.Denotes s e.value v

/-- The conditions of a kind, in the order of their names. -/
def Kind.conditions : Kind → List Condition
  | .base _ => [.equals, .notEquals, .specified, .oneOf, .noneOf]
  | .string =>
    [.equals, .notEquals, .specified, .oneOf, .noneOf, .greaterThan, .lessThan,
     .greaterThanOrEqual, .lessThanOrEqual, .like, .contains, .doesNotContain]
  | _ =>
    [.equals, .notEquals, .specified, .oneOf, .noneOf, .greaterThan, .lessThan,
     .greaterThanOrEqual, .lessThanOrEqual, .like]

theorem Kind.mem_conditions_iff (k : Kind) {c : Condition} :
    c ∈ k.conditions ↔ k.supports c.family = true := by
  cases k with
  | base s | range s => cases s <;> cases c <;> decide
  | string | dateTime => cases c <;> decide

/-- The entries are those of a filter of the kind: no operand is for a
    condition that the kind does not have. -/
structure Acceptable (kind : Kind) (entries : List Entry) : Prop
    extends WellTyped kind.scalar entries where
  placed : ∀ e ∈ entries, ∀ c : Condition, e.key? = some c.key → e.value ≠ .null →
    c ∈ kind.conditions

/-- No operand is a zero with a sign, or has one among its elements. -/
def Unsigned (entries : List Entry) : Prop := ∀ e ∈ entries, e.value.hasSignedZero = false

/-- What becomes of an operand. The two inclusive bounds of a filter on
    date-times move to 00:00:00 and to 23:59:59.999999999 of their date. -/
def Kind.moved : (k : Kind) → (c : Condition) → c.Operand k.scalar → c.Operand k.scalar
  | .dateTime, .greaterThanOrEqual, t =>
    (⟨DateTime.date t, ⟨⟨0, 0, 0, 0⟩, Clock.isValid_first⟩⟩ : DateTime)
  | .dateTime, .lessThanOrEqual, t =>
    (⟨DateTime.date t, ⟨⟨23, 59, 59, 999999999⟩, Clock.isValid_last⟩⟩ : DateTime)
  | _, _, v => v

theorem Kind.kept_eq_moved (k : Kind) (c : Condition) : k.kept c = k.moved c := by
  cases k with
  | dateTime => cases c <;> rfl
  | _ => rfl

/-- The conditions of the filter are those that the entries give a value for,
    each with what becomes of the operand that the value denotes. -/
structure Holds (f : Filter kind) (entries : List Entry) : Prop where
  present : ∀ e ∈ entries, ∀ c : Condition, e.key? = some c.key → e.value ≠ .null →
    ∃ v, c.Denotes kind.scalar e.value v ∧ f.operand? c = some (kind.moved c v)
  absent : ∀ c : Condition, (∀ e ∈ entries, e.key? = some c.key → e.value = .null) →
    f.operand? c = none

/-- The operand that the entries give for a condition. -/
def said? (kind : Kind) (entries : List Entry) : Members (Condition.Operand kind.scalar) :=
  fun c => (entries.find? fun e => e.key? == some c.key).bind fun e =>
    c.denoted? kind.scalar e.value

theorem key_injective {c d : Condition} (h : c.key = d.key) : c = d := by
  have hc : form.key? c.key = some c := form_distinct c c.mem_all
  have hd : form.key? d.key = some d := form_distinct d d.mem_all
  rw [h, hd, Option.some.injEq] at hc
  exact hc.symm

theorem keyOf?_eq_some_iff {e : Entry} {c : Condition} :
    form.keyOf? e = some c ↔ e.key? = some c.key := by
  rw [Form.keyOf?, Option.bind_eq_some_iff]
  constructor
  · intro h
    rcases h with ⟨s, hs, hkey⟩
    have hname : (c.key == s) = true := List.find?_some (p := fun d => form.name d == s) hkey
    rw [hs, eq_of_beq hname]
  · intro h
    exact ⟨c.key, h, form_distinct c c.mem_all⟩

/-- An entry that gives a value for a condition is the only one. -/
theorem said?_of_mem {entries : List Entry} (hdistinct : (entries.map Entry.key?).Nodup)
    {e : Entry} (he : e ∈ entries) {c : Condition} (hkey : e.key? = some c.key) :
    said? kind entries c = c.denoted? kind.scalar e.value := by
  induction entries with
  | nil => exact absurd he List.not_mem_nil
  | cons d entries ih =>
      rw [List.map_cons, List.nodup_cons] at hdistinct
      by_cases hd : d.key? = some c.key
      -- A later entry would have the key a second time.
      · have hed : e = d := by
          rcases List.mem_cons.mp he with heq | hlater
          · exact heq
          · rw [hd, ← hkey] at hdistinct
            exact absurd (List.mem_map_of_mem hlater) hdistinct.1
        have hhere : (d.key? == some c.key) = true := beq_iff_eq.mpr hd
        simp only [said?, List.find?_cons, hhere, Option.bind_some, hed]
      · have hlater : e ∈ entries := by
          rcases List.mem_cons.mp he with heq | hlater
          · exact absurd (heq ▸ hkey) hd
          · exact hlater
        have hother : (d.key? == some c.key) = false := beq_eq_false_iff_ne.mpr hd
        simp only [said?, List.find?_cons, hother]
        exact ih hdistinct.2 hlater

theorem said?_of_absent {entries : List Entry} {c : Condition}
    (h : ∀ e ∈ entries, e.key? ≠ some c.key) : said? kind entries c = none := by
  have hfind : (entries.find? fun e => e.key? == some c.key) = none := by
    rw [List.find?_eq_none]
    exact fun e he heq => h e he (eq_of_beq heq)
  rw [said?, hfind, Option.bind_none]

/-- Keys of conditions are different exactly if the conditions are. -/
theorem nodup_keyOf?_iff {entries : List Entry}
    (hknown : ∀ e ∈ entries, ∃ c : Condition, e.key? = some c.key) :
    (entries.map form.keyOf?).Nodup ↔ (entries.map Entry.key?).Nodup := by
  have hsame : ∀ e ∈ entries, ∀ d ∈ entries,
      form.keyOf? e = form.keyOf? d ↔ e.key? = d.key? := by
    intro e he d hd
    rcases hknown d hd with ⟨c, hc⟩
    rw [keyOf?_eq_some_iff.mpr hc, keyOf?_eq_some_iff, hc]
  rw [List.Nodup, List.Nodup, List.pairwise_map, List.pairwise_map]
  exact List.Pairwise.iff_of_mem fun he hd => not_congr (hsame _ he _ hd)

/-- A value that is read is an operand without such a zero, or `null`. -/
theorem denotes_and_unsigned {s : Scalar} {c : Condition} {t : Tree}
    (h : t ≠ .null → ∃ v, c.denoted? s t = some v) :
    (t ≠ .null → ∃ v, c.Denotes s t v) ∧ t.hasSignedZero = false := by
  by_cases hnull : t = .null
  · exact ⟨fun hvalue => absurd hnull hvalue, hnull ▸ rfl⟩
  · rcases h hnull with ⟨v, hv⟩
    rw [Condition.denoted?_eq_some_iff] at hv
    exact ⟨fun _ => ⟨v, hv.1⟩, hv.2⟩

/-- The pass over the entries of an object succeeds if they are well typed and
    unsigned, and collects what they say. -/
theorem collect_eq_some_iff {entries : List Entry}
    {m : Members (Condition.Operand kind.scalar)} :
    form.collect (fun c t => t.orNull? (c.denoted? kind.scalar)) form.keys Members.none entries =
        some m ↔
      (WellTyped kind.scalar entries ∧ Unsigned entries) ∧ m = said? kind entries := by
  rw [Form.collect_eq_some_iff (by decide)]
  simp only [ne_eq, keyOf?_eq_some_iff, Tree.orNull?_eq_some_iff (Condition.denoted?_null _)]
  constructor
  · intro h
    rcases h with ⟨htaken, hdistinct, habsent⟩
    have hknown : ∀ e ∈ entries, ∃ c : Condition, e.key? = some c.key := by
      intro e he
      rcases htaken e he with ⟨c, -, hkey, -⟩
      exact ⟨c, hkey⟩
    rw [nodup_keyOf?_iff hknown] at hdistinct
    -- The condition that an entry has taken is the one that its key names.
    have hvalue : ∀ e ∈ entries, ∀ c : Condition, e.key? = some c.key →
        m c = c.denoted? kind.scalar e.value ∧
          (e.value ≠ .null → ∃ v, c.denoted? kind.scalar e.value = some v) := by
      intro e he c hc
      rcases htaken e he with ⟨d, -, hd, hmeaning⟩
      rw [hc, Option.some.injEq] at hd
      rw [key_injective hd]
      exact hmeaning
    refine ⟨⟨⟨hknown, hdistinct, fun e he c hc => ?_⟩, fun e he => ?_⟩, ?_⟩
    · exact (denotes_and_unsigned (hvalue e he c hc).2).1
    · rcases hknown e he with ⟨c, hc⟩
      exact (denotes_and_unsigned (hvalue e he c hc).2).2
    funext c
    by_cases hc : ∃ e ∈ entries, e.key? = some c.key
    · rcases hc with ⟨e, he, hkey⟩
      rw [said?_of_mem hdistinct he hkey, (hvalue e he c hkey).1]
    · have hnone : ∀ e ∈ entries, e.key? ≠ some c.key := fun e he hkey => hc ⟨e, he, hkey⟩
      rw [said?_of_absent hnone]
      exact habsent c hnone
  · intro h
    rcases h with ⟨⟨hentries, hunsigned⟩, rfl⟩
    -- Every entry finds the slot of its condition empty, as no key comes twice.
    refine ⟨fun e he => ?_, (nodup_keyOf?_iff hentries.known).mpr hentries.distinct, fun c hc => ?_⟩
    · rcases hentries.known e he with ⟨c, hkey⟩
      refine ⟨c, c.mem_all, hkey, said?_of_mem hentries.distinct he hkey, fun hvalue => ?_⟩
      rcases hentries.typed e he c hkey hvalue with ⟨v, hv⟩
      exact ⟨v, Condition.denoted?_eq_some_iff.mpr ⟨hv, hunsigned e he⟩⟩
    · exact said?_of_absent hc

theorem misplaced?_eq_none_iff {m : Members (Condition.Operand kind.scalar)} :
    misplaced? kind m = none ↔ ∀ c : Condition, m c ≠ none → kind.supports c.family = true := by
  rw [misplaced?, List.find?_eq_none]
  constructor
  · intro h c hc
    have hplaced := h c c.mem_all
    rw [Bool.and_eq_true, Option.isSome_iff_ne_none, Bool.not_eq_true'] at hplaced
    exact eq_true_of_ne_false fun hlacks => hplaced ⟨hc, hlacks⟩
  · intro h c _ hc
    rw [Bool.and_eq_true, Option.isSome_iff_ne_none, Bool.not_eq_true'] at hc
    rw [h c hc.1] at hc
    exact Bool.noConfusion hc.2

/-- A filter from a list of operands is there if none of them is misplaced. -/
theorem ofMembers?_eq_ok_iff {m : Members (Condition.Operand kind.scalar)} {f : Filter kind} :
    ofMembers? m = .ok f ↔
      (∀ c : Condition, m c ≠ none → kind.supports c.family = true) ∧
        f.operand? = keepAll kind m := by
  rw [← misplaced?_eq_none_iff]
  unfold ofMembers?
  split
  case h_1 c hmisplaced =>
    simp only [hmisplaced, reduceCtorEq, false_and]
  case h_2 hplaced =>
    rw [Except.ok.injEq]
    constructor
    · intro h
      exact ⟨hplaced, h ▸ rfl⟩
    · intro h
      exact ext fun c => congrFun h.2.symm c

/-- A text is read as a filter if it starts with a record of conditions, their
    operands make a filter, and only space is left behind the record. -/
theorem toOption_ofJson?_text (kind : Kind) (text : String) :
    (ofJson? kind text).toOption =
      (form.read (Condition.readOperand kind.scalar) text.toList).toOption.bind fun r =>
        (ofMembers? r.1 : Except Condition (Filter kind)).toOption.bind fun f =>
          if (skipSpace r.2).isEmpty then some f else none := by
  rw [ofJson?, whole, toOption_bind, read, toOption_bind, Option.bind_assoc]
  refine Option.bind_congr fun r _ => ?_
  rcases r with ⟨m, rest⟩
  simp only []
  cases (ofMembers? m : Except Condition (Filter kind)) with
  | error c => rfl
  | ok f =>
      by_cases hend : (skipSpace rest).isEmpty = true <;>
        simp only [Except.toOption, Option.bind_some, hend, if_true, if_false, Bool.false_eq_true]

theorem toOption_ofJson? (kind : Kind) (o : ObjectText) :
    (ofJson? kind o.text).toOption =
      (form.collect (fun c t => t.orNull? (c.denoted? kind.scalar)) form.keys Members.none
        o.entries).bind fun m => (ofMembers? m).toOption := by
  have hitem : ∀ c : Condition, Reads (Json.optional (c.readOperand kind.scalar))
      fun t => t.orNull? (c.denoted? kind.scalar) := fun c => reads_optional c.reads
  have hread := form.read_object hitem o.before o.inner o.members o.after.chars
  rw [toOption_ofJson?_text, ObjectText.text, String.toList_ofList, hread, ObjectText.entries,
    Option.bind_map]
  refine Option.bind_congr fun m _ => ?_
  rw [Function.comp_apply]
  -- Only space is left behind the object.
  simp only [skipSpace_chars, List.isEmpty_nil, if_true, Option.bind_fun_some]

/-- What well-typed entries say is what the value of one of them denotes. -/
theorem said?_eq_some_iff {entries : List Entry} (h : WellTyped kind.scalar entries)
    {c : Condition} {v : c.Operand kind.scalar} :
    said? kind entries c = some v ↔
      ∃ e ∈ entries, e.key? = some c.key ∧ c.denoted? kind.scalar e.value = some v := by
  constructor
  · intro hv
    by_cases hc : ∃ e ∈ entries, e.key? = some c.key
    · rcases hc with ⟨e, he, hkey⟩
      rw [said?_of_mem h.distinct he hkey] at hv
      exact ⟨e, he, hkey, hv⟩
    · rw [said?_of_absent fun e he hkey => hc ⟨e, he, hkey⟩] at hv
      cases hv
  · intro hv
    rcases hv with ⟨e, he, hkey, hdenoted⟩
    rw [said?_of_mem h.distinct he hkey, hdenoted]

/-- A condition that something is said of is one that the kind has. -/
theorem Acceptable.supports {entries : List Entry} (h : Acceptable kind entries) {c : Condition}
    (hc : said? kind entries c ≠ none) : kind.supports c.family = true := by
  rcases Option.ne_none_iff_exists'.mp hc with ⟨v, hv⟩
  rcases (said?_eq_some_iff h.toWellTyped).mp hv with ⟨e, he, hkey, hdenoted⟩
  refine kind.mem_conditions_iff.mp (h.placed e he c hkey fun hnull => ?_)
  rw [hnull, c.denoted?_null] at hdenoted
  cases hdenoted

/-- An operand that is written without such a zero is said. -/
theorem WellTyped.said?_eq {entries : List Entry} (h : WellTyped kind.scalar entries)
    (hunsigned : Unsigned entries) {e : Entry} (he : e ∈ entries) {c : Condition}
    (hkey : e.key? = some c.key) {v : c.Operand kind.scalar}
    (hv : c.Denotes kind.scalar e.value v) : said? kind entries c = some v := by
  rw [said?_of_mem h.distinct he hkey, Condition.denoted?_eq_some_iff]
  exact ⟨hv, hunsigned e he⟩

/-- The filter that is read from an object is the one that its entries say. -/
theorem ofJson?_eq_some_iff {kind : Kind} {o : ObjectText} {f : Filter kind} :
    (ofJson? kind o.text).toOption = some f ↔
      (Acceptable kind o.entries ∧ Unsigned o.entries) ∧
        f.operand? = keepAll kind (said? kind o.entries) := by
  rw [toOption_ofJson?, Option.bind_eq_some_iff]
  simp only [collect_eq_some_iff, toOption_eq_some_iff, ofMembers?_eq_ok_iff]
  constructor
  · intro h
    rcases h with ⟨m, ⟨⟨hentries, hunsigned⟩, rfl⟩, hplaced, hf⟩
    -- An operand that is there is said, and what is said has its place.
    refine ⟨⟨⟨hentries, fun e he c hkey hvalue => ?_⟩, hunsigned⟩, hf⟩
    rcases hentries.typed e he c hkey hvalue with ⟨v, hv⟩
    refine kind.mem_conditions_iff.mpr (hplaced c ?_)
    rw [hentries.said?_eq hunsigned he hkey hv]
    exact Option.some_ne_none v
  · intro h
    rcases h with ⟨⟨hentries, hunsigned⟩, hf⟩
    exact ⟨_, ⟨⟨hentries.toWellTyped, hunsigned⟩, rfl⟩, fun c hc => hentries.supports hc, hf⟩

/-- The filter that acceptable entries say. -/
def ofEntries {entries : List Entry} (h : Acceptable kind entries) : Filter kind where
  operand? := keepAll kind (said? kind entries)
  absent c hc := by
    have hnone : said? kind entries c = none := by
      refine Option.eq_none_iff_forall_ne_some.mpr fun v hv => ?_
      rw [h.supports (hv ▸ Option.some_ne_none v)] at hc
      exact Bool.noConfusion hc
    rw [keepAll, hnone, Option.map_none]

/-- It holds what they say: what becomes of the operands that their values
    denote, and nothing where there is only `null` or no value at all. -/
theorem holds_of_operand? {entries : List Entry} (h : WellTyped kind.scalar entries)
    (hunsigned : Unsigned entries) {f : Filter kind}
    (hf : f.operand? = keepAll kind (said? kind entries)) : f.Holds entries where
  present e he c hkey hvalue := by
    rcases h.typed e he c hkey hvalue with ⟨v, hv⟩
    refine ⟨v, hv, ?_⟩
    rw [hf, keepAll, h.said?_eq hunsigned he hkey hv, Option.map_some, kind.kept_eq_moved]
  absent c hc := by
    have hnone : said? kind entries c = none := by
      refine Option.eq_none_iff_forall_ne_some.mpr fun v hv => ?_
      rcases (said?_eq_some_iff h).mp hv with ⟨e, he, hkey, hdenoted⟩
      rw [hc e he hkey, c.denoted?_null] at hdenoted
      cases hdenoted
    rw [hf, keepAll, hnone, Option.map_none]

/-- What is said does not depend on the order of the entries, nor on those that
    say nothing. -/
theorem said?_congr {entries others : List Entry} (h : WellTyped kind.scalar entries)
    (hother : WellTyped kind.scalar others)
    (hsame : ∀ e : Entry, e.value ≠ .null → (e ∈ others ↔ e ∈ entries)) :
    said? kind others = said? kind entries := by
  funext c
  refine Option.ext fun v => ?_
  rw [said?_eq_some_iff h, said?_eq_some_iff hother]
  refine exists_congr fun e => and_congr_left fun hkey => hsame e fun hnull => ?_
  rw [hnull, c.denoted?_null] at hkey
  cases hkey.2

theorem Acceptable.perm {entries others : List Entry} (h : Acceptable kind entries)
    (hperm : entries.Perm others) : Acceptable kind others where
  known e he := h.known e (hperm.mem_iff.mpr he)
  distinct := (hperm.map Entry.key?).nodup_iff.mp h.distinct
  typed e he := h.typed e (hperm.mem_iff.mpr he)
  placed e he := h.placed e (hperm.mem_iff.mpr he)

/-- A `null` for a condition that is not mentioned makes no difference. -/
theorem acceptable_cons_null {entries : List Entry} {c : Condition}
    (hfresh : ∀ e ∈ entries, e.key? ≠ some c.key) :
    Acceptable kind (⟨some c.key, .null⟩ :: entries) ↔ Acceptable kind entries := by
  constructor
  · intro h
    have hdistinct := h.distinct
    rw [List.map_cons, List.nodup_cons] at hdistinct
    exact ⟨⟨fun e he => h.known e (List.mem_cons_of_mem _ he), hdistinct.2,
      fun e he => h.typed e (List.mem_cons_of_mem _ he)⟩,
      fun e he => h.placed e (List.mem_cons_of_mem _ he)⟩
  · intro h
    refine ⟨⟨?_, ?_, ?_⟩, ?_⟩
    · exact List.forall_mem_cons.mpr ⟨⟨c, rfl⟩, h.known⟩
    · rw [List.map_cons, List.nodup_cons, List.mem_map]
      refine ⟨fun hmem => ?_, h.distinct⟩
      rcases hmem with ⟨e, he, hkey⟩
      exact hfresh e he hkey
    · exact List.forall_mem_cons.mpr ⟨fun _ _ hvalue => absurd rfl hvalue, h.typed⟩
    · exact List.forall_mem_cons.mpr ⟨fun _ _ hvalue => absurd rfl hvalue, h.placed⟩

/-- A `null` is no zero. -/
theorem unsigned_iff {entries : List Entry} :
    Unsigned entries ↔ ∀ e ∈ entries, e.value ≠ .null → e.value.hasSignedZero = false := by
  constructor
  · intro h e he _
    exact h e he
  · intro h e he
    by_cases hnull : e.value = .null
    · rw [hnull]
      rfl
    · exact h e he hnull

/-- Two objects with the same operands for the same conditions give the same
    filter, or none. -/
theorem toOption_ofJson?_congr {o other : ObjectText}
    (hacceptable : Acceptable kind other.entries ↔ Acceptable kind o.entries)
    (hsame : ∀ e : Entry, e.value ≠ .null → (e ∈ other.entries ↔ e ∈ o.entries)) :
    (ofJson? kind other.text).toOption = (ofJson? kind o.text).toOption := by
  have hunsigned : Unsigned other.entries ↔ Unsigned o.entries := by
    rw [unsigned_iff, unsigned_iff]
    constructor
    · intro h e he hvalue
      exact h e ((hsame e hvalue).mpr he) hvalue
    · intro h e he hvalue
      exact h e ((hsame e hvalue).mp he) hvalue
  refine Option.ext fun f => ?_
  rw [ofJson?_eq_some_iff, ofJson?_eq_some_iff, hacceptable, hunsigned]
  refine and_congr_right fun h => ?_
  rw [said?_congr h.1.toWellTyped (hacceptable.mpr h.1).toWellTyped hsame]

/-- Conditions go by twelve names. For every kind of filter, an object is read as
    a filter exactly if its entries are acceptable and none of its zeros has a
    sign, and then the filter holds what they say. Neither the order of the
    members matters nor a `null` for a condition that is not mentioned
    otherwise. -/
theorem ofJson?_object (kind : Kind) (o : ObjectText) :
    (Kind.conditions .string).map Condition.key =
      ["equals", "notEquals", "specified", "in", "notIn", "greaterThan", "lessThan",
       "greaterThanOrEqual", "lessThanOrEqual", "like", "contains", "doesNotContain"] ∧
    ((∃ f, ofJson? kind o.text = .ok f) ↔ Acceptable kind o.entries ∧ Unsigned o.entries) ∧
    (∀ f, ofJson? kind o.text = .ok f → f.Holds o.entries) ∧
    (∀ other : ObjectText, other.entries.Perm o.entries →
      (ofJson? kind other.text).toOption = (ofJson? kind o.text).toOption) ∧
    (∀ (other : ObjectText) (c : Condition), (∀ e ∈ o.entries, e.key? ≠ some c.key) →
      other.entries.Perm (⟨some c.key, .null⟩ :: o.entries) →
      (ofJson? kind other.text).toOption = (ofJson? kind o.text).toOption) := by
  refine ⟨rfl, ⟨fun h => ?_, fun h => ?_⟩, fun f hf => ?_, fun other hperm => ?_,
    fun other c hfresh hperm => ?_⟩
  · rcases h with ⟨f, hf⟩
    exact (ofJson?_eq_some_iff.mp (toOption_eq_some_iff.mpr hf)).1
  · exact ⟨ofEntries h.1, toOption_eq_some_iff.mp (ofJson?_eq_some_iff.mpr ⟨h, rfl⟩)⟩
  · rcases ofJson?_eq_some_iff.mp (toOption_eq_some_iff.mpr hf) with
      ⟨⟨hentries, hunsigned⟩, hoperand⟩
    exact holds_of_operand? hentries.toWellTyped hunsigned hoperand
  · refine toOption_ofJson?_congr ⟨fun h => h.perm hperm, fun h => h.perm hperm.symm⟩ ?_
    exact fun e _ => hperm.mem_iff
  · refine toOption_ofJson?_congr ?_ fun e hvalue => ?_
    · rw [← acceptable_cons_null hfresh]
      exact ⟨fun h => h.perm hperm, fun h => h.perm hperm.symm⟩
    · -- The entry that is added has no value.
      rw [hperm.mem_iff, List.mem_cons]
      refine or_iff_right fun heq => hvalue ?_
      rw [heq]

end Filter

/-- A string without escapes. -/
def spelled (cs : List Char)
    (h : (cs.all fun c => decide (c ≠ '"' ∧ c ≠ '\\' ∧ 0x20 ≤ c.toNat)) = true) :
    List StringPiece :=
  cs.pmap .plain fun c hc => of_decide_eq_true (List.all_eq_true.mp h c hc)

def noSpace : Space := ⟨[], List.forall_mem_nil _⟩

def oneSpace : Space := ⟨[' '], List.forall_mem_singleton.mpr List.mem_cons_self⟩

/-- The third of November 2019 at five past eight, with one digit where one
    will do. -/
def dueText : Tree :=
  .string (spelled ['2', '0', '1', '9', '-', '1', '1', '-', '3', 'T', '8', ':', '5', ':', '0']
    rfl)

def dueTime : DateTime :=
  ⟨⟨⟨2019, 11, 3⟩, by decide, by decide, by decide⟩, ⟨⟨8, 5, 0, 0⟩, by decide⟩⟩

/-- The last moment of that day. -/
def dueDayEnd : DateTime :=
  ⟨dueTime.date, ⟨⟨23, 59, 59, 999999999⟩, Clock.isValid_last⟩⟩

/-- An upper bound by that time. -/
def dueMember : Member Tree where
  before := noSpace
  key := spelled ['l', 'e', 's', 's', 'T', 'h', 'a', 'n', 'O', 'r', 'E', 'q', 'u', 'a', 'l']
    rfl
  beforeColon := noSpace
  afterColon := oneSpace
  value := dueText
  after := noSpace

/-- The letter `l` as a code unit. -/
def letterL : CodeUnit where
  first := ⟨'0', 0, by decide⟩
  second := ⟨'0', 0, by decide⟩
  third := ⟨'6', 6, by decide⟩
  fourth := ⟨'c', 12, by decide⟩

/-- No pattern, with an escape in the key. -/
def likeMember : Member Tree where
  before := oneSpace
  key := .unit letterL :: spelled ['i', 'k', 'e'] rfl
  beforeColon := noSpace
  afterColon := noSpace
  value := .null
  after := oneSpace

def dueFirst : ObjectText := ⟨noSpace, oneSpace, [dueMember, likeMember], oneSpace⟩

def dueLast : ObjectText := ⟨noSpace, noSpace, [likeMember, dueMember], noSpace⟩

def dueAlone : ObjectText := ⟨noSpace, noSpace, [dueMember], noSpace⟩

def dueEntry : Entry := ⟨some (Condition.key .lessThanOrEqual), dueText⟩

/-- Digits that are given. -/
def numeral (ds : List Char) (h : ds ≠ [] ∧ ds.all Char.isDigit = true) : Digits :=
  ⟨ds, h.1, List.all_eq_true.mp h.2⟩

/-- The text of the operand, part by part. -/
def dueDateTime : DateTimeText where
  day :=
    { year := .plain .none (numeral ['2', '0', '1', '9'] (by decide)) (by decide)
      beforeMonth := .none
      month := ⟨.none, numeral ['1', '1'] (by decide), by decide⟩
      beforeDay := .none
      day := ⟨.none, numeral ['3'] (by decide), by decide⟩ }
  beforeClock := .none
  clock :=
    { hour := ⟨.none, numeral ['8'] (by decide), by decide⟩
      beforeMinute := .none
      minute := ⟨.none, numeral ['5'] (by decide), by decide⟩
      beforeSecond := .none
      second := ⟨.none, numeral ['0'] (by decide), by decide⟩
      fraction := none }
  after := .none

theorem dueText_denotes : Condition.Denotes .dateTime .lessThanOrEqual dueText dueTime :=
  ⟨dueDateTime, by decide, ⟨by decide, by decide, by decide, by decide⟩⟩

theorem dueAlone_acceptable : Filter.Acceptable .dateTime [dueEntry] := by
  have hcondition : ∀ c : Condition, dueEntry.key? = some c.key → c = .lessThanOrEqual :=
    fun c hc => (Filter.key_injective (Option.some.inj hc)).symm
  refine ⟨⟨?_, List.pairwise_singleton _ _, ?_⟩, ?_⟩
  · exact List.forall_mem_singleton.mpr ⟨.lessThanOrEqual, rfl⟩
  · refine List.forall_mem_singleton.mpr fun c hc _ => ?_
    rw [hcondition c hc]
    exact ⟨dueTime, dueText_denotes⟩
  · refine List.forall_mem_singleton.mpr fun c hc _ => ?_
    rw [hcondition c hc]
    decide

/-- The bound is read as the end of its day. Neither a pattern that is `null`
    nor the place of the bound makes a difference. -/
theorem ofJson?_object_due :
    dueFirst.text =
      "\x7b \"lessThanOrEqual\": \"2019-11-3T8:5:0\", \"\\u006cike\":null \x7d " ∧
    (∃ f, Filter.ofJson? .dateTime dueAlone.text = .ok f ∧
      f.operand? .lessThanOrEqual = some dueDayEnd) ∧
    (Filter.ofJson? .dateTime dueFirst.text).toOption =
      (Filter.ofJson? .dateTime dueAlone.text).toOption ∧
    (Filter.ofJson? .dateTime dueLast.text).toOption =
      (Filter.ofJson? .dateTime dueFirst.text).toOption := by
  rcases Filter.ofJson?_object .dateTime dueAlone with ⟨-, haccepted, hholds, -, hnull⟩
  rcases Filter.ofJson?_object .dateTime dueFirst with ⟨-, -, -, hperm, -⟩
  have hunsigned : Filter.Unsigned dueAlone.entries := List.forall_mem_singleton.mpr rfl
  rcases haccepted.mpr ⟨dueAlone_acceptable, hunsigned⟩ with ⟨f, hf⟩
  rcases (hholds f hf).present dueEntry List.mem_cons_self .lessThanOrEqual rfl nofun with
    ⟨v, hv, hoperand⟩
  rw [hv.unique dueText_denotes] at hoperand
  have hlike : ∀ e ∈ [dueEntry], e.key? ≠ some (Condition.key .like) :=
    List.forall_mem_singleton.mpr (by decide)
  exact ⟨rfl, ⟨f, hf, hoperand⟩, hnull dueFirst .like hlike (.swap _ _ _),
    hperm dueLast (.swap _ _ _)⟩

/-- Zero, with a sign in front. -/
def signedZero : Tree :=
  .number ⟨true, numeral ['0'] (by decide), fun _ => rfl, none, none⟩

/-- An object that asks for that number. -/
def signedZeroText : ObjectText where
  before := noSpace
  inner := noSpace
  members :=
    [{ before := noSpace
       key := spelled ['e', 'q', 'u', 'a', 'l', 's'] rfl
       beforeColon := noSpace
       afterColon := noSpace
       value := signedZero
       after := noSpace }]
  after := noSpace

/-- As it is written, the number is an integer in the range of the type. But to a
    reader it is a floating-point number. -/
theorem signed_zero_refused :
    signedZeroText.text = "\x7b\"equals\":-0\x7d" ∧
    Filter.Acceptable (.range .long) signedZeroText.entries ∧
    ¬ ∃ f, Filter.ofJson? (.range .long) signedZeroText.text = .ok f := by
  have hcondition : ∀ c : Condition, some (Condition.key .equals) = some c.key → c = .equals :=
    fun c hc => (Filter.key_injective (Option.some.inj hc)).symm
  refine ⟨rfl, ⟨⟨?_, List.pairwise_singleton _ _, ?_⟩, ?_⟩, ?_⟩
  · exact List.forall_mem_singleton.mpr ⟨.equals, rfl⟩
  · refine List.forall_mem_singleton.mpr fun c hc _ => ?_
    rw [hcondition c hc]
    exact ⟨⟨0, by decide, by decide⟩, rfl⟩
  · refine List.forall_mem_singleton.mpr fun c hc _ => ?_
    rw [hcondition c hc]
    decide
  · rintro ⟨f, hf⟩
    have hunsigned := (Filter.ofJson?_eq_some_iff.mp (toOption_eq_some_iff.mpr hf)).1.2
    exact Bool.noConfusion (hunsigned ⟨some "equals", signedZero⟩ List.mem_cons_self)

end RowSieve
