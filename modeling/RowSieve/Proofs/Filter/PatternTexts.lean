import RowSieve.Proofs.Calendar.Moments
import RowSieve.Proofs.Evaluation.Trichotomy
import RowSieve.Proofs.Filter.RoundTrip
import RowSieve.Proofs.Filter.TextSearch
import RowSieve.Proofs.Number.Digits

/-!
# Patterns for Values that Are Not Text

A pattern may be asked for with an operand that is a number, a truth value, a
date or a date-time. Its text is then held against the text form of the column,
and the two are written by different means. The operand is written from the
calendar. The column holds counts of days or of ticks, which are taken apart
only when they are shown. Whether a value finds itself depends on whether the
two agree, down to the sign of a year and the mark between date and time.

They do. A cell that is equal to the operand shows the text of the operand, and
more only where a fraction of a second follows, which the text of a date-time
leaves out. None of these texts has a wildcard in it, so that a pattern is found
exactly where its text is.

Leap seconds are excepted. A count has no leap second, and the one that a leap
second is equal to shows the second after it.

## Main definitions

* `Scalar.Suits`: The columns that hold the values of a type of operand.

## Theorems

* `Scalar.verbatim_patternText`: The texts of such operands have no wildcards.
* `Value.text?_of_equal`: A value that equals an operand shows its text.
* `Value.text?_of_textForm`: A value of such a column that can be shown has a
  text.
* `Batch.evaluate_like_value`: What a pattern finds in such a column.
-/

namespace RowSieve

open Calendar Text Pattern

section Verbatim

theorem verbatim_append {p q : List Char} (hp : Verbatim p) (hq : Verbatim q) :
    Verbatim (p ++ q) := by
  intro c hc
  rcases List.mem_append.mp hc with hc | hc
  · exact hp c hc
  · exact hq c hc

theorem verbatim_cons {c : Char} {p : List Char} (hc : c ≠ '%' ∧ c ≠ '_' ∧ c ≠ '\\')
    (hp : Verbatim p) : Verbatim (c :: p) :=
  List.forall_mem_cons.mpr ⟨hc, hp⟩

/-- A text that is given can be looked through. -/
theorem verbatim_of_all {p : List Char}
    (h : (p.all fun c => c ≠ '%' ∧ c ≠ '_' ∧ c ≠ '\\') = true) : Verbatim p :=
  fun c hc => of_decide_eq_true (List.all_eq_true.mp h c hc)

/-- No digit has a meaning of its own. -/
theorem verbatim_of_isDigit {p : List Char} (h : ∀ c ∈ p, c.isDigit = true) : Verbatim p := by
  intro c hc
  have hdigit := h c hc
  refine ⟨?_, ?_, ?_⟩ <;>
  · rintro rfl
    exact absurd hdigit (by decide)

theorem verbatim_padded (width n : Nat) : Verbatim (Decimal.padded width n) :=
  verbatim_of_isDigit fun _ => Decimal.isDigit_of_mem_padded

theorem verbatim_signed (n : Int) : Verbatim (Decimal.signed n) := by
  cases n with
  | ofNat n => exact verbatim_of_isDigit fun _ => Decimal.isDigit_of_mem_digits
  | negSucc n =>
      exact verbatim_cons (by decide)
        (verbatim_of_isDigit fun _ => Decimal.isDigit_of_mem_digits)

theorem verbatim_yearText (year : Int) : Verbatim (yearText year) := by
  unfold yearText
  split
  · exact verbatim_padded 4 _
  · split <;> exact verbatim_cons (by decide) (verbatim_padded 4 _)

/-- Three parts with a mark between them, as days and clock readings have. -/
theorem verbatim_parts {mark : Char} {p q r : List Char}
    (hmark : mark ≠ '%' ∧ mark ≠ '_' ∧ mark ≠ '\\') (hp : Verbatim p) (hq : Verbatim q)
    (hr : Verbatim r) : Verbatim (p ++ mark :: q ++ mark :: r) :=
  verbatim_append (verbatim_append hp (verbatim_cons hmark hq)) (verbatim_cons hmark hr)

theorem verbatim_dayText (d : Day) : Verbatim d.text :=
  verbatim_parts (by decide) (verbatim_yearText d.year) (verbatim_padded 2 _)
    (verbatim_padded 2 _)

theorem verbatim_wholeText (c : Clock) : Verbatim c.wholeText :=
  verbatim_parts (by decide) (verbatim_padded 2 _) (verbatim_padded 2 _) (verbatim_padded 2 _)

end Verbatim

/-- The columns that hold the values of a type of operand. Text is compared with
    columns of text, which patterns treat in their own way. -/
def Scalar.Suits : Scalar → ColumnType → Prop
  | .long, .integer _ => True
  | .integer, .integer _ => True
  | .boolean, .boolean => True
  | .date, .date32 => True
  | .dateTime, .timestamp _ none => True
  | _, _ => False

/-- The text of an operand that is not text has no wildcards. -/
theorem Scalar.verbatim_patternText {s : Scalar} (hs : s ≠ .string) (v : s.Value) :
    Verbatim (s.patternText v) := by
  cases s with
  | string => exact absurd rfl hs
  | long => exact verbatim_signed _
  | integer => exact verbatim_signed _
  | boolean =>
      cases v with
      | true => exact verbatim_of_all (p := "true".toList) (by decide)
      | false => exact verbatim_of_all (p := "false".toList) (by decide)
  | date => exact verbatim_dayText _
  | dateTime =>
      exact verbatim_append (verbatim_dayText _) (verbatim_cons (by decide) (verbatim_wholeText _))

theorem Scalar.Suits.ne_string {s : Scalar} {type : ColumnType} (h : s.Suits type) :
    s ≠ .string := by
  rintro rfl
  exact h

namespace Value

theorem text?_date32 (path : FieldPath) {day : Signed32} {d : Date} (h : d.dayNumber = day.val) :
    text? path ⟨.date32, day⟩ = some d.text := by
  simp only [text?, ColumnType.textForm, Date.ofDayNumber?_eq_some_iff.mpr h]
  rfl

theorem text?_instant (path : FieldPath) {unit : TimeUnit} {count : Signed64}
    (h : unit.supports count.val = true) :
    text? path ⟨.timestamp unit none, count⟩ = some (Moment.ofTicks unit 0 count.val).text := by
  simp only [text?, ColumnType.textForm, ColumnType.instantText, if_pos h, List.append_nil]
  rfl

/-- A value that equals an operand shows the text of the operand. -/
theorem text?_of_equal (path : FieldPath) {s : Scalar} {v : s.Value} {value : Value}
    (hsuits : s.Suits value.type)
    (hordinary : ∀ t, s.literal v = .timestamp t → t.time.shownSecond ≠ 60)
    (hequal : value.order? (s.literal v) = some .eq) :
    ∃ text, value.text? path = some text ∧ s.patternText v <:+: text := by
  rcases value with ⟨type, cell⟩
  -- An integer is written alike wherever it comes from.
  have hinteger : ∀ {n : Signed64} {type : IntegerType} {cell : (ColumnType.integer type).Cell},
      order? ⟨.integer type, cell⟩ (.integer n) = some .eq →
      text? path ⟨.integer type, cell⟩ = some (Decimal.signed n.val) := by
    intro n type cell h
    rw [order?_integer, Option.map_eq_some_iff] at h
    rcases h with ⟨m, hm, hcompare⟩
    rw [← Std.LawfulEqOrd.eq_of_compare hcompare, Bounded.ofInt?_eq_some_iff.mp hm]
    rfl
  cases s with
  | string => exact absurd rfl hsuits.ne_string
  | long | integer =>
      cases type with
      | integer type => exact ⟨_, hinteger hequal, List.infix_rfl⟩
      | _ => exact hsuits.elim
  | boolean =>
      cases type with
      | boolean =>
          rw [Scalar.literal, order?_boolean, Option.map_eq_some_iff] at hequal
          rcases hequal with ⟨b, hb, hcompare⟩
          have hsame : b = v := Std.LawfulEqOrd.eq_of_compare hcompare
          have hcell : cell = b := Option.some.inj hb
          rw [hcell, hsame]
          exact ⟨_, rfl, List.infix_rfl⟩
      | _ => exact hsuits.elim
  | date =>
      cases type with
      | date32 =>
          rw [Scalar.literal, Literal.ofDate, order?_date, Option.map_eq_some_iff] at hequal
          rcases hequal with ⟨day, hday, hcompare⟩
          have hcell : cell = day := Option.some.inj hday
          have hnumber : v.dayNumber = day.val := by
            rw [Std.LawfulEqOrd.eq_of_compare hcompare, Date.val_wrap_dayNumber]
          rw [hcell]
          exact ⟨_, text?_date32 path hnumber, List.infix_rfl⟩
      | _ => exact hsuits.elim
  | dateTime =>
      rcases type with _ | _ | _ | _ | _ | _ | _ | _ | _ | ⟨unit, _ | zone⟩ | _
      case timestamp.none =>
        have ht : v.time.shownSecond ≠ 60 := hordinary v rfl
        rw [Scalar.literal] at hequal
        rcases order?_timestamp ⟨.timestamp unit none, cell⟩ v with hnone | horder
        · rw [hnone] at hequal
          cases hequal
        · rw [horder] at hequal
          have hnanos : Bounded.val cell * unit.nanos = v.unixNano :=
            Int.compare_eq_eq.mp (Option.some.inj hequal)
          have hsupported : unit.supports (Bounded.val cell) = true :=
            TimeUnit.supports_of_unixNano ht hnanos
          exact ⟨_, text?_instant path hsupported, (Moment.wholeText_prefix ht hnanos).isInfix⟩
      all_goals exact hsuits.elim

/-- A value of a column that suits an operand has a text, if it can be shown at
    all: only a day outside the calendar cannot. -/
theorem text?_of_textForm (path : FieldPath) {s : Scalar} {value : Value}
    (hsuits : s.Suits value.type)
    {form : value.type.Cell → Except EvaluationError (Option (List Char))}
    (hform : value.type.textForm path = .ok form) {shown : Option (List Char)}
    (hshown : form value.cell = .ok shown) : ∃ text, value.text? path = some text := by
  have htext : value.text? path = shown := by
    rw [text?, hform]
    simp only [hshown, Except.toOption, Option.join_some]
  rw [htext]
  rcases value with ⟨type, cell⟩
  cases s with
  | string => exact absurd rfl hsuits.ne_string
  | long | integer =>
      cases type with
      | integer type =>
          cases hform
          exact ⟨_, (Except.ok.inj hshown).symm⟩
      | _ => exact hsuits.elim
  | boolean =>
      cases type with
      | boolean =>
          cases hform
          exact ⟨_, (Except.ok.inj hshown).symm⟩
      | _ => exact hsuits.elim
  | date =>
      cases type with
      | date32 =>
          cases hform
          simp only at hshown
          split at hshown
          · exact ⟨_, (Except.ok.inj hshown).symm⟩
          · cases hshown
      | _ => exact hsuits.elim
  | dateTime =>
      rcases type with _ | _ | _ | _ | _ | _ | _ | _ | _ | ⟨unit, _ | zone⟩ | _
      case timestamp.none =>
        cases hform
        simp only [ColumnType.instantText] at hshown
        split at hshown
        · exact ⟨_, (Except.ok.inj hshown).symm⟩
        · cases hshown
      all_goals exact hsuits.elim

end Value

namespace Batch

variable {b : Batch} {path : FieldPath} {place : Place b.schema} {n : Mask}

/-- Where a pattern has a mask, every cell that is there can be shown. -/
theorem textForm_of_evaluate_like {pattern : String} (h : b.evaluate (.like path pattern) = .ok n)
    {row : Row b.schema} (hrow : row ∈ b.rows) {value : Value} (hat : row.at? path = some value) :
    ∃ form, value.type.textForm path = .ok form ∧ ∃ shown, form value.cell = .ok shown := by
  rw [evaluate, bind_eq_ok] at h
  rcases h with ⟨c, hc, h⟩
  rcases bind_eq_ok.mp h with ⟨texts, htexts, -⟩
  rcases column_eq_ok hc with ⟨place, hplace, rfl⟩
  rw [Row.at?_of_place hplace, Option.map_eq_some_iff] at hat
  rcases hat with ⟨cell, hcell, rfl⟩
  rcases bind_eq_ok.mp htexts with ⟨form, hform, hcells⟩
  have hmember : some cell ∈ b.rows.map place.read := List.mem_map.mpr ⟨row, hrow, hcell⟩
  rcases (mapM_succeeds _).mp ⟨texts, hcells⟩ (some cell) hmember with ⟨shown, hshown⟩
  exact ⟨form, hform, shown, hshown⟩

/-- A pattern for a value is found in a column that holds such values exactly
    where the text of the value is a part of the text that is shown. A cell that
    is equal to the value is one of those, leap seconds aside. -/
theorem evaluate_like_value (hplace : b.schema.place path = .ok place) {kind : Filter.Kind}
    {v : kind.scalar.Value} {f : Filter kind} (hf : f.HasOnly .like v)
    (hsuits : kind.scalar.Suits place.type) (hlike : b.evaluate (f.predicate path) = .ok n) :
    n.length = b.size ∧
    (∀ m, b.evaluate (.compare .equal path (kind.scalar.literal v)) = .ok m →
      (∀ t, kind.scalar.literal v = .timestamp t → t.time.shownSecond ≠ 60) →
      ∀ i : Nat, m[i]? = some .met → n[i]? = some .met) ∧
    ∀ (i : Nat) (row : Row b.schema), b.rows[i]? = some row →
      ∀ value, row.at? path = some value →
        ∃ text, row.text? path = some text ∧
          (n[i]? = some .met ↔ kind.scalar.patternText v <:+: text) := by
  rw [Filter.predicate_of_hasOnly hf rfl] at hlike
  have hverbatim := Scalar.verbatim_patternText hsuits.ne_string v
  -- Each slot is about the text that its own row shows, and nothing else.
  have hslot : ∀ (i : Nat) (row : Row b.schema), b.rows[i]? = some row →
      ∀ text, row.text? path = some text →
        (n[i]? = some .met ↔ kind.scalar.patternText v <:+: text) := by
    intro i row hrow text htext
    rw [evaluate_eq_ok hlike, List.getElem?_map, hrow, Option.map_some, Row.truth, htext,
      Option.map_some, String.toList_ofList, ← hverbatim.describes_anywhere]
    cases describes ('%' :: kind.scalar.patternText v ++ ['%']) text <;> decide
  have htype : ∀ (row : Row b.schema) value, row.at? path = some value →
      kind.scalar.Suits value.type := fun row value hat =>
    (Row.type_of_at? hplace hat).symm ▸ hsuits
  refine ⟨?_, fun m hm hordinary i hmet => ?_, fun i row hrow value hat => ?_⟩
  · rw [evaluate_eq_ok hlike]
    exact List.length_map _
  · -- An equal cell shows the text of the operand, so its row can be shown too.
    rw [evaluate_eq_ok hm, List.getElem?_map, Option.map_eq_some_iff] at hmet
    rcases hmet with ⟨row, hrow, hmet⟩
    rcases Comparison.verdict_eq_met_iff.mp hmet with ⟨o, ho, hequal⟩
    rcases Option.bind_eq_some_iff.mp ho with ⟨value, hat, horder⟩
    rw [beq_iff_eq.mp hequal] at horder
    rcases Value.text?_of_equal path (htype row value hat) hordinary horder with
      ⟨text, htext, hpart⟩
    have hshown : row.text? path = some text := by rw [Row.text?, hat, Option.bind_some, htext]
    exact (hslot i row hrow text hshown).mpr hpart
  · rcases textForm_of_evaluate_like hlike (List.mem_of_getElem? hrow) hat with
      ⟨form, hform, shown, hshown⟩
    rcases Value.text?_of_textForm path (htype row value hat) hform hshown with ⟨text, htext⟩
    have hrowText : row.text? path = some text := by
      rw [Row.text?, hat, Option.bind_some, htext]
    exact ⟨text, hrowText, hslot i row hrow text hrowText⟩

end Batch

/-- A second of July 1969. -/
def julySecond : DateTime :=
  ⟨⟨⟨1969, 7, 20⟩, by decide, by decide, by decide⟩, ⟨⟨20, 17, 40, 0⟩, by decide⟩⟩

/-- Instants in milliseconds: the beginning of that second, three quarters of it
    gone, the second after it, and none. -/
def aroundJulySecond : Batch where
  schema := .column "at" (.timestamp .millisecond none) .empty
  rows :=
    [(.present ⟨-14182940000, by decide, by decide⟩, ()),
     (.present ⟨-14182939250, by decide, by decide⟩, ()),
     (.present ⟨-14182939000, by decide, by decide⟩, ()), (.missing none, ())]

def duringJulySecond : Filter .dateTime :=
  Filter.empty.set .like Filter.Kind.dateTime_supports_bounds julySecond

/-- The whole second is found, and only its beginning is equal. -/
theorem evaluate_like_value_julySecond :
    aroundJulySecond.evaluate
        (.compare .equal (.field "at") (Scalar.literal .dateTime julySecond)) =
      .ok [.met, .failed, .failed, .unknown] ∧
    ∃ n, aroundJulySecond.evaluate (duringJulySecond.predicate (.field "at")) = .ok n ∧
      n.length = 4 ∧ n[0]? = some .met ∧
      (n[1]? = some .met ↔ "1969-07-20T20:17:40".toList <:+: "1969-07-20T20:17:40.750".toList) ∧
      (n[2]? = some .met ↔ "1969-07-20T20:17:40".toList <:+: "1969-07-20T20:17:41".toList) := by
  have hplace : aroundJulySecond.schema.place (.field "at") =
    .ok ⟨⟨.timestamp .millisecond none, Prod.fst⟩, fun _ => false⟩ := rfl
  have hequal : aroundJulySecond.evaluate
      (.compare .equal (.field "at") (Scalar.literal .dateTime julySecond)) =
    .ok [.met, .failed, .failed, .unknown] := rfl
  have hlike : aroundJulySecond.evaluate (duringJulySecond.predicate (.field "at")) =
    .ok [.met, .met, .failed, .unknown] := toOption_eq_some_iff.mp (by decide +kernel)
  have hoperand : Scalar.patternText .dateTime julySecond =
    "1969-07-20T20:17:40".toList := by decide +kernel
  have hordinary : ∀ t, Scalar.literal .dateTime julySecond = .timestamp t →
      t.time.shownSecond ≠ 60 := by
    intro t ht
    rw [← Literal.timestamp.inj ht]
    decide
  have honly : duringJulySecond.HasOnly .like julySecond := Filter.hasOnly_set ..
  rcases Batch.evaluate_like_value hplace honly trivial hlike with
    ⟨hlength, hfinds, hfound⟩
  refine ⟨hequal, _, hlike, hlength, hfinds _ hequal hordinary 0 rfl, ?_, ?_⟩
  · rcases hfound 1 _ rfl _ rfl with ⟨text, htext, hslot⟩
    have hshown : text = "1969-07-20T20:17:40.750".toList :=
      Option.some.inj (htext.symm.trans (by decide +kernel))
    rw [hslot, hshown, ← hoperand]
  · rcases hfound 2 _ rfl _ rfl with ⟨text, htext, hslot⟩
    have hshown : text = "1969-07-20T20:17:41".toList :=
      Option.some.inj (htext.symm.trans (by decide +kernel))
    rw [hslot, hshown, ← hoperand]

end RowSieve
