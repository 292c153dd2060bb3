import RowSieve.Proofs.Attempt
import RowSieve.Proofs.Json.Numbers
import RowSieve.Proofs.Json.Strings
import RowSieve.Proofs.Json.Tree

/-!
# Numbers and Strings as They are Written

What the two scanners make of a number and of a string in any spelling that is
allowed. `Numbers` and `Strings` say that what is written here is read back.
This module says what becomes of everything else.

A number is read as an integer exactly if it has neither fraction nor exponent
and 64 bits can gather its digits. In every other case it is floating point or
out of range, and which of the two it is does not matter to anyone who wanted
an integer. A string is decoded piece by piece. Decoding fails only on half a
surrogate pair, and then the scanner fails as well.

## Theorems

* `numeral_eq_integer_iff`: When a number is read as an integer.
* `stringBody_pieces`: What is read from the pieces of a string.
-/

namespace RowSieve

namespace Json

section Numbers

/-- Digits of a number that does not fit are left over. -/
theorem gather_snd_ne_zero {n : Nat} (hn : n ≤ gatherLimit) {ds : List Char}
    (h : gatherLimit < Nat.ofDigitChars 10 ds n) : (gather n ds).2 ≠ 0 := by
  induction ds generalizing n with
  | nil =>
      rw [Nat.ofDigitChars_nil] at h
      omega
  | cons d ds ih =>
      have hdigit : n * 10 + Decimal.value [d] = 10 * n + (d.toNat - '0'.toNat) := by
        rw [Decimal.value, Nat.ofDigitChars_cons, Nat.ofDigitChars_nil]
        omega
      rw [Nat.ofDigitChars_cons] at h
      rw [gather, hdigit]
      by_cases hnext : 10 * n + (d.toNat - '0'.toNat) ≤ gatherLimit
      · simp only [if_pos hnext]
        exact ih hnext h
      · simp only [if_neg hnext]
        exact Nat.succ_ne_zero _

theorem realOf_ne_integer {negative : Bool} {n : Nat} {e i : Int} :
    realOf negative n e ≠ .ok (.integer i) := by
  intro h
  rcases bind_eq_ok.mp h with ⟨x, -, hx⟩
  simp only [Except.ok.injEq, reduceCtorEq] at hx

/-- A number with a fraction or an exponent is floating point. -/
theorem withExponent_ne_integer {negative : Bool} {n : Nat} {e i : Int} {cs rest : List Char} :
    withExponent negative n e cs ≠ .ok (.integer i, rest) := by
  intro h
  unfold withExponent at h
  split at h
  · rcases bind_eq_ok.mp h with ⟨x, hx, hpair⟩
    rw [Except.ok.injEq, Prod.mk.injEq] at hpair
    rw [hpair.1] at hx
    exact realOf_ne_integer hx
  · rcases bind_eq_ok.mp h with ⟨⟨down, size, after⟩, -, hsize⟩
    simp only at hsize
    split at hsize
    · rcases bind_eq_ok.mp hsize with ⟨x, hx, hpair⟩
      rw [Except.ok.injEq, Prod.mk.injEq] at hpair
      rw [hpair.1] at hx
      exact realOf_ne_integer hx
    · split at hsize <;>
        simp only [Except.ok.injEq, Prod.mk.injEq, reduceCtorEq, false_and] at hsize

theorem withoutPoint_eq_integer_iff {negative : Bool} {n left : Nat} {i : Int} :
    withoutPoint negative n left = .ok (.integer i) ↔
      left = 0 ∧ integerOf? negative n = some i := by
  unfold withoutPoint
  by_cases hleft : left = 0
  · rw [if_pos hleft]
    cases integerOf? negative n with
    | none => simp only [realOf_ne_integer, reduceCtorEq, and_false]
    | some j => simp only [Except.ok.injEq, Numeral.integer.injEq, hleft, true_and,
        Option.some.injEq]
  · rw [if_neg hleft]
    simp only [realOf_ne_integer, hleft, false_and]

/-- A number with something behind its digits is no integer. The digits end
    where the point or the letter stands. -/
theorem unsigned_ne_integer {negative : Bool} (ds : Digits) {c : Char} {cs rest : List Char}
    {i : Int} (hc : c = '.' ∨ c = 'e' ∨ c = 'E') :
    unsigned negative (ds.chars ++ c :: cs) ≠ .ok (.integer i, rest) := by
  intro h
  have hdigit : Decimal.NoDigitNext (c :: cs) := by
    refine Decimal.noDigitNext_cons ?_ cs
    rcases hc with rfl | rfl | rfl <;> decide
  rw [unsigned, digitsHere_append ds.nonempty ds.digit hdigit] at h
  simp only [bind, Except.bind] at h
  split at h
  · simp only [reduceCtorEq] at h
  · rcases hc with rfl | hletter
    · -- A point: whatever follows it, an exponent may follow that.
      rcases bind_eq_ok.mp h with ⟨⟨fs, after⟩, -, hafter⟩
      exact withExponent_ne_integer hafter
    · have hsome : (afterExponentLetter? (c :: cs)).isSome = true := by
        rcases hletter with rfl | rfl <;> rfl
      split at h
      case h_1 heq =>
        rw [List.cons.injEq] at heq
        rcases hletter with rfl | rfl <;> exact absurd heq.1 (by decide)
      case h_2 =>
        rw [if_pos hsome] at h
        exact withExponent_ne_integer h

theorem numeral_text (n : NumberText) (rest : List Char) :
    numeral (n.text ++ rest) = unsigned n.negative (n.whole.chars ++ (n.tail ++ rest)) := by
  rw [NumberText.text]
  cases n.negative with
  | true => rw [if_pos rfl, List.append_assoc, List.append_assoc]; rfl
  | false =>
      rw [if_neg Bool.false_ne_true, List.nil_append, List.append_assoc, numeral]
      -- The first digit is no minus sign.
      intro cs hcs
      exact absurd (Decimal.isDigit_of_append_eq_cons n.whole.nonempty n.whole.digit hcs) (by decide)

/-- A number is read as an integer exactly if it denotes one that 64 bits can
    gather, and is no zero with a sign. -/
theorem numeral_eq_integer_iff (n : NumberText) {rest : List Char} (hrest : Ends rest) {i : Int}
    {after : List Char} :
    numeral (n.text ++ rest) = .ok (.integer i, after) ↔
      n.integer? = some i ∧ n.isSignedZero = false ∧ after = rest ∧
        -9223372036854775808 ≤ i ∧ i ≤ 18446744073709551615 := by
  rw [numeral_text, NumberText.tail, NumberText.isSignedZero, NumberText.integer?]
  cases hfraction : n.fraction with
  | some fs =>
      simp only [Option.map_some, Option.getD_some, List.cons_append, reduceCtorEq, false_and,
        iff_false]
      exact unsigned_ne_integer n.whole (.inl rfl)
  | none =>
      cases hexponent : n.exponent with
      | some e =>
          simp only [Option.map_none, Option.getD_none, Option.map_some, Option.getD_some,
            List.nil_append, ExponentText.text, List.cons_append, reduceCtorEq, false_and,
            iff_false]
          exact unsigned_ne_integer n.whole (.inr e.isLetter)
      | none =>
          simp only [Option.map_none, Option.getD_none, List.nil_append]
          rw [unsigned_append n.negative n.whole.nonempty n.whole.digit n.unpadded hrest]
          have hmap : (withoutPoint n.negative (gather 0 n.whole.chars).1
              (gather 0 n.whole.chars).2).map (fun x => (x, rest)) = .ok (.integer i, after) ↔
                withoutPoint n.negative (gather 0 n.whole.chars).1 (gather 0 n.whole.chars).2 =
                  .ok (.integer i) ∧ after = rest := by
            cases withoutPoint n.negative (gather 0 n.whole.chars).1
                (gather 0 n.whole.chars).2 with
            | error e => simp only [Except.map, reduceCtorEq, false_and]
            | ok x => simp only [Except.map, Except.ok.injEq, Prod.mk.injEq, eq_comm]
          rw [hmap, withoutPoint_eq_integer_iff]
          -- Digits are left over exactly if the number does not fit.
          by_cases hfits : n.whole.value ≤ gatherLimit
          · have hgather : gather 0 n.whole.chars = (n.whole.value, 0) := gather_eq 0 _ hfits
            rw [gatherLimit] at hfits
            rw [hgather, integerOf?]
            cases n.negative <;> grind
          · have hleft := gather_snd_ne_zero (Nat.zero_le gatherLimit) (Nat.lt_of_not_le hfits)
            rw [gatherLimit] at hfits
            cases n.negative <;> grind

end Numbers

section Strings

theorem escaped?_of_mem : ∀ p ∈ shortEscapes, escaped? p.1 = some p.2 ∧ p.1 ≠ 'u' := by
  decide

theorem hexValue?_of_mem : ∀ p ∈ hexDigits, hexValue? p.1 = some p.2 := by
  decide

/-- The reader finds the number of a code unit. -/
theorem hexQuad?_unit (u : CodeUnit) :
    hexQuad? u.first.char u.second.char u.third.char u.fourth.char = some u.value := by
  simp only [hexQuad?, hexValue?_of_mem _ u.first.listed, hexValue?_of_mem _ u.second.listed,
    hexValue?_of_mem _ u.third.listed, hexValue?_of_mem _ u.fourth.listed, bind, Option.bind_some]
  rfl

theorem isFirstHalf_eq (u : CodeUnit) : isFirstHalf u.value = decide u.IsFirstHalf :=
  (Bool.decide_and ..).symm

theorem isSecondHalf_eq (u : CodeUnit) : isSecondHalf u.value = decide u.IsSecondHalf :=
  (Bool.decide_and ..).symm

/-- Both halves of a pair stand for one character. -/
theorem stringBody_pair {u v : CodeUnit} (hfirst : u.IsFirstHalf) (hsecond : ¬u.IsSecondHalf)
    (more : List Char) :
    (stringBody ('\\' :: 'u' :: (u.chars ++ '\\' :: 'u' :: (v.chars ++ more)))).toOption =
      if v.IsSecondHalf then (stringBody more).toOption.map fun r =>
        (Char.ofNat (0x10000 + (u.value - 0xD800) * 0x400 + (v.value - 0xDC00)) :: r.1, r.2)
      else none := by
  simp only [CodeUnit.chars, List.cons_append, List.nil_append]
  rw [stringBody]
  simp only [hexQuad?_unit, isFirstHalf_eq, isSecondHalf_eq, hfirst, hsecond, decide_true,
    decide_false, Bool.false_eq_true, if_false, if_true]
  by_cases hpair : v.IsSecondHalf
  · simp only [hpair, decide_true, if_true]
    cases stringBody more <;> rfl
  · simp only [hpair, decide_false, Bool.false_eq_true, if_false]
    rfl

/-- The first half of a pair is read only if an escape by code unit follows. -/
theorem stringBody_firstHalf {u : CodeUnit} (hfirst : u.IsFirstHalf) (hsecond : ¬u.IsSecondHalf)
    {more : List Char} (hmore : ∀ cs, more ≠ '\\' :: 'u' :: cs) :
    (stringBody ('\\' :: 'u' :: (u.chars ++ more))).toOption = none := by
  simp only [CodeUnit.chars, List.cons_append, List.nil_append]
  rw [stringBody]
  simp only [hexQuad?_unit, isFirstHalf_eq, isSecondHalf_eq, hfirst, hsecond, decide_true,
    decide_false, Bool.false_eq_true, if_false, if_true]
  split
  · exact absurd rfl (hmore _)
  · rfl
  · rfl

theorem stringBody_secondHalf {u : CodeUnit} (hsecond : u.IsSecondHalf) (more : List Char) :
    (stringBody ('\\' :: 'u' :: (u.chars ++ more))).toOption = none := by
  simp only [CodeUnit.chars, List.cons_append, List.nil_append]
  rw [stringBody]
  simp only [hexQuad?_unit, isSecondHalf_eq, hsecond, decide_true, if_true]
  rfl

/-- A unit that is no half stands for the character with its number. -/
theorem stringBody_whole {u : CodeUnit} (hfirst : ¬u.IsFirstHalf) (hsecond : ¬u.IsSecondHalf)
    (more : List Char) :
    stringBody ('\\' :: 'u' :: (u.chars ++ more)) =
      (stringBody more).map fun r => (Char.ofNat u.value :: r.1, r.2) :=
  stringBody_unit (hexQuad?_unit u) ((isFirstHalf_eq u).trans (decide_eq_false hfirst))
    ((isSecondHalf_eq u).trans (decide_eq_false hsecond)) more

theorem StringPiece.body_cons (p : StringPiece) (pieces : List StringPiece) (rest : List Char) :
    body (p :: pieces) ++ rest = p.text ++ (body pieces ++ rest) := by
  simp only [body, List.flatMap_cons, List.append_assoc]

/-- Only an escape by code unit is written like one. -/
theorem StringPiece.body_ne_unit {pieces : List StringPiece}
    (h : ∀ u more, pieces ≠ .unit u :: more) (rest : List Char) :
    ∀ cs, body pieces ++ rest ≠ '\\' :: 'u' :: cs := by
  intro cs heq
  cases pieces with
  | nil => exact absurd (List.cons.inj heq).1 (by decide)
  | cons p pieces =>
      rw [body_cons] at heq
      cases p with
      | plain c hc => exact hc.2.1 (List.cons.inj heq).1
      | short c e hc =>
          exact (escaped?_of_mem (c, e) hc).2 (List.cons.inj (List.cons.inj heq).2).1
      | unit u => exact h u pieces rfl

/-- The reader of strings decodes the pieces one by one. The cases are those of
    decoding them. -/
theorem stringBody_pieces (pieces : List StringPiece) (rest : List Char) :
    (stringBody (StringPiece.body pieces ++ rest)).toOption =
      (StringPiece.decode pieces).map fun cs => (cs, rest) := by
  fun_induction StringPiece.decode pieces with
  | case1 => rfl
  | case2 c h pieces ih =>
      have hcontrol : ¬ c.toNat < 0x20 := Nat.not_lt.mpr h.2.2
      simp only [StringPiece.body_cons, StringPiece.text, List.cons_append, List.nil_append,
        stringBody_plain h.1 h.2.1 hcontrol, toOption_map, ih, Option.map_map]
      rfl
  | case3 c e h pieces ih =>
      have hescape := escaped?_of_mem (c, e) h
      simp only [StringPiece.body_cons, StringPiece.text, List.cons_append, List.nil_append,
        stringBody_short hescape.2 hescape.1, toOption_map, ih, Option.map_map]
      rfl
  -- An escape by code unit: a second half alone, a first half with what
  -- follows it, or neither.
  | case4 u pieces hsecond =>
      simp only [StringPiece.body_cons, StringPiece.text, List.cons_append,
        stringBody_secondHalf hsecond, Option.map_none]
  | case5 u hsecond hfirst v pieces hpair ih =>
      simp only [StringPiece.body_cons, StringPiece.text, List.cons_append,
        stringBody_pair hfirst hsecond, if_pos hpair, ih, Option.map_map]
      rfl
  | case6 u hsecond hfirst v pieces hpair =>
      simp only [StringPiece.body_cons, StringPiece.text, List.cons_append,
        stringBody_pair hfirst hsecond, if_neg hpair, Option.map_none]
  | case7 u pieces hsecond hfirst hnext =>
      have hmore : ∀ cs, StringPiece.body pieces ++ rest ≠ '\\' :: 'u' :: cs :=
        StringPiece.body_ne_unit hnext rest
      simp only [StringPiece.body_cons, StringPiece.text, List.cons_append,
        stringBody_firstHalf hfirst hsecond hmore, Option.map_none]
  | case8 u pieces hsecond hfirst ih =>
      simp only [StringPiece.body_cons, StringPiece.text, List.cons_append,
        stringBody_whole hfirst hsecond, toOption_map, ih, Option.map_map]
      rfl

end Strings

end Json

end RowSieve
