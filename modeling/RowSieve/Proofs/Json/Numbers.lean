import RowSieve.Json.Reading
import RowSieve.Proofs.Number.Digits

/-!
# Integers Read Back

An integer is written as its digits, with a minus sign in front if need be.
Read as a number it is the same integer as long as 64 bits can gather it: up
to the greatest number without a sign, and down to the least one with a sign.
Beyond that the reader turns to floating-point numbers.

A number ends where its digits end only if no point and no exponent follows.
After a value of a larger text there is a comma, a closing bracket or nothing,
which is what `Delimited` says. Texts that were written by others may have
white space there, which `Ends` allows as well.

## Main definitions

* `Delimited`: What may follow a value in a text that is written here.
* `Ends`: What may follow a value in any text.

## Theorems

* `gather_eq`: Digits of a number that fits are gathered without loss.
* `unsigned_append`: A number of digits only ends with its digits.
* `numeral_signed`: An integer is read back.
-/

namespace RowSieve

namespace Json

/-- What may follow a value in a larger text: a comma, a closing bracket or
    nothing. -/
def Delimited (rest : List Char) : Prop := ∀ c ∈ rest.head?, c = ',' ∨ c = ']' ∨ c = '}'

theorem delimited_nil : Delimited [] := by
  intro c hc
  simp only [List.head?_nil, Option.mem_def, reduceCtorEq] at hc

theorem delimited_cons {c : Char} (hc : c = ',' ∨ c = ']' ∨ c = '}') (rest : List Char) :
    Delimited (c :: rest) := by
  intro d hd
  simp only [List.head?_cons, Option.mem_def, Option.some.injEq] at hd
  rw [← hd]
  exact hc

/-- Appending digits to a number never makes it smaller. -/
theorem le_ofDigitChars (n : Nat) (ds : List Char) : n ≤ Nat.ofDigitChars 10 ds n := by
  induction ds generalizing n with
  | nil => exact Nat.le_refl n
  | cons d ds ih =>
      rw [Nat.ofDigitChars_cons]
      have hmore := ih (10 * n + (d.toNat - '0'.toNat))
      omega

/-- Digits of a number that fits are gathered without loss. Every number on
    the way is at most the last one, so it fits as well. -/
theorem gather_eq (n : Nat) (ds : List Char) (h : Nat.ofDigitChars 10 ds n ≤ gatherLimit) :
    gather n ds = (Nat.ofDigitChars 10 ds n, 0) := by
  induction ds generalizing n with
  | nil => rfl
  | cons d ds ih =>
      rw [Nat.ofDigitChars_cons] at h ⊢
      have hdigit : n * 10 + Decimal.value [d] = 10 * n + (d.toNat - '0'.toNat) := by
        rw [Decimal.value, Nat.ofDigitChars_cons, Nat.ofDigitChars_nil]
        omega
      -- The next number is below the last one, which fits.
      have hnext := le_ofDigitChars (10 * n + (d.toNat - '0'.toNat)) ds
      rw [gather, hdigit, if_pos (Nat.le_trans hnext h)]
      exact ih _ h

/-- What may follow a value where white space is allowed: what may follow it
    anyway, or space. -/
def Ends (rest : List Char) : Prop :=
  ∀ c ∈ rest.head?, c = ',' ∨ c = ']' ∨ c = '}' ∨ isSpace c = true

theorem Delimited.ends {rest : List Char} (h : Delimited rest) : Ends rest := by
  intro c hc
  rcases h c hc with h | h | h
  · exact .inl h
  · exact .inr (.inl h)
  · exact .inr (.inr (.inl h))

theorem ne_of_isSpace {c d : Char} (hc : isSpace c = true) (hd : isSpace d = false) : c ≠ d := by
  intro h
  rw [h, hd] at hc
  exact Bool.false_ne_true hc

/-- A character that could go on with a number is not what follows a value. -/
theorem Ends.head_ne {c : Char} {rest : List Char} (h : Ends (c :: rest)) {d : Char}
    (hd : d ≠ ',' ∧ d ≠ ']' ∧ d ≠ '}' ∧ isSpace d = false) : c ≠ d := by
  rcases h c (List.head?_cons ..) with hc | hc | hc | hc
  · exact hc ▸ hd.1.symm
  · exact hc ▸ hd.2.1.symm
  · exact hc ▸ hd.2.2.1.symm
  · exact ne_of_isSpace hc hd.2.2.2

theorem Ends.noDigitNext {rest : List Char} (h : Ends rest) : Decimal.NoDigitNext rest := by
  intro c hc
  rcases h c hc with rfl | rfl | rfl | hspace
  · decide
  · decide
  · decide
  · simp only [isSpace, Bool.or_eq_true, beq_iff_eq] at hspace
    rcases hspace with ((rfl | rfl) | rfl) | rfl <;> decide

/-- A run of digits is found again where it ends. -/
theorem digitsHere_append {ds rest : List Char} (hne : ds ≠ [])
    (hds : ∀ c ∈ ds, c.isDigit = true) (hrest : Decimal.NoDigitNext rest) :
    digitsHere (ds ++ rest) = .ok (ds, rest) := by
  rw [digitsHere, splitDigits, Decimal.takeWhile_append hds hrest,
    Decimal.dropWhile_append hds hrest]
  cases ds with
  | nil => exact absurd rfl hne
  | cons d ds => rfl

/-- A number of digits only ends with its digits: neither a point nor the
    letter of an exponent may follow. -/
theorem unsigned_append (negative : Bool) {ds rest : List Char} (hne : ds ≠ [])
    (hds : ∀ c ∈ ds, c.isDigit = true) (hzero : ds.head? = some '0' → ds.length = 1)
    (hrest : Ends rest) :
    unsigned negative (ds ++ rest) =
      (withoutPoint negative (gather 0 ds).1 (gather 0 ds).2).map fun x => (x, rest) := by
  have hleading : ¬ (ds.head? = some '0' ∧ 1 < ds.length) := by
    rintro ⟨hhead, hlength⟩
    have hone := hzero hhead
    omega
  rw [unsigned, digitsHere_append hne hds hrest.noDigitNext]
  simp only [bind, Except.bind, if_neg hleading]
  split
  · exact absurd rfl (hrest.head_ne (by decide))
  · have hexponent : (afterExponentLetter? rest).isSome = false := by
      unfold afterExponentLetter?
      split
      · exact absurd rfl (hrest.head_ne (by decide))
      · exact absurd rfl (hrest.head_ne (by decide))
      · rfl
    rw [hexponent, if_neg Bool.false_ne_true]
    rfl

/-- A number without a sign is read from the digits that are written. -/
theorem unsigned_digits (negative : Bool) {n : Nat} (hn : n ≤ gatherLimit) {rest : List Char}
    (hrest : Delimited rest) :
    unsigned negative (Decimal.digits n ++ rest) =
      (withoutPoint negative n 0).map fun x => (x, rest) := by
  have hgather : gather 0 (Decimal.digits n) = (n, 0) := by
    have hvalue : Nat.ofDigitChars 10 (Decimal.digits n) 0 = n := Decimal.value_digits n
    rw [gather_eq 0 _ (by omega), hvalue]
  -- There is no zero in front that another digit follows.
  have hzero : (Decimal.digits n).head? = some '0' → (Decimal.digits n).length = 1 := by
    intro hhead
    rw [Decimal.digits_head n hhead]
    decide
  rw [unsigned_append negative (Decimal.digits_ne_nil n)
    (fun c => Decimal.isDigit_of_mem_digits) hzero hrest.ends, hgather]

/-- An integer that 64 bits can gather is read back. -/
theorem numeral_signed {n : Int} (hlower : -9223372036854775808 ≤ n)
    (hupper : n ≤ 18446744073709551615) {rest : List Char} (hrest : Delimited rest) :
    numeral (Decimal.signed n ++ rest) = .ok (.integer n, rest) := by
  cases n with
  | ofNat n =>
      have hn : (n : Int) ≤ 18446744073709551615 := hupper
      rw [Decimal.signed, numeral, unsigned_digits false (by rw [gatherLimit]; omega) hrest]
      · rfl
      · -- The first of the digits is no minus sign.
        intro cs hcs
        exact absurd (Decimal.isDigit_of_append_eq_cons (Decimal.digits_ne_nil n)
          (fun c => Decimal.isDigit_of_mem_digits) hcs) (by decide)
  | negSucc n =>
      have hunsigned := unsigned_digits true (n := n + 1) (by rw [gatherLimit]; omega) hrest
      have hinteger : integerOf? true (n + 1) = some (.negSucc n) := by
        rw [integerOf?, if_pos rfl, if_pos (by omega)]
        rfl
      rw [Decimal.signed, List.cons_append, numeral, hunsigned, withoutPoint, if_pos rfl, hinteger]
      rfl

end Json

end RowSieve
