import RowSieve.Number.Decimal
import RowSieve.Proofs.Text.Legible

/-!
# Digits Read Back

What a reader has to know about the digits that are written: they are digits
and nothing else, they denote the number they were written for, and none of
them is a zero in front that could be left out. Padding adds such zeros, which
change the length but not the number.

A run of digits is found again in a longer text as long as no digit follows
it. `NoDigitNext` is that condition on what follows.

## Main definitions

* `Decimal.NoDigitNext`: A text does not start with a digit.

## Theorems

* `Decimal.value_digits`, `Decimal.value_padded`: Digits denote their number.
* `Decimal.digits_head`: Only zero is written with a zero in front.
* `Decimal.length_padded`: Numbers below a power of ten have the padded width.
* `Decimal.takeWhile_append`, `Decimal.dropWhile_append`: A run of digits is
  found again.
* `Decimal.signed_cancel`: So is an integer, with its sign.
-/

namespace RowSieve

namespace Decimal

theorem isDigit_of_mem_digits {n : Nat} {c : Char} (h : c ∈ digits n) : c.isDigit = true :=
  Nat.isDigit_of_mem_toDigits (by decide) (by decide) h

theorem digits_ne_nil (n : Nat) : digits n ≠ [] := Nat.toDigits_ne_nil

/-- The text of a number starts with a digit. -/
theorem digits_eq_cons (n : Nat) : ∃ d ds, digits n = d :: ds ∧ d.isDigit = true := by
  rcases hds : digits n with _ | ⟨d, ds⟩
  · exact absurd hds (digits_ne_nil n)
  · refine ⟨d, ds, rfl, isDigit_of_mem_digits (n := n) ?_⟩
    rw [hds]
    exact List.mem_cons_self

theorem value_digits (n : Nat) : value (digits n) = n := Nat.ofDigitChars_ten_toDigits

/-- Only zero is written with a zero in front. All digits but the last are
    those of a tenth of the number, so the recursion is on tenths. -/
theorem digits_head (n : Nat) (h : (digits n).head? = some '0') : n = 0 := by
  by_cases hn : n < 10
  · rw [digits, Nat.toDigits_of_lt_base hn, List.head?_cons, Option.some.injEq] at h
    exact Nat.digitChar_eq_zero.mp h
  · rw [digits, Nat.toDigits_of_base_le (by decide) (by omega), List.head?_append] at h
    rcases hds : (Nat.toDigits 10 (n / 10)).head? with _ | d
    · exact absurd (List.head?_eq_none_iff.mp hds) Nat.toDigits_ne_nil
    · rw [hds, Option.some_or] at h
      have htenth := digits_head (n / 10) (hds.trans h)
      omega
termination_by n

theorem isDigit_of_mem_padded {width n : Nat} {c : Char} (h : c ∈ padded width n) :
    c.isDigit = true := by
  rw [padded, List.leftpad] at h
  rcases List.mem_append.mp h with hzero | hdigit
  · rw [List.eq_of_mem_replicate hzero]
    decide
  · exact isDigit_of_mem_digits hdigit

theorem padded_ne_nil (width n : Nat) : padded width n ≠ [] := by
  rw [padded, List.leftpad]
  exact List.append_ne_nil_of_right_ne_nil _ (digits_ne_nil n)

/-- Zeros in front do not count. -/
theorem value_padded (width n : Nat) : value (padded width n) = n := by
  rw [padded, List.leftpad, value, Nat.ofDigitChars_append, Nat.ofDigitChars_replicate_zero,
    Nat.mul_zero]
  exact value_digits n

/-- A number below a power of ten has exactly the padded width. -/
theorem length_padded {width n : Nat} (hwidth : 0 < width) (hn : n < Nat.pow 10 width) :
    (padded width n).length = width := by
  -- The digits alone do not exceed the width, so the zeros make up for it.
  have hdigits : (digits n).length ≤ width := (Nat.length_toDigits_le_iff (by decide) hwidth).mpr hn
  rw [padded, List.length_leftpad]
  omega

/-- The text does not start with a digit. -/
def NoDigitNext (rest : List Char) : Prop := ∀ c ∈ rest.head?, c.isDigit = false

theorem noDigitNext_nil : NoDigitNext [] := by
  intro c hc
  simp only [List.head?_nil, Option.mem_def, reduceCtorEq] at hc

theorem noDigitNext_cons {c : Char} (hc : c.isDigit = false) (rest : List Char) :
    NoDigitNext (c :: rest) := by
  intro d hd
  simp only [List.head?_cons, Option.mem_def, Option.some.injEq] at hd
  rw [← hd, hc]

section Runs

variable {ds rest : List Char}

/-- A text that starts with a run of digits starts with a digit. -/
theorem isDigit_of_append_eq_cons (hne : ds ≠ []) (hds : ∀ c ∈ ds, c.isDigit = true) {c : Char}
    {cs : List Char} (h : ds ++ rest = c :: cs) : c.isDigit = true := by
  cases ds with
  | nil => exact absurd rfl hne
  | cons d ds =>
      rw [List.cons_append, List.cons.injEq] at h
      rw [← h.1]
      exact hds d List.mem_cons_self

/-- A run of digits is what a reader takes from a text that goes on with
    something else. -/
theorem takeWhile_append (hds : ∀ c ∈ ds, c.isDigit = true) (hrest : NoDigitNext rest) :
    (ds ++ rest).takeWhile Char.isDigit = ds := by
  rw [List.takeWhile_append_of_pos hds]
  cases rest with
  | nil => rw [List.takeWhile_nil, List.append_nil]
  | cons c rest =>
      rw [List.takeWhile_cons_of_neg, List.append_nil]
      rw [hrest c (List.head?_cons ..)]
      exact Bool.false_ne_true

/-- What it leaves is the rest of the text. -/
theorem dropWhile_append (hds : ∀ c ∈ ds, c.isDigit = true) (hrest : NoDigitNext rest) :
    (ds ++ rest).dropWhile Char.isDigit = rest := by
  rw [List.dropWhile_append_of_pos hds]
  cases rest with
  | nil => rfl
  | cons c rest =>
      rw [List.dropWhile_cons_of_neg]
      rw [hrest c (List.head?_cons ..)]
      exact Bool.false_ne_true

end Runs

/-- The text of an integer starts with its sign or a digit. -/
theorem signed_eq_cons (n : Int) : ∃ c cs, signed n = c :: cs ∧ (c = '-' ∨ c.isDigit = true) := by
  cases n with
  | ofNat n =>
      rcases digits_eq_cons n with ⟨d, ds, hds, hd⟩
      exact ⟨d, ds, hds, .inr hd⟩
  | negSucc n => exact ⟨'-', _, rfl, .inl rfl⟩

/-- So it does not start with any other character, whatever follows it. -/
theorem signed_ne_cons {n : Int} {c : Char} {r s : List Char} (hsign : c ≠ '-')
    (hdigit : c.isDigit = false) : signed n ++ r ≠ c :: s := by
  intro h
  rcases signed_eq_cons n with ⟨d, cs, hsigned, hd⟩
  rw [hsigned, List.cons_append, List.cons.injEq] at h
  rw [h.1, hdigit] at hd
  rcases hd with hd | hd
  · exact hsign hd
  · exact Bool.noConfusion hd

theorem digits_cancel {m n : Nat} {r s : List Char} (hr : NoDigitNext r) (hs : NoDigitNext s)
    (h : digits m ++ r = digits n ++ s) : m = n ∧ r = s := by
  rcases Text.run_cancel (fun c => isDigit_of_mem_digits) (fun c => isDigit_of_mem_digits) hr hs h
    with ⟨hdigits, hrest⟩
  refine ⟨?_, hrest⟩
  rw [← value_digits m, hdigits, value_digits]

/-- An integer is found again in front of a text that does not start with a
    digit. -/
theorem signed_cancel {m n : Int} {r s : List Char} (hr : NoDigitNext r) (hs : NoDigitNext s)
    (h : signed m ++ r = signed n ++ s) : m = n ∧ r = s := by
  -- No digits start with a sign.
  have hsign : ∀ (n : Nat) {r s : List Char}, digits n ++ r ≠ '-' :: s := fun n r s h =>
    absurd (isDigit_of_append_eq_cons (digits_ne_nil n) (fun c => isDigit_of_mem_digits) h)
      (by decide)
  cases m with
  | ofNat m =>
      cases n with
      | ofNat n =>
          rcases digits_cancel hr hs h with ⟨hnumber, hrest⟩
          exact ⟨by rw [hnumber], hrest⟩
      | negSucc n => exact absurd h (hsign m)
  | negSucc m =>
      cases n with
      | ofNat n => exact absurd h.symm (hsign n)
      | negSucc n =>
          rcases digits_cancel hr hs (List.cons.inj h).2 with ⟨hnumber, hrest⟩
          exact ⟨by rw [Nat.succ.inj hnumber], hrest⟩

end Decimal

end RowSieve
