import RowSieve.Json.Reading
import RowSieve.Json.Writing

/-!
# Strings Read Back

A string is written character by character, and read back the same way: the
reader takes what stands for one character off the text and goes on. So the
two are inverse to each other as soon as they are for one character, in front
of any text.

Characters are written in three ways. A quote, a backslash and five of the
control characters have a short escape, the other control characters an escape
by code unit, and everything else stands for itself.

## Theorems

* `stringBody_escapeChar`: One character is read back, whatever follows it.
* `stringBody_escape`: So is a string, up to its closing quote.
-/

namespace RowSieve

namespace Json

/-- A short escape stands for its character. -/
theorem stringBody_short {c e : Char} (hu : c ≠ 'u') (he : escaped? c = some e)
    (more : List Char) :
    stringBody ('\\' :: c :: more) = (stringBody more).map fun r => (e :: r.1, r.2) := by
  rw [stringBody]
  · simp only [he]
    cases stringBody more <;> rfl
  · intro a b c d cs hc
    exact absurd hc hu
  · exact hu

/-- An escape by code unit stands for the character with that number, unless
    it is half of a pair. -/
theorem stringBody_unit {a b c d : Char} {n : Nat} (hquad : hexQuad? a b c d = some n)
    (hfirst : isFirstHalf n = false) (hsecond : isSecondHalf n = false) (more : List Char) :
    stringBody ('\\' :: 'u' :: a :: b :: c :: d :: more) =
      (stringBody more).map fun r => (Char.ofNat n :: r.1, r.2) := by
  rw [stringBody]
  simp only [hquad, hfirst, hsecond, Bool.false_eq_true, if_false]
  cases stringBody more <;> rfl

/-- Any other character stands for itself. -/
theorem stringBody_plain {c : Char} (hquote : c ≠ '"') (hslash : c ≠ '\\')
    (hcontrol : ¬ c.toNat < 0x20) (more : List Char) :
    stringBody (c :: more) = (stringBody more).map fun r => (c :: r.1, r.2) := by
  rw [stringBody]
  · rw [if_neg hcontrol]
    cases stringBody more <;> rfl
  -- None of the cases before this one is meant.
  · exact hquote
  · intro a b d e cs hc
    exact absurd hc hslash
  · intro cs hc
    exact absurd hc hslash
  · intro d cs hc
    exact absurd hc hslash
  · intro hc
    exact absurd hc hslash

/-- A control character is written with four digits, which denote it. -/
theorem hexQuad?_control : ∀ n < 32,
    (Nat.toDigits 16 n).leftpad 4 '0' = ['0', '0', (n / 16).digitChar, (n % 16).digitChar] ∧
      hexQuad? '0' '0' (n / 16).digitChar (n % 16).digitChar = some n := by
  decide

/-- One character is read back, whatever follows it. The cases are those of
    writing it. -/
theorem stringBody_escapeChar (c : Char) (more : List Char) :
    stringBody (escapeChar c ++ more) = (stringBody more).map fun r => (c :: r.1, r.2) := by
  unfold escapeChar
  split
  case h_8 hquote hslash _ _ _ _ _ =>
    -- No short escape is meant: a code unit, or the character itself.
    by_cases hcontrol : c.toNat < 0x20
    · rcases hexQuad?_control c.toNat hcontrol with ⟨hdigits, hquad⟩
      have hhalf : isFirstHalf c.toNat = false ∧ isSecondHalf c.toNat = false := by
        simp only [isFirstHalf, isSecondHalf, Bool.and_eq_false_iff, decide_eq_false_iff_not]
        omega
      have hchar : Char.ofNat c.toNat = c := Char.ofNat_toNat c
      rw [if_pos hcontrol, hdigits]
      have hread := stringBody_unit hquad hhalf.1 hhalf.2 more
      rw [hchar] at hread
      exact hread
    · rw [if_neg hcontrol]
      exact stringBody_plain hquote hslash hcontrol more
  all_goals exact stringBody_short (by decide) rfl more

/-- A string is read back up to its closing quote. -/
theorem stringBody_escape (cs rest : List Char) :
    stringBody (escape cs ++ '"' :: rest) = .ok (cs, rest) := by
  induction cs with
  | nil => rfl
  | cons c cs ih =>
      rw [escape, List.flatMap_cons, List.append_assoc, stringBody_escapeChar]
      rw [escape] at ih
      rw [ih]
      rfl

end Json

end RowSieve
