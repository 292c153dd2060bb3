import RowSieve.Predicate.Literal
import RowSieve.Proofs.Calendar.DayNumbers
import RowSieve.Proofs.Calendar.ReadBack
import RowSieve.Proofs.Text.Legible

/-!
# Literals Shown by Their Text

The text of a literal shows the literal. Its first characters tell the kind,
and from then on each kind ends in a way of its own: text and times at the
closing quote, integers where the digits stop. A date is written as a day of
the calendar where there is one and as a bare number elsewhere, and neither
form can be taken for the other, nor is a day of the calendar written for two
day numbers. Only date-times that no text denotes have a text that another one
has as well, so they are left out.

What follows a literal in a predicate is a closing parenthesis, a comma, a
blank or nothing, and none of these continues a number or doubles a quote.

## Main definitions

* `Literal.isPlain`: A date-time is one that some text denotes.
* `Literal.Ends`: What may follow a literal.
* `Literal.kindShown`: The kind of a literal, by its first characters.

## Theorems

* `DateTime.spacedText_cancel`: A date-time is shown by its text.
* `Literal.shown`: So is a literal.
-/

namespace RowSieve

namespace Calendar

/-- The text of a day of the calendar shows the day. It is read on both sides,
    and what is read is the same. -/
theorem Date.text_cancel {d e : Date} {r s : List Char} (hr : Decimal.NoDigitNext r)
    (hs : Decimal.NoDigitNext s) (h : d.text ++ r = e.text ++ s) : d = e ∧ r = s := by
  have hd := Reading.day_text d hr
  have he := Reading.day_text e hs
  rw [h, he, Except.ok.injEq, Prod.mk.injEq] at hd
  exact ⟨Date.ext hd.1.symm, hd.2.symm⟩

/-- The text of a time of day shows what it denotes. -/
theorem Time.text_cancel {t u : Time} {r s : List Char} (hr : Decimal.NoDigitNext r)
    (hrpoint : r.head? ≠ some '.') (hs : Decimal.NoDigitNext s) (hspoint : s.head? ≠ some '.')
    (h : t.text ++ r = u.text ++ s) : t.shown = u.shown ∧ r = s := by
  have ht := Reading.clock_text t hr hrpoint
  have hu := Reading.clock_text u hs hspoint
  rw [h, hu, Except.ok.injEq, Prod.mk.injEq] at ht
  exact ⟨by simp only [shown, ht.1], ht.2.symm⟩

/-- A readable date-time in quotes is shown by its text, a leap second
    included. -/
theorem DateTime.spacedText_cancel {t u : DateTime} (ht : t.IsReadable) (hu : u.IsReadable)
    {r s : List Char} (h : t.spacedText ++ '\'' :: r = u.spacedText ++ '\'' :: s) : t = u ∧ r = s := by
  have hmark : ∀ {c : Char} {cs : List Char}, c.isDigit = false → Decimal.NoDigitNext (c :: cs) :=
    fun hc => Decimal.noDigitNext_cons hc _
  rw [spacedText, spacedText, List.append_assoc, List.append_assoc, List.cons_append,
    List.cons_append] at h
  rcases Date.text_cancel (hmark (by decide)) (hmark (by decide)) h with ⟨hdate, hrest⟩
  have hpoint : ∀ {cs : List Char}, ('\'' :: cs).head? ≠ some '.' := fun h =>
    absurd (show '\'' = '.' from Option.some.inj h) (by decide)
  rcases Time.text_cancel (hmark (by decide)) hpoint (hmark (by decide)) hpoint
    (List.cons.inj hrest).2 with ⟨htime, hrest⟩
  refine ⟨?_, (List.cons.inj hrest).2⟩
  rw [← shown_eq_iff.mpr ht, ← shown_eq_iff.mpr hu, shown, shown, hdate, htime]

end Calendar

open Calendar

namespace Literal

/-- The literal is no date-time, or one that some text denotes. -/
def isPlain : Literal → Bool
  | .timestamp t => decide t.IsReadable
  | _ => true

/-- What may follow a literal. -/
def Ends (rest : List Char) : Prop := ∀ c ∈ rest.head?, c = ')' ∨ c = ',' ∨ c = ' '

theorem Ends.noDigitNext {rest : List Char} (h : Ends rest) : Decimal.NoDigitNext rest := by
  intro c hc
  rcases h c hc with hc | hc | hc <;> rw [hc] <;> decide

theorem Ends.noQuoteNext {rest : List Char} (h : Ends rest) :
    Text.NotNext (· == '\'') rest := by
  intro c hc
  rcases h c hc with hc | hc | hc <;> rw [hc] <;> decide

/-- The kind of a literal, by the first characters of its text. -/
def kindShown : List Char → String
  | '\'' :: _ => "string"
  | 'D' :: _ => "date"
  | 'T' :: 'I' :: _ => "timestamp"
  | 'T' :: _ => "boolean"
  | 'F' :: _ => "boolean"
  | _ => "integer"

theorem kindShown_integer (n : Int) (rest : List Char) :
    kindShown (Decimal.signed n ++ rest) = "integer" := by
  -- Neither the sign nor a digit is the first character of another kind.
  rw [kindShown]
  · exact fun _ => Decimal.signed_ne_cons (by decide) (by decide)
  · exact fun _ => Decimal.signed_ne_cons (by decide) (by decide)
  · exact fun _ => Decimal.signed_ne_cons (by decide) (by decide)
  · exact fun _ => Decimal.signed_ne_cons (by decide) (by decide)
  · exact fun _ => Decimal.signed_ne_cons (by decide) (by decide)

theorem spelling_date {day : Signed32} {d : Date} (h : Date.ofDayNumber? day.val = some d) :
    (date day).spelling = "DATE ".toList ++ '\'' :: (d.text ++ ['\'']) := by
  unfold spelling
  simp only [h]
  rfl

theorem spelling_day {day : Signed32} (h : Date.ofDayNumber? day.val = none) :
    (date day).spelling = "DATE ".toList ++ Decimal.signed day.val := by
  unfold spelling
  simp only [h]

theorem spelling_timestamp (t : DateTime) :
    (timestamp t).spelling = "TIMESTAMP '".toList ++ t.spacedText ++ ['\''] := rfl

theorem kindShown_spelling (l : Literal) (rest : List Char) :
    kindShown (l.spelling ++ rest) = l.kind := by
  cases l with
  | boolean b => cases b <;> rfl
  | integer n => exact kindShown_integer n.val rest
  | string s => rfl
  | date day =>
      cases hd : Date.ofDayNumber? day.val with
      | none =>
          rw [spelling_day hd]
          rfl
      | some d =>
          rw [spelling_date hd]
          rfl
  | timestamp t => rfl

/-- No literal is taken for a closing parenthesis. -/
theorem spelling_ne_parenthesis (l : Literal) (r s : List Char) : ')' :: r ≠ l.spelling ++ s := by
  cases l with
  | boolean b => cases b <;> exact fun h => absurd (List.cons.inj h).1 (by decide)
  | integer n => exact (Decimal.signed_ne_cons (by decide) (by decide)).symm
  | string t => exact fun h => absurd (List.cons.inj h).1 (by decide)
  | date day =>
      intro h
      cases hd : Date.ofDayNumber? day.val with
      | none =>
          rw [spelling_day hd] at h
          exact absurd (List.cons.inj h).1 (by decide)
      | some d =>
          rw [spelling_date hd] at h
          exact absurd (List.cons.inj h).1 (by decide)
  | timestamp t => exact fun h => absurd (List.cons.inj h).1 (by decide)

/-- Of two days with one text both are in the calendar or neither is, and the
    calendar has no two numbers for one day. -/
theorem date_cancel {m n : Signed32} {r s : List Char} (hr : Ends r) (hs : Ends s)
    (h : (date m).spelling ++ r = (date n).spelling ++ s) : m = n ∧ r = s := by
  -- A bare number does not start with a quote.
  have hquote : ∀ (k : Int) {r s : List Char}, Decimal.signed k ++ r ≠ '\'' :: s := fun _ _ _ =>
    Decimal.signed_ne_cons (by decide) (by decide)
  rcases hd : Date.ofDayNumber? m.val with _ | d <;> rcases he : Date.ofDayNumber? n.val with _ | e
  · rw [spelling_day hd, spelling_day he, List.append_assoc, List.append_assoc,
      List.append_cancel_left_eq] at h
    rcases Decimal.signed_cancel hr.noDigitNext hs.noDigitNext h with ⟨hmn, hrest⟩
    exact ⟨Bounded.ext hmn, hrest⟩
  · rw [spelling_day hd, spelling_date he, List.append_assoc, List.append_assoc,
      List.append_cancel_left_eq] at h
    exact absurd h (hquote m.val)
  · rw [spelling_date hd, spelling_day he, List.append_assoc, List.append_assoc,
      List.append_cancel_left_eq] at h
    exact absurd h.symm (hquote n.val)
  · simp only [spelling_date hd, spelling_date he, List.append_assoc, List.append_cancel_left_eq,
      List.cons_append, List.cons.injEq, true_and] at h
    rcases Date.text_cancel (Decimal.noDigitNext_cons (by decide) _)
      (Decimal.noDigitNext_cons (by decide) _) h with ⟨hdate, hrest⟩
    refine ⟨Bounded.ext ?_, (List.cons.inj hrest).2⟩
    rw [← Date.ofDayNumber?_eq_some_iff.mp hd, hdate, Date.ofDayNumber?_eq_some_iff.mp he]

/-- The text of a literal shows the literal in front of anything that may
    follow one. -/
theorem shown {l : Literal} (hl : l.isPlain = true) :
    Text.Shows spelling (fun m => m.isPlain = true) Ends l := by
  intro m r s hm hr hs h
  have hkind : l.kind = m.kind := by rw [← kindShown_spelling l r, h, kindShown_spelling]
  cases l with
  | boolean b =>
      cases m with
      | boolean b' =>
          cases b <;> cases b'
          · exact ⟨rfl, List.append_cancel_left h⟩
          · exact absurd (List.cons.inj h).1 (by decide)
          · exact absurd (List.cons.inj h).1 (by decide)
          · exact ⟨rfl, List.append_cancel_left h⟩
      | _ => simp only [kind, String.reduceEq] at hkind
  | integer n =>
      cases m with
      | integer n' =>
          rcases Decimal.signed_cancel hr.noDigitNext hs.noDigitNext h with ⟨hval, hrest⟩
          exact ⟨by rw [Bounded.ext hval], hrest⟩
      | _ => simp only [kind, String.reduceEq] at hkind
  | string t =>
      cases m with
      | string u =>
          rcases Text.Quoted.enclose_cancel hr.noQuoteNext hs.noQuoteNext h with ⟨htext, hrest⟩
          exact ⟨by rw [String.toList_inj.mp htext], hrest⟩
      | _ => simp only [kind, String.reduceEq] at hkind
  | date day =>
      cases m with
      | date day' =>
          rcases date_cancel hr hs h with ⟨hday, hrest⟩
          exact ⟨by rw [hday], hrest⟩
      | _ => simp only [kind, String.reduceEq] at hkind
  | timestamp t =>
      cases m with
      | timestamp u =>
          simp only [spelling_timestamp, List.append_assoc, List.append_cancel_left_eq,
            List.singleton_append] at h
          rcases DateTime.spacedText_cancel (of_decide_eq_true hl) (of_decide_eq_true hm) h with
            ⟨htime, hrest⟩
          exact ⟨by rw [htime], hrest⟩
      | _ => simp only [kind, String.reduceEq] at hkind

end Literal

end RowSieve
