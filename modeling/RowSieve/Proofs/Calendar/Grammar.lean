import RowSieve.Calendar.Reading
import RowSieve.Proofs.Attempt
import RowSieve.Proofs.Calendar.DayNumbers
import RowSieve.Proofs.Json.Tree
import RowSieve.Proofs.Number.Digits

/-!
# The Texts of Dates

Which texts are dates and date-times, and of which. They are described here as
they are made: numbers and marks in a fixed order, with white space before each
of them and behind the last. A year has up to four digits, or a sign and any
number of them, and every other number has one or two. A second may have a
fraction, of which nine digits count. Second 60 is the second after second 59
of the same minute.

White space is listed by code points, and the description leaves nothing to a
reader. It asks for no limits on the numbers. It says of a text and a date
whether the text denotes the date, and a date exists only if its month and its
day do.

A reader takes as many digits as it may. That could be too many, where the text
is a date only if a run of digits is cut short. It is not, since after every
number there is a mark, white space or the end. So the reader finds the one way
in which a text can be made, and returns what the text denotes.

## Main definitions

* `Blanks`, `YearText`, `SmallText`: The parts of a date.
* `DateText`, `DateText.Denotes`: The texts of dates.
* `DateTimeText`, `DateTimeText.Denotes`: The texts of date-times.

## Theorems

* `Reading.smallNumber_sound`, `Reading.smallNumber_complete`: One number, from
  its text and back. The other parts have such lemmas too.
* `Date.read_eq_ok_iff`: What is read as a date is what denotes it.
* `DateTime.read_eq_ok_iff`: The same for date-times.
-/

namespace RowSieve

namespace Calendar

open Json (Digits)

/-- The code points of white space. -/
def whiteSpace : List Nat :=
  [0x9, 0xA, 0xB, 0xC, 0xD, 0x20, 0x85, 0xA0, 0x1680, 0x2000, 0x2001, 0x2002, 0x2003, 0x2004,
   0x2005, 0x2006, 0x2007, 0x2008, 0x2009, 0x200A, 0x2028, 0x2029, 0x202F, 0x205F, 0x3000]

/-- White space, or nothing. -/
structure Blanks where
  chars : List Char
  blank : ∀ c ∈ chars, c.toNat ∈ whiteSpace

/-- A year, behind white space. -/
inductive YearText where
  | plain (before : Blanks) (digits : Digits) (short : digits.chars.length ≤ 4)
  | signed (before : Blanks) (negative : Bool) (digits : Digits)

/-- A number of one or two digits, behind white space. -/
structure SmallText where
  before : Blanks
  digits : Digits
  short : digits.chars.length ≤ 2

/-- A day, with white space before each mark. -/
structure DayText where
  year : YearText
  beforeMonth : Blanks
  month : SmallText
  beforeDay : Blanks
  day : SmallText

/-- A reading of the clock, in the same way. A fraction follows its second
    without white space. -/
structure ClockText where
  hour : SmallText
  beforeMinute : Blanks
  minute : SmallText
  beforeSecond : Blanks
  second : SmallText
  fraction : Option Digits

/-- A text of a date. -/
structure DateText where
  day : DayText
  after : Blanks

/-- A text of a date-time. -/
structure DateTimeText where
  day : DayText
  beforeClock : Blanks
  clock : ClockText
  after : Blanks

namespace YearText

def text : YearText → List Char
  | plain before digits _ => before.chars ++ digits.chars
  | signed before negative digits =>
    before.chars ++ (if negative then '-' else '+') :: digits.chars

def value : YearText → Int
  | plain _ digits _ => digits.value
  | signed _ negative digits => if negative then -(digits.value : Int) else digits.value

end YearText

namespace SmallText

def text (t : SmallText) : List Char := t.before.chars ++ t.digits.chars

def value (t : SmallText) : Nat := t.digits.value

end SmallText

namespace DayText

def text (t : DayText) : List Char :=
  t.year.text ++ (t.beforeMonth.chars ++ '-' :: (t.month.text ++
    (t.beforeDay.chars ++ '-' :: t.day.text)))

def value (t : DayText) : Day := ⟨t.year.value, t.month.value, t.day.value⟩

end DayText

namespace FractionText

/-- A fraction with its point, or nothing. -/
def text : Option Digits → List Char
  | some digits => '.' :: digits.chars
  | none => []

/-- The nanoseconds of a fraction: its first nine digits, with zeros for those
    that it lacks. -/
def nano : Option Digits → Nat
  | some digits => Nat.ofDigitChars 10 ((digits.chars ++ List.replicate 9 '0').take 9) 0
  | none => 0

end FractionText

namespace ClockText

def text (t : ClockText) : List Char :=
  t.hour.text ++ (t.beforeMinute.chars ++ ':' :: (t.minute.text ++
    (t.beforeSecond.chars ++ ':' :: (t.second.text ++ FractionText.text t.fraction))))

def nano (t : ClockText) : Nat := FractionText.nano t.fraction

end ClockText

namespace DateText

def text (t : DateText) : List Char := t.day.text ++ t.after.chars

/-- The text has the year, the month and the day of the date. -/
def Denotes (t : DateText) (d : Date) : Prop := d.toDay = t.day.value

end DateText

namespace DateTimeText

def text (t : DateTimeText) : List Char :=
  t.day.text ++ (t.beforeClock.chars ++ 'T' :: (t.clock.text ++ t.after.chars))

/-- The text has the day and the reading of the date-time. -/
structure Denotes (t : DateTimeText) (d : DateTime) : Prop where
  date : d.date.toDay = t.day.value
  hour : d.time.hour = t.clock.hour.value
  minute : d.time.minute = t.clock.minute.value
  second :
    t.clock.second.value < 60 ∧ d.time.second = t.clock.second.value ∧ d.time.nano = t.clock.nano ∨
      t.clock.second.value = 60 ∧ d.time.second = 59 ∧ d.time.nano = t.clock.nano + 1000000000

end DateTimeText

namespace Reading

section Blank

/-- The reader skips what is listed, and nothing else. -/
theorem isBlank_iff {c : Char} : Text.isBlank c = true ↔ c.toNat ∈ whiteSpace := by
  simp only [Text.isBlank, whiteSpace, Bool.or_eq_true, Bool.and_eq_true, decide_eq_true_eq,
    beq_iff_eq, List.mem_cons, List.not_mem_nil, or_false]
  omega

theorem isBlank_of_isDigit {c : Char} (h : c.isDigit = true) : Text.isBlank c = false := by
  have hrange : 48 ≤ c.toNat ∧ c.toNat ≤ 57 := Char.isDigit_iff_toNat.mp h
  simp only [Text.isBlank, Bool.or_eq_false_iff, Bool.and_eq_false_iff, decide_eq_false_iff_not,
    beq_eq_false_iff_ne]
  omega

theorem skipBlanks_cons {c : Char} (hc : Text.isBlank c = false) (cs : List Char) :
    Text.skipBlanks (c :: cs) = c :: cs := by
  rw [Text.skipBlanks, List.dropWhile_cons_of_neg]
  rw [hc]
  exact Bool.false_ne_true

/-- White space in front is skipped with what is behind it. -/
theorem skipBlanks_append (b : Blanks) (cs : List Char) :
    Text.skipBlanks (b.chars ++ cs) = Text.skipBlanks cs :=
  List.dropWhile_append_of_pos fun c hc => isBlank_iff.mpr (b.blank c hc)

/-- What is skipped is white space. -/
theorem exists_blanks (cs : List Char) : ∃ b : Blanks, cs = b.chars ++ Text.skipBlanks cs :=
  ⟨⟨cs.takeWhile Text.isBlank, fun c hc =>
      isBlank_iff.mp (List.all_eq_true.mp List.all_takeWhile c hc)⟩,
    List.takeWhile_append_dropWhile.symm⟩

/-- A number ends at white space. -/
theorem noDigitNext_blanks (b : Blanks) {cs : List Char} (h : Decimal.NoDigitNext cs) :
    Decimal.NoDigitNext (b.chars ++ cs) := by
  rcases b with ⟨_ | ⟨c, blanks⟩, hblank⟩
  · exact h
  · refine Decimal.noDigitNext_cons ?_ _
    have hc : Text.isBlank c = true := isBlank_iff.mpr (hblank c List.mem_cons_self)
    cases hdigit : c.isDigit with
    | false => rfl
    | true =>
        rw [isBlank_of_isDigit hdigit] at hc
        exact hc.symm

theorem finished_eq_ok_iff {cs : List Char} :
    finished cs = .ok () ↔ ∃ b : Blanks, cs = b.chars := by
  rw [finished]
  constructor
  · intro h
    rcases exists_blanks cs with ⟨b, hb⟩
    cases hskip : Text.skipBlanks cs with
    | nil => exact ⟨b, by rw [hb, hskip, List.append_nil]⟩
    | cons c rest =>
        rw [hskip] at h
        cases h
  · rintro ⟨b, rfl⟩
    have hskip := skipBlanks_append b []
    rw [List.append_nil] at hskip
    rw [hskip]
    rfl

end Blank

section Numbers

/-- What is taken in front of a text is a run of digits, and only its length
    keeps it from being longer. -/
theorem leadingDigits_spec (most : Nat) (cs : List Char) :
    cs = leadingDigits most cs ++ cs.drop (leadingDigits most cs).length ∧
      (∀ c ∈ leadingDigits most cs, c.isDigit = true) ∧
      ((leadingDigits most cs).length = most ∨ (leadingDigits most cs).length < most ∧
        Decimal.NoDigitNext (cs.drop (leadingDigits most cs).length)) := by
  -- Each digit that is taken leaves room for one less, so the limit is not fixed.
  induction cs generalizing most with
  | nil =>
      cases most with
      | zero => exact ⟨rfl, List.forall_mem_nil _, .inl rfl⟩
      | succ most =>
          exact ⟨rfl, List.forall_mem_nil _, .inr ⟨Nat.succ_pos _, Decimal.noDigitNext_nil⟩⟩
  | cons c cs ih =>
      cases most with
      | zero => exact ⟨rfl, List.forall_mem_nil _, .inl rfl⟩
      | succ most =>
          rw [leadingDigits]
          cases hc : c.isDigit with
          | false =>
              exact ⟨rfl, List.forall_mem_nil _,
                .inr ⟨Nat.succ_pos _, Decimal.noDigitNext_cons hc cs⟩⟩
          | true =>
              rcases ih most with ⟨hcs, hdigits, hlength⟩
              refine ⟨congrArg (c :: ·) hcs, List.forall_mem_cons.mpr ⟨hc, hdigits⟩, ?_⟩
              exact hlength.imp (congrArg Nat.succ) (And.imp_left Nat.succ_lt_succ)

variable {most n : Nat} {cs rest : List Char}

theorem number_sound (h : number most cs = .ok (n, rest)) :
    ∃ ds : Digits, ds.chars = leadingDigits most cs ∧ ds.chars.length ≤ most ∧
      cs = ds.chars ++ rest ∧ ds.value = n := by
  rcases leadingDigits_spec most cs with ⟨hcs, hdigits, hlength⟩
  rw [number] at h
  split at h
  case h_1 => cases h
  case h_2 hne =>
    simp only [Except.ok.injEq, Prod.mk.injEq] at h
    rw [h.2] at hcs
    exact ⟨⟨leadingDigits most cs, hne, hdigits⟩, rfl,
      hlength.elim Nat.le_of_eq fun hless => Nat.le_of_lt hless.1, hcs, h.1⟩

/-- Of a run of digits as many are taken as may be. -/
theorem leadingDigits_append (most : Nat) {ds rest : List Char}
    (hds : ∀ c ∈ ds, c.isDigit = true) (hrest : Decimal.NoDigitNext rest) :
    leadingDigits most (ds ++ rest) = ds.take most := by
  induction ds generalizing most with
  | nil =>
      cases rest with
      | nil => cases most <;> rfl
      | cons c rest =>
          cases most with
          | zero => rfl
          | succ most =>
              have hc := hrest c (List.head?_cons ..)
              rw [List.nil_append, leadingDigits, hc, if_neg Bool.false_ne_true, List.take_nil]
  | cons d ds ih =>
      cases most with
      | zero => rfl
      | succ most =>
          have hd := hds d List.mem_cons_self
          rw [List.cons_append, leadingDigits, if_pos hd,
            ih most (fun c hc => hds c (List.mem_cons_of_mem _ hc)), List.take_succ_cons]

theorem number_complete (ds : Digits) (hshort : ds.chars.length ≤ most)
    (hrest : Decimal.NoDigitNext rest) :
    number most (ds.chars ++ rest) = .ok (ds.value, rest) := by
  rw [number, leadingDigits_append most ds.digit hrest, List.take_of_length_le hshort]
  rcases ds with ⟨_ | ⟨d, cs⟩, hne, hdigits⟩
  · exact absurd rfl hne
  · simp only [List.drop_left]
    rfl

/-- White space is skipped in front of digits and no more. -/
theorem skipBlanks_digits (b : Blanks) (ds : Digits) (rest : List Char) :
    Text.skipBlanks (b.chars ++ (ds.chars ++ rest)) = ds.chars ++ rest := by
  rw [skipBlanks_append]
  rcases ds with ⟨_ | ⟨d, cs⟩, hne, hdigits⟩
  · exact absurd rfl hne
  · exact skipBlanks_cons (isBlank_of_isDigit (hdigits d List.mem_cons_self)) _

theorem smallNumber_sound {lo hi : Nat} (h : smallNumber lo hi cs = .ok (n, rest)) :
    ∃ t : SmallText, cs = t.text ++ rest ∧ t.value = n ∧ lo ≤ n ∧ n ≤ hi := by
  rcases exists_blanks cs with ⟨b, hb⟩
  rw [smallNumber, bind_eq_ok] at h
  rcases h with ⟨⟨m, after⟩, hnumber, h⟩
  rcases number_sound hnumber with ⟨ds, -, hshort, hcs, hvalue⟩
  by_cases hbounds : lo ≤ m ∧ m ≤ hi
  · simp only [if_pos hbounds, Except.ok.injEq, Prod.mk.injEq] at h
    rw [hcs, h.2, ← List.append_assoc] at hb
    rw [h.1] at hvalue hbounds
    exact ⟨⟨b, ds, hshort⟩, hb, hvalue, hbounds⟩
  · simp only [if_neg hbounds, reduceCtorEq] at h

theorem smallNumber_complete (lo hi : Nat) (t : SmallText) (hlo : lo ≤ t.value)
    (hhi : t.value ≤ hi) (hrest : Decimal.NoDigitNext rest) :
    smallNumber lo hi (t.text ++ rest) = .ok (t.value, rest) := by
  rw [smallNumber, SmallText.text, List.append_assoc, skipBlanks_digits,
    number_complete t.digits t.short hrest]
  exact if_pos ⟨hlo, hhi⟩

theorem mark_sound {c : Char} (h : mark c cs = .ok rest) :
    ∃ b : Blanks, cs = b.chars ++ c :: rest := by
  rcases exists_blanks cs with ⟨b, hb⟩
  rw [mark] at h
  split at h
  case h_1 => cases h
  case h_2 d after hskip =>
    by_cases hd : d = c
    · rw [if_pos hd, Except.ok.injEq] at h
      rw [hskip, hd, h] at hb
      exact ⟨b, hb⟩
    · rw [if_neg hd] at h
      cases h

theorem mark_complete {c : Char} (hc : Text.isBlank c = false) (b : Blanks) (rest : List Char) :
    mark c (b.chars ++ c :: rest) = .ok rest := by
  rw [mark, skipBlanks_append, skipBlanks_cons hc]
  exact if_pos rfl

/-- The numbers behind both signs of a year, and the number of a year without
    one. -/
theorem year_sound {y : Int} (h : year cs = .ok (y, rest)) :
    ∃ t : YearText, cs = t.text ++ rest ∧ t.value = y := by
  rcases exists_blanks cs with ⟨b, hb⟩
  have hchecked : ∀ {y z : Int}, checkedYear y = .ok z → y = z := by
    intro y z hyz
    rw [checkedYear] at hyz
    split at hyz
    case isTrue => exact Except.ok.inj hyz
    case isFalse => cases hyz
  rw [year] at h
  split at h
  -- Behind a sign the digits have no limit but the text itself.
  case h_1 after hskip =>
    rcases bind_eq_ok.mp h with ⟨⟨n, left⟩, hnumber, h⟩
    rcases bind_eq_ok.mp h with ⟨z, hz, h⟩
    rcases number_sound hnumber with ⟨ds, -, -, hafter, hvalue⟩
    simp only [Except.ok.injEq, Prod.mk.injEq] at h
    refine ⟨.signed b true ds, ?_, ?_⟩
    · rw [hb, hskip, hafter, h.2, YearText.text, List.append_assoc]
      rfl
    · rw [YearText.value, hvalue, ← h.1, ← hchecked hz]
      rfl
  case h_2 after hskip =>
    rcases bind_eq_ok.mp h with ⟨⟨n, left⟩, hnumber, h⟩
    rcases bind_eq_ok.mp h with ⟨z, hz, h⟩
    rcases number_sound hnumber with ⟨ds, -, -, hafter, hvalue⟩
    simp only [Except.ok.injEq, Prod.mk.injEq] at h
    refine ⟨.signed b false ds, ?_, ?_⟩
    · rw [hb, hskip, hafter, h.2, YearText.text, List.append_assoc]
      rfl
    · rw [YearText.value, hvalue, ← h.1, ← hchecked hz]
      rfl
  -- Without a sign there are four digits at most, and no check is needed.
  case h_3 =>
    rcases bind_eq_ok.mp h with ⟨⟨n, left⟩, hnumber, h⟩
    rcases number_sound hnumber with ⟨ds, -, hshort, hafter, hvalue⟩
    simp only [Except.ok.injEq, Prod.mk.injEq] at h
    refine ⟨.plain b ds hshort, ?_, ?_⟩
    · rw [hb, hafter, h.2, YearText.text, List.append_assoc]
    · rw [YearText.value, hvalue, h.1]

/-- A year that fits 32 bits is read from its text. -/
theorem year_complete (t : YearText) (hlower : -2147483648 ≤ t.value)
    (hupper : t.value ≤ 2147483647) (hrest : Decimal.NoDigitNext rest) :
    year (t.text ++ rest) = .ok (t.value, rest) := by
  have hchecked : checkedYear t.value = .ok t.value := if_pos ⟨hlower, hupper⟩
  cases t with
  | plain b ds hshort =>
      have hstart : ∀ c cs, ds.chars ++ rest = c :: cs → c.isDigit = true :=
        fun c cs => Decimal.isDigit_of_append_eq_cons ds.nonempty ds.digit
      rw [YearText.text, year, List.append_assoc, skipBlanks_digits]
      -- Digits do not start with a sign.
      split
      case h_1 heq => exact absurd (hstart _ _ heq) (by decide)
      case h_2 heq => exact absurd (hstart _ _ heq) (by decide)
      case h_3 =>
        rw [number_complete ds hshort hrest]
        rfl
  | signed b negative ds =>
      have hnumber : number (ds.chars ++ rest).length (ds.chars ++ rest) =
          .ok (ds.value, rest) :=
        number_complete ds (by rw [List.length_append]; omega) hrest
      rw [YearText.value] at hchecked
      rw [YearText.text, year, List.append_assoc, skipBlanks_append, List.cons_append]
      cases negative with
      | true =>
          rw [if_pos rfl] at hchecked
          rw [if_pos rfl, skipBlanks_cons (by decide)]
          simp only [hnumber, bind, Except.bind, hchecked]
          rfl
      | false =>
          rw [if_neg Bool.false_ne_true] at hchecked
          rw [if_neg Bool.false_ne_true, skipBlanks_cons (by decide)]
          simp only [hnumber, bind, Except.bind, hchecked]
          rfl

end Numbers

section Parts

variable {cs rest : List Char}

theorem noDigitNext_mark (b : Blanks) {c : Char} (hc : c.isDigit = false) (rest : List Char) :
    Decimal.NoDigitNext (b.chars ++ c :: rest) :=
  noDigitNext_blanks b (Decimal.noDigitNext_cons hc rest)

theorem day_sound {d : Day} (h : day cs = .ok (d, rest)) :
    ∃ t : DayText, cs = t.text ++ rest ∧ t.value = d := by
  rw [day] at h
  rcases bind_eq_ok.mp h with ⟨⟨y, afterYear⟩, hyear, h⟩
  rcases bind_eq_ok.mp h with ⟨beforeMonth, hfirst, h⟩
  rcases bind_eq_ok.mp h with ⟨⟨m, afterMonth⟩, hmonth, h⟩
  rcases bind_eq_ok.mp h with ⟨beforeDay, hsecond, h⟩
  rcases bind_eq_ok.mp h with ⟨⟨k, afterDay⟩, hday, h⟩
  rcases year_sound hyear with ⟨yearText, hcs, rfl⟩
  rcases mark_sound hfirst with ⟨b, rfl⟩
  rcases smallNumber_sound hmonth with ⟨monthText, rfl, rfl, -⟩
  rcases mark_sound hsecond with ⟨b', rfl⟩
  rcases smallNumber_sound hday with ⟨dayText, rfl, rfl, -⟩
  simp only [Except.ok.injEq, Prod.mk.injEq] at h
  refine ⟨⟨yearText, b, monthText, b', dayText⟩, ?_, h.1⟩
  rw [hcs, ← h.2, DayText.text]
  simp only [List.append_assoc, List.cons_append]

/-- A day whose numbers may stand in a date is read from its text. -/
theorem day_complete (t : DayText) (d : Date) (hd : d.toDay = t.value)
    (hrest : Decimal.NoDigitNext rest) : day (t.text ++ rest) = .ok (t.value, rest) := by
  have hlower := d.year_lower
  have hupper := d.year_upper
  rcases d.valid with ⟨hmonth, hlastMonth, hday, hlastDay⟩
  -- The reader sets limits that are wider than those of a date.
  have hlength := (daysInMonth_bounds d.year d.month).2
  rw [hd, DayText.value] at hlower hupper hmonth hlastMonth hday hlastDay hlength
  dsimp only at hlower hupper hmonth hlastMonth hday hlastDay hlength
  have hyear := year_complete t.year (by omega) (by omega) (noDigitNext_mark t.beforeMonth
    (c := '-') (by decide) (t.month.text ++ (t.beforeDay.chars ++ '-' :: (t.day.text ++ rest))))
  have hsecond := smallNumber_complete 1 12 t.month hmonth hlastMonth (noDigitNext_mark t.beforeDay
    (c := '-') (by decide) (t.day.text ++ rest))
  have hthird := smallNumber_complete 1 31 t.day hday (by omega) hrest
  rw [DayText.text]
  simp only [List.append_assoc, List.cons_append]
  rw [day, hyear]
  simp only [bind, Except.bind, mark_complete (c := '-') (by decide), hsecond, hthird]
  rfl

/-- Nine digits, or all of them if there are fewer, count up to nanoseconds. -/
theorem value_take_nine (ds more : List Char)
    (h : ds.length = 9 ∨ ds.length < 9 ∧ more = []) :
    Nat.ofDigitChars 10 ((ds ++ more ++ List.replicate 9 '0').take 9) 0 =
      Decimal.value ds * Nat.pow 10 (9 - ds.length) := by
  rcases h with hnine | ⟨hfewer, rfl⟩
  -- Nine digits leave no place for the zeros.
  · rw [List.append_assoc, List.take_append_of_le_length (Nat.le_of_eq hnine.symm),
      List.take_of_length_le (Nat.le_of_eq hnine), hnine]
    exact (Nat.mul_one _).symm
  -- Fewer digits are filled up, and every zero multiplies by ten.
  · have htake : (ds ++ [] ++ List.replicate 9 '0').take 9 =
        ds ++ List.replicate (9 - ds.length) '0' := by
      rw [List.append_nil, List.take_append, List.take_of_length_le (Nat.le_of_lt hfewer),
        List.take_replicate, Nat.min_eq_left (Nat.sub_le 9 ds.length)]
    rw [htake, Decimal.value, Nat.ofDigitChars_append, Nat.ofDigitChars_replicate_zero,
      Nat.mul_comm]
    rfl

/-- The fraction of a second is read with all its digits, or there is none. -/
theorem fraction_sound {n : Nat} (h : fraction cs = .ok (n, rest)) :
    ∃ f : Option Digits, cs = FractionText.text f ++ rest ∧ FractionText.nano f = n := by
  rw [fraction.eq_def] at h
  split at h
  case h_1 after =>
    rcases bind_eq_ok.mp h with ⟨⟨m, left⟩, hnumber, h⟩
    rcases number_sound hnumber with ⟨ds, hds, -, hafter, hvalue⟩
    rcases leadingDigits_spec 9 after with ⟨-, -, hlength⟩
    simp only [Except.ok.injEq, Prod.mk.injEq] at h
    -- Where digits are left over, nine of them were taken.
    have hleft : after.drop ds.chars.length = left := by
      rw [hafter, List.drop_left]
    rw [← hds, hleft] at hlength
    have hmore : ds.chars.length = 9 ∨
        ds.chars.length < 9 ∧ left.takeWhile Char.isDigit = [] := by
      refine hlength.imp_right (And.imp_right fun hnone => ?_)
      have htake := Decimal.takeWhile_append (List.forall_mem_nil _) hnone
      rwa [List.nil_append] at htake
    refine ⟨some ⟨ds.chars ++ left.takeWhile Char.isDigit, ?_, ?_⟩, ?_, ?_⟩
    · exact List.append_ne_nil_of_left_ne_nil ds.nonempty _
    · exact List.forall_mem_append.mpr ⟨ds.digit, List.all_eq_true.mp List.all_takeWhile⟩
    · rw [FractionText.text, ← h.2, List.cons_append, List.append_assoc,
        List.takeWhile_append_dropWhile, hafter]
    · have htaken : Decimal.value ds.chars = m := hvalue
      rw [FractionText.nano, value_take_nine _ _ hmore, htaken, hds]
      exact h.1
  case h_2 =>
    simp only [Except.ok.injEq, Prod.mk.injEq] at h
    exact ⟨none, h.2, h.1⟩

theorem fraction_complete (f : Option Digits) (hrest : Decimal.NoDigitNext rest)
    (hpoint : rest.head? ≠ some '.') :
    fraction (FractionText.text f ++ rest) = .ok (FractionText.nano f, rest) := by
  cases f with
  | none =>
      cases rest with
      | nil => rfl
      | cons c rest =>
          rw [FractionText.text, List.nil_append, fraction]
          · rfl
          · rintro cs ⟨rfl, -⟩
            exact hpoint rfl
  | some ds =>
      -- The first nine digits are taken, and the others are passed over.
      have hsplit : ds.chars ++ rest = ds.chars.take 9 ++ (ds.chars.drop 9 ++ rest) := by
        rw [← List.append_assoc, List.take_append_drop]
      have hleft : ∀ c ∈ ds.chars.drop 9, c.isDigit = true :=
        fun c hc => ds.digit c (List.mem_of_mem_drop hc)
      have hleading := leadingDigits_append 9 ds.digit hrest
      have hnumber : number 9 (ds.chars ++ rest) =
          .ok (Decimal.value (ds.chars.take 9), ds.chars.drop 9 ++ rest) := by
        rw [number, hleading]
        split
        case h_1 heq => exact absurd (List.take_eq_nil_iff.mp heq) (by simp [ds.nonempty])
        case h_2 => rw [hsplit, List.drop_left]
      have hvalue := value_take_nine (ds.chars.take 9) (ds.chars.drop 9) (by
        rw [List.length_take, List.drop_eq_nil_iff]
        omega)
      rw [List.take_append_drop] at hvalue
      rw [FractionText.text, List.cons_append, fraction, FractionText.nano, hvalue]
      simp only [hleading, hnumber, bind, Except.bind, Decimal.dropWhile_append hleft hrest]

/-- A fraction ends the digits of its second. -/
theorem noDigitNext_fraction (f : Option Digits) (hrest : Decimal.NoDigitNext rest) :
    Decimal.NoDigitNext (FractionText.text f ++ rest) := by
  cases f with
  | none => exact hrest
  | some ds => exact Decimal.noDigitNext_cons (by decide) _

theorem clock_sound {c : Clock} (h : clock cs = .ok (c, rest)) :
    ∃ t : ClockText, cs = t.text ++ rest ∧ t.second.value ≤ 60 ∧
      c = .ofText t.hour.value t.minute.value t.second.value t.nano := by
  rw [clock] at h
  rcases bind_eq_ok.mp h with ⟨⟨hour, afterHour⟩, hhour, h⟩
  rcases bind_eq_ok.mp h with ⟨beforeMinute, hfirst, h⟩
  rcases bind_eq_ok.mp h with ⟨⟨minute, afterMinute⟩, hminute, h⟩
  rcases bind_eq_ok.mp h with ⟨beforeSecond, hnext, h⟩
  rcases bind_eq_ok.mp h with ⟨⟨second, afterSecond⟩, hsecond, h⟩
  rcases bind_eq_ok.mp h with ⟨⟨nano, afterNano⟩, hnano, h⟩
  rcases smallNumber_sound hhour with ⟨hourText, hcs, rfl, -⟩
  rcases mark_sound hfirst with ⟨b, rfl⟩
  rcases smallNumber_sound hminute with ⟨minuteText, rfl, rfl, -⟩
  rcases mark_sound hnext with ⟨b', rfl⟩
  rcases smallNumber_sound hsecond with ⟨secondText, rfl, rfl, -, hlast⟩
  rcases fraction_sound hnano with ⟨f, rfl, rfl⟩
  simp only [Except.ok.injEq, Prod.mk.injEq] at h
  refine ⟨⟨hourText, b, minuteText, b', secondText, f⟩, ?_, hlast, h.1.symm⟩
  rw [hcs, ← h.2, ClockText.text]
  simp only [List.append_assoc, List.cons_append]

theorem clock_complete (t : ClockText) (hhour : t.hour.value ≤ 23) (hminute : t.minute.value ≤ 59)
    (hsecond : t.second.value ≤ 60) (hrest : Decimal.NoDigitNext rest)
    (hpoint : rest.head? ≠ some '.') :
    clock (t.text ++ rest) =
      .ok (.ofText t.hour.value t.minute.value t.second.value t.nano, rest) := by
  have hfraction := noDigitNext_fraction t.fraction hrest
  have hfirst := smallNumber_complete 0 23 t.hour (Nat.zero_le _) hhour
    (noDigitNext_mark t.beforeMinute (c := ':') (by decide) (t.minute.text ++
      (t.beforeSecond.chars ++ ':' :: (t.second.text ++ (FractionText.text t.fraction ++ rest)))))
  have hnext := smallNumber_complete 0 59 t.minute (Nat.zero_le _) hminute
    (noDigitNext_mark t.beforeSecond (c := ':') (by decide)
      (t.second.text ++ (FractionText.text t.fraction ++ rest)))
  have hlast := smallNumber_complete 0 60 t.second (Nat.zero_le _) hsecond hfraction
  rw [ClockText.text]
  simp only [List.append_assoc, List.cons_append]
  rw [clock, hfirst]
  simp only [bind, Except.bind, mark_complete (c := ':') (by decide), hnext, hlast,
    fraction_complete t.fraction hrest hpoint]
  rfl

/-- White space does not look like a fraction. -/
theorem head?_blanks_ne_point (b : Blanks) : b.chars.head? ≠ some '.' := by
  intro h
  have hpoint := b.blank '.' (List.mem_of_mem_head? h)
  revert hpoint
  decide

end Parts

end Reading

/-- What is read as a date is a text that denotes the date. -/
theorem Date.read_eq_ok_iff {cs : List Char} {d : Date} :
    Date.read cs = .ok d ↔ ∃ t : DateText, t.text = cs ∧ t.Denotes d := by
  constructor
  · intro h
    rw [Date.read, bind_eq_ok] at h
    rcases h with ⟨⟨day, rest⟩, hday, h⟩
    rw [bind_eq_ok] at h
    rcases h with ⟨_, hfinished, h⟩
    rcases Reading.day_sound hday with ⟨t, hcs, rfl⟩
    rcases Reading.finished_eq_ok_iff.mp hfinished with ⟨b, rfl⟩
    cases hdate : Date.ofDay? t.value with
    | none => simp only [hdate, reduceCtorEq] at h
    | some date =>
        simp only [hdate, Except.ok.injEq] at h
        exact ⟨⟨t, b⟩, hcs.symm, h ▸ Date.ofDay?_eq_some_iff.mp hdate⟩
  · rintro ⟨⟨t, b⟩, rfl, hd⟩
    have hdate : Date.ofDay? t.value = some d := Date.ofDay?_eq_some_iff.mpr hd
    have hend := Reading.noDigitNext_blanks b Decimal.noDigitNext_nil
    rw [List.append_nil] at hend
    rw [Date.read, DateText.text, Reading.day_complete t d hd hend]
    simp only [bind, Except.bind, Reading.finished_eq_ok_iff.mpr ⟨b, rfl⟩, hdate]

/-- The numbers of a clock text are those of the time that it denotes. -/
theorem DateTimeText.Denotes.clock_eq {t : DateTimeText} {d : DateTime} (h : t.Denotes d) :
    Clock.ofText t.clock.hour.value t.clock.minute.value t.clock.second.value t.clock.nano =
      d.time.toClock := by
  rw [Clock.ofText]
  rcases h.second with ⟨hless, hsecond, hnano⟩ | ⟨hleap, hsecond, hnano⟩
  · rw [if_neg (Nat.ne_of_lt hless), ← h.hour, ← h.minute, ← hsecond, ← hnano]
  · rw [if_pos hleap, ← h.hour, ← h.minute, ← hsecond, ← hnano]

/-- And a time with those numbers is denoted. -/
theorem DateTimeText.denotes_of_clock {t : DateTimeText} {d : DateTime}
    (hdate : d.date.toDay = t.day.value) (hsecond : t.clock.second.value ≤ 60)
    (hclock : d.time.toClock =
      .ofText t.clock.hour.value t.clock.minute.value t.clock.second.value t.clock.nano) :
    t.Denotes d := by
  rw [Clock.ofText] at hclock
  by_cases hleap : t.clock.second.value = 60
  · rw [if_pos hleap] at hclock
    exact ⟨hdate, by rw [hclock], by rw [hclock], .inr ⟨hleap, by rw [hclock], by rw [hclock]⟩⟩
  · rw [if_neg hleap] at hclock
    exact ⟨hdate, by rw [hclock], by rw [hclock],
      .inl ⟨by omega, by rw [hclock], by rw [hclock]⟩⟩

theorem Time.ofClock?_eq_some_iff {c : Clock} {t : Time} :
    ofClock? c = some t ↔ t.toClock = c := by
  rw [ofClock?]
  constructor
  · intro h
    split at h
    case isTrue => exact congrArg Time.toClock (Option.some.inj h).symm
    case isFalse => cases h
  · rintro rfl
    exact dif_pos t.valid

/-- What is read as a date-time is a text that denotes the date-time. -/
theorem DateTime.read_eq_ok_iff {cs : List Char} {d : DateTime} :
    DateTime.read cs = .ok d ↔ ∃ t : DateTimeText, t.text = cs ∧ t.Denotes d := by
  constructor
  · intro h
    rw [DateTime.read, bind_eq_ok] at h
    rcases h with ⟨⟨day, afterDay⟩, hday, h⟩
    rw [bind_eq_ok] at h
    rcases h with ⟨beforeClock, hmark, h⟩
    rw [bind_eq_ok] at h
    rcases h with ⟨⟨clock, rest⟩, hclock, h⟩
    rw [bind_eq_ok] at h
    rcases h with ⟨_, hfinished, h⟩
    rcases Reading.day_sound hday with ⟨dayText, hcs, rfl⟩
    rcases Reading.mark_sound hmark with ⟨b, rfl⟩
    rcases Reading.clock_sound hclock with ⟨clockText, rfl, hsecond, rfl⟩
    rcases Reading.finished_eq_ok_iff.mp hfinished with ⟨after, rfl⟩
    split at h
    case h_1 date time hdate htime =>
      rw [Except.ok.injEq] at h
      subst h
      exact ⟨⟨dayText, b, clockText, after⟩, hcs.symm,
        DateTimeText.denotes_of_clock (Date.ofDay?_eq_some_iff.mp hdate) hsecond
          (Time.ofClock?_eq_some_iff.mp htime)⟩
    case h_2 => cases h
  · rintro ⟨⟨day, b, clock, after⟩, rfl, hd⟩
    have hdate : Date.ofDay? day.value = some d.date := Date.ofDay?_eq_some_iff.mpr hd.date
    have htime : Time.ofClock? d.time.toClock = some d.time := Time.ofClock?_eq_some_iff.mpr rfl
    have hclock := hd.clock_eq
    -- The numbers of a time are within the limits of the reader.
    rcases d.time.valid with ⟨hhour, hminute, -, -⟩
    rw [hd.hour] at hhour
    rw [hd.minute] at hminute
    have hsecond : clock.second.value ≤ 60 := by
      rcases hd.second with ⟨hless, -⟩ | ⟨hleap, -⟩
      · exact Nat.le_of_lt hless
      · exact Nat.le_of_eq hleap
    have hend := Reading.noDigitNext_blanks after Decimal.noDigitNext_nil
    rw [List.append_nil] at hend
    have hread := Reading.clock_complete clock (Nat.le_of_lt_succ hhour)
      (Nat.le_of_lt_succ hminute) hsecond hend (Reading.head?_blanks_ne_point after)
    rw [hclock] at hread
    rw [DateTime.read, DateTimeText.text, Reading.day_complete day d.date hd.date
      (Reading.noDigitNext_mark b (by decide) _)]
    simp only [bind, Except.bind, Reading.mark_complete (c := 'T') (by decide), hread,
      Reading.finished_eq_ok_iff.mpr ⟨after, rfl⟩, hdate, htime]

end Calendar

end RowSieve
