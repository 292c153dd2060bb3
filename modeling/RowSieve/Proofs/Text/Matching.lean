import RowSieve.Text.Pattern

/-!
# What a Pattern Describes

The rules of patterns, read character by character, and the matcher held
against them. The matcher cuts a pattern into pieces first and tries every tail
of the text at each run. The rules know neither pieces nor tails: each one says
what a single step of a pattern may stand for.

A pattern is looked for anywhere in a text by putting a run on either side of
it. The run in front never does harm. The run behind does if the pattern ends
in a backslash that has nothing to escape. On its own such a backslash stands
for itself. With a percent sign behind it there is something to escape: the
backslash is gone, the percent sign is a plain character, and the end of the
text is not free any more. For every other pattern the two runs free the ends
of the text and do nothing else.

## Main definitions

* `Pattern.Describes`: The rules of patterns.
* `Pattern.endsOpen`: The pattern ends in a backslash that escapes nothing.
* `Pattern.Verbatim`: Every character of the pattern stands for itself.

## Theorems

* `Pattern.stepInduction`: Induction along the steps of a pattern.
* `Pattern.fits_append`: Pieces one after the other describe texts one after
  the other.
* `Pattern.describes_iff`: The matcher follows the rules.
* `Pattern.pieces_append`: Where a pattern can be cut in two.
* `Pattern.endsOpen_iff`: What a pattern with an open end looks like.
* `Pattern.describes_anywhere`, `Pattern.describes_open_anywhere`: A pattern
  between two runs.
* `Pattern.anywhere_iff`: Two runs look for a pattern anywhere in a text
  exactly if the pattern has no open end.
* `Pattern.Verbatim.describes_anywhere`: What they find of a pattern without
  wildcards.
-/

namespace RowSieve

namespace Text

namespace Pattern

/-- The text is described by the pattern. -/
inductive Describes : (pattern text : List Char) → Prop where
  /-- Nothing is left on either side. -/
  | nothing : Describes [] []
  /-- A percent sign passes over any part of the text. -/
  | run (passed : List Char) {pattern text : List Char} (rest : Describes pattern text) :
    Describes ('%' :: pattern) (passed ++ text)
  /-- An underscore passes over one character. -/
  | one (c : Char) {pattern text : List Char} (rest : Describes pattern text) :
    Describes ('_' :: pattern) (c :: text)
  /-- A backslash makes the character after it stand for itself. -/
  | escaped (c : Char) {pattern text : List Char} (rest : Describes pattern text) :
    Describes ('\\' :: c :: pattern) (c :: text)
  /-- A backslash with nothing after it stands for itself. -/
  | backslash : Describes ['\\'] ['\\']
  /-- Every other character stands for itself. -/
  | plain {c : Char} (hrun : c ≠ '%') (hone : c ≠ '_') (hescape : c ≠ '\\')
    {pattern text : List Char} (rest : Describes pattern text) :
    Describes (c :: pattern) (c :: text)

/-- The last character of the pattern is a backslash, and it is not escaped
    itself. -/
def endsOpen : List Char → Bool
  | [] => false
  | ['\\'] => true
  | '\\' :: _ :: cs => endsOpen cs
  | _ :: cs => endsOpen cs

section Steps

/-- Induction along the steps of a pattern. An escape is one step of two
    characters. -/
theorem stepInduction {motive : List Char → Prop} (nothing : motive [])
    (run : ∀ cs, motive cs → motive ('%' :: cs)) (one : ∀ cs, motive cs → motive ('_' :: cs))
    (backslash : motive ['\\']) (escaped : ∀ c cs, motive cs → motive ('\\' :: c :: cs))
    (plain : ∀ c cs, c ≠ '%' → c ≠ '_' → c ≠ '\\' → motive cs → motive (c :: cs)) :
    ∀ p, motive p := by
  intro p
  induction p using pieces.induct with
  | case1 => exact nothing
  | case2 cs ih => exact run cs ih
  | case3 cs ih => exact one cs ih
  | case4 => exact backslash
  | case5 c cs ih => exact escaped c cs ih
  | case6 c cs hrun hone hlast hescape ih =>
      -- A backslash stands last or has something after it, and both were
      -- steps of their own.
      refine plain c cs hrun hone (fun hc => ?_) ih
      cases cs with
      | nil => exact hlast hc rfl
      | cons d ds => exact hescape d ds hc rfl

variable {c : Char} {cs : List Char}

theorem pieces_plain (hrun : c ≠ '%') (hone : c ≠ '_') (hescape : c ≠ '\\') :
    pieces (c :: cs) = .exactly c :: pieces cs := by
  rw [pieces.eq_6 _ _ hrun hone (fun h => absurd h hescape) fun _ _ h => absurd h hescape]

theorem endsOpen_cons (hescape : c ≠ '\\') : endsOpen (c :: cs) = endsOpen cs := by
  rw [endsOpen.eq_4 _ _ (fun h => absurd h hescape) fun _ _ h => absurd h hescape]

end Steps

section Pieces

/-- A run hands what is left of the pieces to some tail of the text. -/
theorem fits_anyRun (ps : List Piece) (text : List Char) :
    fits (.anyRun :: ps) text = true ↔
      ∃ passed rest, text = passed ++ rest ∧ fits ps rest = true := by
  rw [fits, List.any_eq_true]
  simp only [mem_tails]
  constructor
  · rintro ⟨rest, ⟨passed, happ⟩, hrest⟩
    exact ⟨passed, rest, happ.symm, hrest⟩
  · rintro ⟨passed, rest, happ, hrest⟩
    exact ⟨rest, ⟨passed, happ.symm⟩, hrest⟩

theorem fits_anyOne (ps : List Piece) (text : List Char) :
    fits (.anyOne :: ps) text = true ↔ ∃ d rest, text = d :: rest ∧ fits ps rest = true := by
  cases text with
  | nil => simp only [fits, Bool.false_eq_true, reduceCtorEq, false_and, exists_false]
  | cons d rest =>
      rw [fits]
      constructor
      · intro h
        exact ⟨d, rest, rfl, h⟩
      · rintro ⟨_, _, h, hrest⟩
        rw [(List.cons.inj h).2]
        exact hrest

theorem fits_exactly (c : Char) (ps : List Piece) (text : List Char) :
    fits (.exactly c :: ps) text = true ↔ ∃ rest, text = c :: rest ∧ fits ps rest = true := by
  cases text with
  | nil => simp only [fits, Bool.false_eq_true, reduceCtorEq, false_and, exists_false]
  | cons d rest =>
      rw [fits, Bool.and_eq_true, beq_iff_eq]
      constructor
      · rintro ⟨rfl, h⟩
        exact ⟨rest, rfl, h⟩
      · rintro ⟨_, h, hrest⟩
        rw [(List.cons.inj h).1, (List.cons.inj h).2]
        exact ⟨rfl, hrest⟩

/-- Pieces one after the other describe texts one after the other. -/
theorem fits_append (ps qs : List Piece) (text : List Char) :
    fits (ps ++ qs) text = true ↔
      ∃ front back, text = front ++ back ∧ fits ps front = true ∧ fits qs back = true := by
  -- The first piece takes its part of the text either way. What is left is cut
  -- where the remaining pieces are, so the text varies.
  induction ps generalizing text with
  | nil =>
      simp only [List.nil_append, fits, List.isEmpty_iff]
      constructor
      · intro h
        exact ⟨[], text, rfl, rfl, h⟩
      · rintro ⟨front, back, rfl, rfl, h⟩
        exact h
  | cons p ps ih =>
      rw [List.cons_append]
      cases p with
      | anyRun =>
          simp only [fits_anyRun, ih]
          constructor
          · rintro ⟨passed, rest, rfl, front, back, rfl, hfront, hback⟩
            exact ⟨passed ++ front, back, (List.append_assoc ..).symm,
              ⟨passed, front, rfl, hfront⟩, hback⟩
          · rintro ⟨front, back, rfl, ⟨passed, rest, rfl, hrest⟩, hback⟩
            exact ⟨passed, rest ++ back, List.append_assoc .., rest, back, rfl, hrest, hback⟩
      | anyOne =>
          simp only [fits_anyOne, ih]
          constructor
          · rintro ⟨d, rest, rfl, front, back, rfl, hfront, hback⟩
            exact ⟨d :: front, back, rfl, ⟨d, front, rfl, hfront⟩, hback⟩
          · rintro ⟨front, back, rfl, ⟨d, rest, rfl, hrest⟩, hback⟩
            exact ⟨d, rest ++ back, rfl, rest, back, rfl, hrest, hback⟩
      | exactly c =>
          simp only [fits_exactly, ih]
          constructor
          · rintro ⟨rest, rfl, front, back, rfl, hfront, hback⟩
            exact ⟨c :: front, back, rfl, ⟨front, rfl, hfront⟩, hback⟩
          · rintro ⟨front, back, rfl, ⟨rest, rfl, hrest⟩, hback⟩
            exact ⟨rest ++ back, rfl, rest, back, rfl, hrest, hback⟩

end Pieces

/-- The matcher follows the rules. One direction goes along the steps of the
    pattern, the other along the rules. -/
theorem describes_iff (p text : List Char) : describes p text = true ↔ Describes p text := by
  constructor
  · unfold describes
    induction p using stepInduction generalizing text with
    | nothing =>
        intro h
        rw [pieces, fits, List.isEmpty_iff] at h
        rw [h]
        exact .nothing
    | run cs ih =>
        rw [pieces, fits_anyRun]
        rintro ⟨passed, rest, rfl, h⟩
        exact .run passed (ih rest h)
    | one cs ih =>
        rw [pieces, fits_anyOne]
        rintro ⟨d, rest, rfl, h⟩
        exact .one d (ih rest h)
    | backslash =>
        rw [pieces, fits_exactly]
        rintro ⟨rest, rfl, h⟩
        rw [fits, List.isEmpty_iff] at h
        rw [h]
        exact .backslash
    | escaped c cs ih =>
        rw [pieces, fits_exactly]
        rintro ⟨rest, rfl, h⟩
        exact .escaped c (ih rest h)
    | plain c cs hrun hone hescape ih =>
        rw [pieces_plain hrun hone hescape, fits_exactly]
        rintro ⟨rest, rfl, h⟩
        exact .plain hrun hone hescape (ih rest h)
  · intro h
    unfold describes
    induction h with
    | nothing => rfl
    | run passed rest ih =>
        rw [pieces, fits_anyRun]
        exact ⟨passed, _, rfl, ih⟩
    | one c rest ih =>
        rw [pieces, fits_anyOne]
        exact ⟨c, _, rfl, ih⟩
    | escaped c rest ih =>
        rw [pieces, fits_exactly]
        exact ⟨_, rfl, ih⟩
    | backslash => rfl
    | plain hrun hone hescape rest ih =>
        rw [pieces_plain hrun hone hescape, fits_exactly]
        exact ⟨_, rfl, ih⟩

section OpenEnds

/-- A pattern without an open end has the same pieces whatever is put behind
    it. -/
theorem pieces_append {p : List Char} (h : endsOpen p = false) (q : List Char) :
    pieces (p ++ q) = pieces p ++ pieces q := by
  induction p using stepInduction with
  | nothing => rfl
  | run cs ih | one cs ih =>
      rw [endsOpen_cons (by decide)] at h
      rw [List.cons_append, pieces, pieces, ih h, List.cons_append]
  | backslash => simp only [endsOpen, Bool.true_eq_false] at h
  | escaped c cs ih =>
      rw [endsOpen] at h
      rw [List.cons_append, List.cons_append, pieces, pieces, ih h, List.cons_append]
  | plain c cs hrun hone hescape ih =>
      rw [endsOpen_cons hescape] at h
      rw [List.cons_append, pieces_plain hrun hone hescape, pieces_plain hrun hone hescape, ih h,
        List.cons_append]

/-- Nor does it open or close what is put behind it. -/
theorem endsOpen_append {p : List Char} (h : endsOpen p = false) (q : List Char) :
    endsOpen (p ++ q) = endsOpen q := by
  induction p using stepInduction with
  | nothing => rfl
  | run cs ih | one cs ih =>
      rw [endsOpen_cons (by decide)] at h
      rw [List.cons_append, endsOpen_cons (by decide), ih h]
  | backslash => simp only [endsOpen, Bool.true_eq_false] at h
  | escaped c cs ih =>
      rw [endsOpen] at h
      rw [List.cons_append, List.cons_append, endsOpen, ih h]
  | plain c cs hrun hone hescape ih =>
      rw [endsOpen_cons hescape] at h
      rw [List.cons_append, endsOpen_cons hescape, ih h]

/-- An open end is a backslash behind a pattern without one. -/
theorem endsOpen_iff {p : List Char} :
    endsOpen p = true ↔ ∃ q, endsOpen q = false ∧ p = q ++ ['\\'] := by
  constructor
  · intro h
    induction p using stepInduction with
    | nothing => simp only [endsOpen, Bool.false_eq_true] at h
    | run cs ih =>
        rw [endsOpen_cons (by decide)] at h
        rcases ih h with ⟨q, hq, rfl⟩
        exact ⟨'%' :: q, (endsOpen_cons (by decide)).trans hq, rfl⟩
    | one cs ih =>
        rw [endsOpen_cons (by decide)] at h
        rcases ih h with ⟨q, hq, rfl⟩
        exact ⟨'_' :: q, (endsOpen_cons (by decide)).trans hq, rfl⟩
    | backslash => exact ⟨[], rfl, rfl⟩
    | escaped c cs ih =>
        rw [endsOpen] at h
        rcases ih h with ⟨q, hq, rfl⟩
        exact ⟨'\\' :: c :: q, by rw [endsOpen, hq], rfl⟩
    | plain c cs hrun hone hescape ih =>
        rw [endsOpen_cons hescape] at h
        rcases ih h with ⟨q, hq, rfl⟩
        exact ⟨c :: q, (endsOpen_cons hescape).trans hq, rfl⟩
  · rintro ⟨q, hq, rfl⟩
    rw [endsOpen_append hq, endsOpen]

end OpenEnds

section Anywhere

/-- A run at the end takes whatever is left. -/
theorem fits_lastRun (text : List Char) : fits [.anyRun] text = true :=
  (fits_anyRun [] text).mpr ⟨text, [], (List.append_nil text).symm, rfl⟩

/-- Between two runs, a pattern without an open end describes the texts that
    have a part it describes. -/
theorem describes_anywhere {p : List Char} (h : endsOpen p = false) (text : List Char) :
    describes ('%' :: p ++ ['%']) text = true ↔ ∃ part, part <:+: text ∧ Describes p part := by
  -- The pieces of the pattern are untouched by the run behind them.
  have hpieces : pieces ('%' :: p ++ ['%']) = .anyRun :: (pieces p ++ [.anyRun]) := by
    rw [List.cons_append, pieces, pieces_append h]
    rfl
  simp only [← describes_iff, describes, hpieces, fits_anyRun, fits_append, fits_lastRun, and_true]
  constructor
  · rintro ⟨before, rest, rfl, part, after, rfl, hpart⟩
    exact ⟨part, ⟨before, after, List.append_assoc ..⟩, hpart⟩
  · rintro ⟨part, ⟨before, after, rfl⟩, hpart⟩
    exact ⟨before, part ++ after, List.append_assoc .., part, after, rfl, hpart⟩

/-- A pattern with an open end takes the percent sign behind it for a
    character, and the text has to end there. -/
theorem describes_open_anywhere {p : List Char} (h : endsOpen p = false) (text : List Char) :
    describes ('%' :: (p ++ ['\\']) ++ ['%']) text = true ↔
      ∃ part, part ++ ['%'] <:+ text ∧ Describes p part := by
  -- The backslash and the percent sign behind it are one piece.
  have hpieces : pieces ('%' :: (p ++ ['\\']) ++ ['%']) =
      .anyRun :: (pieces p ++ [.exactly '%']) := by
    rw [List.cons_append, pieces, List.append_assoc, pieces_append h]
    rfl
  have hlast (back : List Char) : fits [.exactly '%'] back = true ↔ back = ['%'] := by
    simp only [fits_exactly, fits, List.isEmpty_iff, exists_eq_right]
  simp only [← describes_iff, describes, hpieces, fits_anyRun, fits_append, hlast]
  constructor
  · rintro ⟨before, rest, rfl, part, back, rfl, hpart, rfl⟩
    exact ⟨part, ⟨before, rfl⟩, hpart⟩
  · rintro ⟨part, ⟨before, rfl⟩, hpart⟩
    exact ⟨before, part ++ ['%'], rfl, part, ['%'], rfl, hpart, rfl⟩

/-- Every pattern describes some text. -/
theorem exists_describes (p : List Char) : ∃ text, Describes p text := by
  induction p using stepInduction with
  | nothing => exact ⟨[], .nothing⟩
  | run cs ih => exact ih.imp fun _ h => .run [] h
  | one cs ih => exact ih.elim fun text h => ⟨'_' :: text, .one '_' h⟩
  | backslash => exact ⟨['\\'], .backslash⟩
  | escaped c cs ih => exact ih.elim fun text h => ⟨c :: text, .escaped c h⟩
  | plain c cs hrun hone hescape ih =>
      exact ih.elim fun text h => ⟨c :: text, .plain hrun hone hescape h⟩

/-- An open end describes a backslash at the end of the text. -/
theorem Describes.open_end {p text : List Char} (hp : endsOpen p = false)
    (h : Describes p text) : Describes (p ++ ['\\']) (text ++ ['\\']) := by
  rw [← describes_iff, describes, pieces_append hp, fits_append]
  exact ⟨text, ['\\'], rfl, (describes_iff p text).mpr h, rfl⟩

/-- Two runs look for a pattern anywhere in a text exactly if the pattern has
    no open end. -/
theorem anywhere_iff {p : List Char} :
    (∀ text, describes ('%' :: p ++ ['%']) text = true ↔
      ∃ part, part <:+: text ∧ Describes p part) ↔ endsOpen p = false := by
  constructor
  · intro hall
    rw [← Bool.not_eq_true, endsOpen_iff]
    rintro ⟨q, hq, rfl⟩
    -- A text that the pattern describes ends in a backslash, so it does not
    -- end in the percent sign that would be asked for.
    rcases exists_describes q with ⟨text, htext⟩
    have hpart : describes ('%' :: (q ++ ['\\']) ++ ['%']) (text ++ ['\\']) = true :=
      (hall _).mpr ⟨text ++ ['\\'], List.infix_rfl, htext.open_end hq⟩
    rcases (describes_open_anywhere hq _).mp hpart with ⟨part, ⟨before, hends⟩, -⟩
    rw [← List.append_assoc] at hends
    have hlast := (List.append_inj' hends rfl).2
    exact absurd hlast (by decide)
  · intro h
    exact describes_anywhere h

end Anywhere

section Verbatim

/-- Every character of the pattern stands for itself. -/
def Verbatim (p : List Char) : Prop := ∀ c ∈ p, c ≠ '%' ∧ c ≠ '_' ∧ c ≠ '\\'

theorem Verbatim.tail {c : Char} {p : List Char} (h : Verbatim (c :: p)) : Verbatim p :=
  fun d hd => h d (List.mem_cons_of_mem _ hd)

/-- A verbatim pattern has no open end. -/
theorem Verbatim.endsOpen {p : List Char} (h : Verbatim p) : endsOpen p = false := by
  induction p with
  | nil => rfl
  | cons c cs ih =>
      rw [endsOpen_cons (h c List.mem_cons_self).2.2]
      exact ih h.tail

/-- It describes itself and nothing else. -/
theorem Verbatim.describes_iff {p : List Char} (h : Verbatim p) (text : List Char) :
    Describes p text ↔ text = p := by
  induction p generalizing text with
  | nil =>
      constructor
      · intro hd
        cases hd
        rfl
      · rintro rfl
        exact .nothing
  | cons c cs ih =>
      rcases h c List.mem_cons_self with ⟨hrun, hone, hescape⟩
      constructor
      · intro hd
        cases hd with
        | plain _ _ _ rest => rw [(ih h.tail _).mp rest]
        | run => exact absurd rfl hrun
        | one => exact absurd rfl hone
        | escaped => exact absurd rfl hescape
        | backslash => exact absurd rfl hescape
      · rintro rfl
        exact .plain hrun hone hescape ((ih h.tail cs).mpr rfl)

/-- Between two runs it describes the texts that it is a part of. -/
theorem Verbatim.describes_anywhere {p : List Char} (h : Verbatim p) (text : List Char) :
    describes ('%' :: p ++ ['%']) text = true ↔ p <:+: text := by
  rw [Pattern.describes_anywhere h.endsOpen]
  simp only [h.describes_iff, exists_eq_right]

end Verbatim

end Pattern

end Text

end RowSieve
