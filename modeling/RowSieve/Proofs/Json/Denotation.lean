import RowSieve.Proofs.Json.Tokens
import RowSieve.Proofs.Json.Values

/-!
# What Readers Make of a Tree

A reader that meets the text of a tree either finds what the tree denotes for
it, and stops where the tree ends, or it refuses. Which of the two depends on
the tree alone, not on the text that follows. That is `Reads`, and it holds of
every reader of values: what a tree of another shape denotes is nothing.

Readers never look into a value that they refuse, so there is no recursion on
trees here. A list is the deepest that an operand goes, and its elements are
read one by one.

## Main definitions

* `Reads`: A reader finds in a tree what the tree denotes to it.
* `Tree.readInteger?`: The integer that a reader makes of a value.
* `Tree.orNull?`: What a value denotes where it may be absent.

## Theorems

* `reads_integer`, `reads_text`, `reads_boolean`, `reads_list`: The readers.
* `reads_optional`: A value that may be absent.
-/

namespace RowSieve

namespace Json

section Layout

theorem NumberText.text_eq_cons (n : NumberText) :
    ∃ c more, n.text = c :: more ∧ (c = '-' ∨ c.isDigit = true) := by
  unfold text
  cases n.negative with
  | true => exact ⟨'-', _, rfl, .inl rfl⟩
  | false =>
      cases hwhole : n.whole.chars with
      | nil => exact absurd hwhole n.whole.nonempty
      | cons d ds =>
          have hdigit : d.isDigit = true := n.whole.digit d (hwhole ▸ List.mem_cons_self)
          exact ⟨d, _, rfl, .inr hdigit⟩

/-- A value does not start with space or a closing bracket, and only `null`
    starts like it. -/
theorem Tree.text_eq_cons (t : Tree) :
    ∃ c more, t.text = c :: more ∧ isSpace c = false ∧ c ≠ ']' ∧ (c = 'n' → t = .null) := by
  cases t with
  | null => exact ⟨'n', _, rfl, by decide, by decide, fun _ => rfl⟩
  | boolean b =>
      cases b with
      | true => exact ⟨'t', _, rfl, by decide, by decide, fun h => absurd h (by decide)⟩
      | false => exact ⟨'f', _, rfl, by decide, by decide, fun h => absurd h (by decide)⟩
  | number n =>
      rcases n.text_eq_cons with ⟨c, more, htext, hc⟩
      refine ⟨c, more, ?_, isSpace_of_startsNumber hc, ne_of_startsNumber hc (by decide),
        fun h => absurd h (ne_of_startsNumber hc (by decide))⟩
      rw [Tree.text, htext]
  | string pieces => exact ⟨'"', _, rfl, by decide, by decide, fun h => absurd h (by decide)⟩
  | list inner items => exact ⟨'[', _, rfl, by decide, by decide, fun h => absurd h (by decide)⟩
  | object inner members =>
      exact ⟨'\x7b', _, rfl, by decide, by decide, fun h => absurd h (by decide)⟩

/-- White space is what the reader takes for it. -/
theorem isSpace_of_mem {sp : Space} {c : Char} (hc : c ∈ sp.chars) : isSpace c = true := by
  have hlisted : [' ', '\t', '\n', '\r'].all isSpace = true := rfl
  exact List.all_eq_true.mp hlisted c (sp.blank c hc)

theorem skipSpace_append (sp : Space) (cs : List Char) : skipSpace (sp.chars ++ cs) = skipSpace cs :=
  List.dropWhile_append_of_pos fun _ => isSpace_of_mem

theorem skipSpace_chars (sp : Space) : skipSpace sp.chars = [] := by
  have hskip := skipSpace_append sp []
  rw [List.append_nil] at hskip
  exact hskip

/-- Space may stand before whatever follows a value. -/
theorem Ends.append (sp : Space) {rest : List Char} (h : Ends rest) : Ends (sp.chars ++ rest) := by
  unfold Ends
  cases hchars : sp.chars with
  | nil => exact h
  | cons c cs =>
      intro d hd
      simp only [List.cons_append, List.head?_cons, Option.mem_def, Option.some.injEq] at hd
      have hblank : isSpace c = true := isSpace_of_mem (hchars ▸ List.mem_cons_self)
      rw [← hd]
      exact .inr (.inr (.inr hblank))

end Layout

section Readers

variable {α : Type}

/-- A reader finds in the text of every tree what the tree denotes to it. -/
def Reads (read : Reader α) (meaning : Tree → Option α) : Prop :=
  ∀ t rest, Ends rest → (read (t.text ++ rest)).toOption = (meaning t).map fun x => (x, rest)

/-- The integer that a reader makes of a value. A zero with a sign in front is a
    floating-point number to it. -/
def Tree.readInteger? (t : Tree) : Option Int := if t.isSignedZero then none else t.integer?

/-- What a value denotes where it may be absent. -/
def Tree.orNull? (meaning : Tree → Option α) (t : Tree) : Option (Option α) :=
  match t with
  | .null => some none
  | t => (meaning t).map some

/-- A number that is not read as an integer denotes none within bounds that 64
    bits can gather. -/
theorem readInteger?_bind_eq_none {lo hi : Int} (hlo : -9223372036854775808 ≤ lo)
    (hhi : hi ≤ 18446744073709551615) (n : NumberText) {rest : List Char} (hrest : Ends rest)
    (h : ∀ i after, numeral (n.text ++ rest) ≠ .ok (.integer i, after)) :
    (Tree.number n).readInteger?.bind (Bounded.ofInt? : Int → Option (Bounded lo hi)) = none := by
  rw [Option.bind_eq_none_iff]
  intro i hdenoted
  rw [Tree.readInteger?, Option.ite_none_left_eq_some, Bool.not_eq_true] at hdenoted
  refine Bounded.ofInt?_eq_none fun hfits => h i rest ?_
  exact (numeral_eq_integer_iff n hrest).mpr
    ⟨hdenoted.2, hdenoted.1, rfl, Int.le_trans hlo hfits.1, Int.le_trans hfits.2 hhi⟩

theorem reads_integer {lo hi : Int} (hlo : -9223372036854775808 ≤ lo)
    (hhi : hi ≤ 18446744073709551615) (expected : String) :
    Reads (integer lo hi expected) fun t => t.readInteger?.bind Bounded.ofInt? := by
  intro t rest hrest
  cases t with
  | number n =>
      have hnone := readInteger?_bind_eq_none hlo hhi n hrest
      rcases n.text_eq_cons with ⟨c, more, htext, hc⟩
      have hcons : n.text ++ rest = c :: (more ++ rest) := by rw [htext, List.cons_append]
      rw [Tree.text, hcons, integer, skipSpace_cons (isSpace_of_startsNumber hc)]
      simp only [if_pos hc, ← hcons]
      -- An integer is within the bounds or not, anything else denotes none.
      cases hread : numeral (n.text ++ rest) with
      | error e =>
          rw [hnone fun i after h => by rw [hread] at h; cases h]
          rfl
      | ok result =>
          rcases result with ⟨i | x, after⟩
          · rcases (numeral_eq_integer_iff n hrest).mp hread with ⟨hdenoted, hsign, rfl, -⟩
            have hmade : (Tree.number n).readInteger? = some i :=
              Option.ite_none_left_eq_some.mpr ⟨Bool.not_eq_true _ ▸ hsign, hdenoted⟩
            simp only [bind, Except.bind, hmade, Option.bind_some]
            cases (Bounded.ofInt? i : Option (Bounded lo hi)) <;> rfl
          · rw [hnone fun i after h => by rw [hread] at h; cases h]
            rfl
  | boolean b => cases b <;> rfl
  | null => rfl
  | string pieces => rfl
  | list inner items => rfl
  | object inner members => rfl

theorem reads_text (expected : String) (check : String → Except Fault α) :
    Reads (text expected check) fun t =>
      t.string?.bind fun cs => (check (String.ofList cs)).toOption := by
  intro t rest hrest
  cases t with
  | string pieces =>
      rw [Tree.text, List.cons_append, text, skipSpace_cons (by decide)]
      simp only [toOption_bind, stringBody_pieces, Tree.string?]
      cases StringPiece.decode pieces with
      | none => rfl
      | some cs =>
          simp only [Option.map_some, Option.bind_some]
          cases check (String.ofList cs) <;> rfl
  | number n =>
      rcases n.text_eq_cons with ⟨c, more, htext, hc⟩
      rw [Tree.text, htext, List.cons_append, text, skipSpace_cons (isSpace_of_startsNumber hc)]
      split
      case h_1 heq =>
        rw [List.cons.injEq] at heq
        exact absurd heq.1 (ne_of_startsNumber hc (by decide))
      case h_2 => rfl
  | boolean b => cases b <;> rfl
  | null => rfl
  | list inner items => rfl
  | object inner members => rfl

theorem reads_boolean (expected : String) : Reads (boolean expected) Tree.boolean? := by
  intro t rest hrest
  cases t with
  | boolean b => cases b <;> rfl
  | number n =>
      rcases n.text_eq_cons with ⟨c, more, htext, hc⟩
      rw [Tree.text, htext, List.cons_append, boolean, skipSpace_cons (isSpace_of_startsNumber hc)]
      split
      case h_1 heq =>
        rw [List.cons.injEq] at heq
        exact absurd heq.1 (ne_of_startsNumber hc (by decide))
      case h_2 heq =>
        rw [List.cons.injEq] at heq
        exact absurd heq.1 (ne_of_startsNumber hc (by decide))
      case h_3 => rfl
  | null => rfl
  | string pieces => rfl
  | list inner items => rfl
  | object inner members => rfl

/-- An element and the elements after it, each part read as it denotes. -/
theorem element_then {item : Reader α} {meaning : Tree → Option α} (tail : Reader (List α))
    {value : Tree} {values : List Tree} {cs middle rest : List Char}
    (hread : (item cs).toOption = (meaning value).map fun x => (x, middle))
    (htail : (tail middle).toOption = (values.mapM meaning).map fun xs => (xs, rest)) :
    (do
      let (x, middle) ← item cs
      let (xs, rest) ← tail middle
      .ok (x :: xs, rest) : Except Fault (List α × List Char)).toOption =
      ((value :: values).mapM meaning).map fun xs => (xs, rest) := by
  rw [toOption_bind, hread, List.mapM_cons]
  cases meaning value with
  | none => rfl
  | some x =>
      simp only [Option.map_some, Option.bind_some, toOption_bind, htail]
      cases values.mapM meaning <;> rfl

/-- The elements of a list after its first, with the space in front of their
    commas. Each is read where the one before it has ended. -/
theorem moreItems_items {item : Reader α} {meaning : Tree → Option α} (hitem : Reads item meaning)
    (items : List (Item Tree)) {most : Nat} (hmost : items.length < most) (sp : Space)
    (rest : List Char) :
    (moreItems item most
        (sp.chars ++ ((itemTexts items).flatMap (fun u => ',' :: u) ++ ']' :: rest))).toOption =
      ((items.map Item.value).mapM meaning).map fun xs => (xs, rest) := by
  induction items generalizing most sp with
  | nil =>
      cases most with
      | zero => exact absurd hmost (Nat.not_lt_zero _)
      | succ most =>
          rw [moreItems, skipSpace_append]
          rfl
  | cons i items ih =>
      cases most with
      | zero => exact absurd hmost (Nat.not_lt_zero _)
      | succ most =>
          rcases i with ⟨before, value, after⟩
          have hends : Ends ((itemTexts items).flatMap (fun u => ',' :: u) ++ ']' :: rest) :=
            (delimited_elements _ (.inl rfl) rest).ends
          have hread := hitem value _ (hends.append after)
          have htail := ih (Nat.lt_of_succ_lt_succ hmost) after
          rw [itemTexts, moreItems, skipSpace_append]
          simp only [List.flatMap_cons, List.cons_append, List.append_assoc,
            skipSpace_cons (c := ',') (by decide), skipSpace_append]
          rcases value.text_eq_cons with ⟨c, more, htext, hspace, hclosing, -⟩
          rw [htext, List.cons_append] at hread ⊢
          rw [skipSpace_cons hspace]
          -- The element starts with something other than a closing bracket.
          split
          case h_1 heq => cases heq
          case h_2 heq =>
            rw [List.cons.injEq] at heq
            exact absurd heq.1 hclosing
          case h_3 =>
            exact element_then (moreItems item most) hread htail

theorem length_itemTexts (items : List (Item Tree)) : (itemTexts items).length = items.length := by
  induction items with
  | nil => rfl
  | cons i items ih => rw [itemTexts, List.length_cons, List.length_cons, ih]

theorem reads_list {item : Reader α} {meaning : Tree → Option α} (hitem : Reads item meaning)
    (expected : String) :
    Reads (list expected item) fun t => t.items?.bind fun ts => ts.mapM meaning := by
  intro t rest hrest
  cases t with
  | list inner items =>
      rw [Tree.text, List.cons_append, list, skipSpace_cons (by decide)]
      simp only [List.append_assoc, skipSpace_append, Tree.items?, Option.bind_some]
      cases items with
      | nil => rfl
      | cons i items =>
          rcases i with ⟨before, value, after⟩
          have hends : Ends ((itemTexts items).flatMap (fun u => ',' :: u) ++ ']' :: rest) :=
            (delimited_elements _ (.inl rfl) rest).ends
          have hread := hitem value _ (hends.append after)
          -- The reader takes its bound from the length of the text.
          have hlength : items.length < (after.chars ++
              ((itemTexts items).flatMap (fun u => ',' :: u) ++ ']' :: rest)).length + 1 := by
            have hcommas := length_le_elements (itemTexts items)
            rw [length_itemTexts] at hcommas
            simp only [List.length_append]
            omega
          have htail := moreItems_items hitem items hlength after rest
          -- The first element is read here, the others after it.
          rw [itemTexts, intercalate_cons]
          simp only [List.append_assoc, List.cons_append, List.nil_append, skipSpace_append]
          rcases value.text_eq_cons with ⟨c, more, htext, hspace, hclosing, -⟩
          rw [htext, List.cons_append] at hread ⊢
          rw [skipSpace_cons hspace]
          split
          case h_1 heq => cases heq
          case h_2 heq =>
            rw [List.cons.injEq] at heq
            exact absurd heq.1 hclosing
          case h_3 =>
            exact element_then (fun r => moreItems item (r.length + 1) r) hread htail
  | number n =>
      rcases n.text_eq_cons with ⟨c, more, htext, hc⟩
      rw [Tree.text, htext, List.cons_append, list, skipSpace_cons (isSpace_of_startsNumber hc)]
      split
      case h_1 heq =>
        rw [List.cons.injEq] at heq
        exact absurd heq.1 (ne_of_startsNumber hc (by decide))
      case h_2 => rfl
  | boolean b => cases b <;> rfl
  | null => rfl
  | string pieces => rfl
  | object inner members => rfl

theorem Tree.orNull?_of_ne {meaning : Tree → Option α} {t : Tree} (h : t ≠ .null) :
    t.orNull? meaning = (meaning t).map some := by
  cases t with
  | null => exact absurd rfl h
  | _ => rfl

/-- Where nothing but `null` may denote nothing, a value denotes what it does
    without that exception. -/
theorem Tree.orNull?_eq_some_iff {meaning : Tree → Option α} (hnull : meaning .null = none)
    {t : Tree} {x? : Option α} :
    t.orNull? meaning = some x? ↔ x? = meaning t ∧ (t ≠ .null → ∃ x, meaning t = some x) := by
  rcases Classical.em (t = .null) with rfl | hpresent
  · simp only [orNull?, Option.some.injEq, hnull, ne_eq, not_true_eq_false, false_implies,
      and_true, eq_comm]
  · rw [orNull?_of_ne hpresent]
    cases meaning t with
    | none =>
        simp only [Option.map_none, reduceCtorEq, exists_false, false_iff, not_and]
        exact fun _ h => h hpresent
    | some x =>
        simp only [Option.map_some, Option.some.injEq, exists_eq', implies_true, and_true, eq_comm]

/-- A value that may be absent is read as present or as `null`. -/
theorem reads_optional {item : Reader α} {meaning : Tree → Option α} (hitem : Reads item meaning) :
    Reads (optional item) fun t => t.orNull? meaning := by
  intro t rest hrest
  rcases Classical.em (t = .null) with rfl | hpresent
  · rfl
  · have hread := hitem t rest hrest
    rcases t.text_eq_cons with ⟨c, more, htext, hspace, -, hnull⟩
    rw [htext, List.cons_append] at hread ⊢
    rw [optional, skipSpace_cons hspace]
    split
    case h_1 heq => cases heq
    case h_2 heq =>
      rw [List.cons.injEq] at heq
      exact absurd (hnull heq.1) hpresent
    case h_3 =>
      simp only [toOption_bind, hread, Tree.orNull?_of_ne hpresent]
      cases meaning t <;> rfl

end Readers

end Json

end RowSieve
