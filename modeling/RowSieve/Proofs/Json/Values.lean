import RowSieve.Proofs.Json.Numbers
import RowSieve.Proofs.Json.Strings

/-!
# Values Read Back

The text of a value is read back by the reader of its type, whatever follows
it in a larger text. That is one statement for all readers, and it goes from
the elements to a list of them without knowing what they are.

A list and an optional value look one character ahead, to see a closing
bracket or the beginning of `null`. So it matters how the text of an element
starts, and `Written` carries that along.

## Main definitions

* `Written`: A text stands for a value.

## Theorems

* `written_text`, `written_integer`, `written_boolean`, `written_list`: The
  texts that are written for the four shapes of value.
* `Written.optional`, `optional_written`: A value where it may be absent.
* `Written.whole`: A value as a whole text.
-/

namespace RowSieve

namespace Json

variable {α β : Type}

/-- The text stands for the value: it starts like a value that is present, and
    the reader finds the value in front of whatever may follow. -/
structure Written (read : Reader α) (text : List Char) (x : α) : Prop where
  starts : ∃ c more, text = c :: more ∧ isSpace c = false ∧ c ≠ 'n' ∧ c ≠ ']'
  recovers : ∀ rest, Delimited rest → read (text ++ rest) = .ok (x, rest)

theorem skipSpace_cons {c : Char} (hc : isSpace c = false) (cs : List Char) :
    skipSpace (c :: cs) = c :: cs := by
  rw [skipSpace, List.dropWhile_cons_of_neg]
  rw [hc]
  exact Bool.false_ne_true

/-- A number starts with a minus sign or a digit, and with nothing else. -/
theorem ne_of_startsNumber {c d : Char} (hc : c = '-' ∨ c.isDigit = true)
    (hd : d ≠ '-' ∧ d.isDigit = false) : c ≠ d := by
  intro heq
  rw [heq] at hc
  rcases hc with hminus | hdigit
  · exact hd.1 hminus
  · rw [hd.2] at hdigit
    exact Bool.false_ne_true hdigit

theorem isSpace_of_startsNumber {c : Char} (hc : c = '-' ∨ c.isDigit = true) :
    isSpace c = false := by
  cases hspace : isSpace c with
  | false => rfl
  | true =>
      simp only [isSpace, Bool.or_eq_true, beq_iff_eq] at hspace
      rcases hspace with ((rfl | rfl) | rfl) | rfl <;> exact absurd hc (by decide)

/-- A string stands for what the check of its reader makes of it. -/
theorem written_text {expected : String} {check : String → Except Fault α} {cs : List Char} {x : α}
    (hcheck : check (String.ofList cs) = .ok x) :
    Written (text expected check) (stringText cs) x where
  starts := ⟨'"', _, rfl, by decide, by decide, by decide⟩
  recovers rest _ := by
    rw [stringText, List.append_assoc, List.cons_append, text, skipSpace_cons (by decide)]
    simp only [List.singleton_append, stringBody_escape, bind, Except.bind, hcheck]

/-- An integer stands for itself where the bounds of its reader are within 64
    bits. -/
theorem written_integer {lo hi : Int} (hlo : -9223372036854775808 ≤ lo)
    (hhi : hi ≤ 18446744073709551615) (expected : String) (n : Bounded lo hi) :
    Written (integer lo hi expected) (integerText n.val) n := by
  -- It starts with a minus sign or a digit.
  have hstart : ∃ c more, integerText n.val = c :: more ∧ (c = '-' ∨ c.isDigit = true) := by
    rw [integerText]
    cases n.val with
    | ofNat m =>
        rcases Decimal.digits_eq_cons m with ⟨d, ds, hds, hd⟩
        exact ⟨d, ds, hds, .inr hd⟩
    | negSucc m => exact ⟨'-', _, rfl, .inl rfl⟩
  rcases hstart with ⟨c, more, htext, hc⟩
  have hspace : isSpace c = false ∧ c ≠ 'n' ∧ c ≠ ']' :=
    ⟨isSpace_of_startsNumber hc, ne_of_startsNumber hc (by decide),
      ne_of_startsNumber hc (by decide)⟩
  refine ⟨⟨c, more, htext, hspace⟩, fun rest hrest => ?_⟩
  have hread := numeral_signed (Int.le_trans hlo n.lower) (Int.le_trans n.upper hhi) hrest
  rw [← integerText, htext, List.cons_append] at hread
  rw [htext, List.cons_append, integer, skipSpace_cons hspace.1]
  have hfits : Bounded.ofInt? n.val = some n := Bounded.ofInt?_eq_some ⟨n.lower, n.upper⟩
  simp only [if_pos hc, hread, hfits, bind, Except.bind]

/-- So does a truth value. -/
theorem written_boolean (expected : String) (b : Bool) :
    Written (boolean expected) (booleanText b) b where
  starts := by
    cases b with
    | true => exact ⟨'t', _, rfl, by decide, by decide, by decide⟩
    | false => exact ⟨'f', _, rfl, by decide, by decide, by decide⟩
  recovers rest _ := by
    cases b <;> rfl

/-- The elements of a list after its first, each behind a comma. -/
theorem intercalate_cons (t : List Char) (ts : List (List Char)) :
    [','].intercalate (t :: ts) = t ++ ts.flatMap fun u => ',' :: u := by
  induction ts generalizing t with
  | nil => rw [List.intercalate_singleton, List.flatMap_nil, List.append_nil]
  | cons u ts ih =>
      rw [List.intercalate_cons_cons, ih u, List.flatMap_cons, List.append_assoc,
        List.singleton_append, List.cons_append]

/-- After an element comes a comma or the closing bracket. -/
theorem delimited_elements (ts : List (List Char)) {close : Char}
    (hclose : close = ']' ∨ close = '}') (rest : List Char) :
    Delimited (ts.flatMap (fun u => ',' :: u) ++ close :: rest) := by
  cases ts with
  | nil => exact delimited_cons (.inr hclose) rest
  | cons t ts => exact delimited_cons (.inl rfl) _

/-- Each element adds at least its comma to the text. -/
theorem length_le_elements (ts : List (List Char)) :
    ts.length ≤ (ts.flatMap fun u => ',' :: u).length := by
  induction ts with
  | nil => exact Nat.le_refl 0
  | cons t ts ih =>
      rw [List.flatMap_cons, List.length_append, List.length_cons, List.length_cons]
      omega

/-- They are read one after the other. Every one of them takes a comma, so the
    text is always longer than the list. -/
theorem moreItems_written {item : Reader α} {json : β → List Char} {value : β → α} {xs : List β}
    (h : ∀ x ∈ xs, Written item (json x) (value x)) {most : Nat} (hmost : xs.length < most)
    (rest : List Char) :
    moreItems item most ((xs.map json).flatMap (fun u => ',' :: u) ++ ']' :: rest) =
      .ok (xs.map value, rest) := by
  induction xs generalizing most with
  | nil =>
      cases most with
      | zero => exact absurd hmost (Nat.not_lt_zero _)
      | succ most => rfl
  | cons x xs ih =>
      cases most with
      | zero => exact absurd hmost (Nat.not_lt_zero _)
      | succ most =>
          have hx := h x List.mem_cons_self
          have htail := ih (fun y hy => h y (List.mem_cons_of_mem _ hy))
            (Nat.lt_of_succ_lt_succ hmost)
          have hread := hx.recovers _ (delimited_elements (xs.map json) (.inl rfl) rest)
          rcases hx.starts with ⟨c, more, htext, hspace, -, hclosing⟩
          rw [List.map_cons, List.flatMap_cons, List.append_assoc, List.cons_append, moreItems,
            skipSpace_cons (by decide)]
          rw [htext, List.cons_append] at hread
          simp only [htext, List.cons_append, skipSpace_cons hspace]
          -- The element starts with something other than a closing bracket.
          split
          case h_1 heq => cases heq
          case h_2 heq =>
            rw [List.cons.injEq] at heq
            exact absurd heq.1 hclosing
          case h_3 =>
            simp only [hread, htail, bind, Except.bind, List.map_cons]

/-- A list stands for its elements if every text in it stands for its element. -/
theorem written_list {item : Reader α} {json : β → List Char} {value : β → α}
    (expected : String) {xs : List β} (h : ∀ x ∈ xs, Written item (json x) (value x)) :
    Written (list expected item) (listText (xs.map json)) (xs.map value) where
  starts := ⟨'[', _, rfl, by decide, by decide, by decide⟩
  recovers rest _ := by
    cases xs with
    | nil => rfl
    | cons x xs =>
        have hx := h x List.mem_cons_self
        have hread := hx.recovers _ (delimited_elements (xs.map json) (.inl rfl) rest)
        -- The reader takes its bound from the length of the text.
        have hlength : xs.length <
            ((xs.map json).flatMap (fun u => ',' :: u) ++ ']' :: rest).length + 1 := by
          have hcommas := length_le_elements (xs.map json)
          rw [List.length_map] at hcommas
          rw [List.length_append]
          omega
        have htail := moreItems_written (fun y hy => h y (List.mem_cons_of_mem _ hy)) hlength rest
        rcases hx.starts with ⟨c, more, htext, hspace, -, hclosing⟩
        rw [listText, List.map_cons, intercalate_cons, List.append_assoc, List.cons_append,
          List.append_assoc, list, skipSpace_cons (by decide)]
        rw [htext, List.cons_append] at hread
        simp only [htext, List.cons_append, List.nil_append, skipSpace_cons hspace]
        split
        case h_1 heq => cases heq
        case h_2 heq =>
          rw [List.cons.injEq] at heq
          exact absurd heq.1 hclosing
        case h_3 =>
          simp only [hread, htail, bind, Except.bind, List.map_cons]

/-- A value that is present is read where it may be absent. -/
theorem Written.optional {item : Reader α} {text : List Char} {x : α} (h : Written item text x)
    {rest : List Char} (hrest : Delimited rest) :
    Json.optional item (text ++ rest) = .ok (some x, rest) := by
  have hread := h.recovers rest hrest
  rcases h.starts with ⟨c, more, htext, hspace, hnull, -⟩
  rw [htext, List.cons_append] at hread ⊢
  rw [Json.optional, skipSpace_cons hspace]
  -- It does not start like `null`.
  split
  case h_1 heq => cases heq
  case h_2 heq =>
    rw [List.cons.injEq] at heq
    exact absurd heq.1 hnull
  case h_3 =>
    rw [hread]
    rfl

/-- An absent value is written as `null`. -/
theorem optional_null (item : Reader α) (rest : List Char) :
    Json.optional item (nullText ++ rest) = .ok (none, rest) := by
  rfl

/-- So a value that may be absent is read back in either case. -/
theorem optional_written {item : Reader α} {json : β → List Char} {value : β → α} {o : Option β}
    (h : ∀ x, o = some x → Written item (json x) (value x)) {rest : List Char}
    (hrest : Delimited rest) :
    Json.optional item ((o.map json).getD nullText ++ rest) = .ok (o.map value, rest) := by
  cases o with
  | none => exact optional_null item rest
  | some x => exact (h x rfl).optional hrest

/-- A value that is all there is. -/
theorem Written.whole {item : Reader α} {text : List Char} {x : α} (h : Written item text x) :
    Json.whole item (String.ofList text) = .ok x := by
  have hread := h.recovers [] delimited_nil
  rw [List.append_nil] at hread
  rw [Json.whole, String.toList_ofList, hread]
  rfl

end Json

end RowSieve
