import Mathlib.Data.List.Forall2
import RowSieve.Proofs.Json.Objects

/-!
# What a Positional Record Denotes

A record may be written as a list of its members instead of an object. The two
forms are read by different parts of the reader. One finds the key of a member
in the text and strikes it off those that may still come. The other finds no
keys and takes them in the order in which the record lists them, so it depends
on that order, and on nothing else that the first one depends on.

`Form.arrange` is the second pass without the text, as `Form.collect` is the
first. Along an object whose entries come in the order of the record the key
that is struck off is always the foremost one, so what is left is the same in
both passes, and they assign the same operands to the same keys. They can only
differ at the end of a list that is too short, if the record wants all its
members, or too long.

With both forms at hand the reader of a record is described on every value:
what is neither a list nor an object denotes no record.

## Main definitions

* `ListText`: A text that holds one list.
* `Form.arrange`: The record that the values of a list denote.
* `Form.denoted?`: The record that a value denotes in either form.

## Theorems

* `Form.positions_end`, `Form.positions_full`: Where a list ends and where it
  must.
* `Form.positions_first`, `Form.positions_comma`: The foremost key gets the next
  value.
* `Form.read_list`: A list is read as its values denote.
* `Form.reads`: A record is read as it is denoted, in either form.
* `toOption_whole`: So is a text that holds one value.
* `Form.collect_eq_arrange`: Entries in the order of the keys are collected as
  their values are arranged.
* `Form.arrange_of_longer`, `Form.arrange_of_shorter`: Lists of other lengths.
-/

namespace RowSieve

namespace Json

/-- A text that holds one list and nothing else. -/
structure ListText where
  before : Space
  inner : Space
  items : List (Item Tree)
  after : Space

namespace ListText

def text (l : ListText) : String :=
  String.ofList (l.before.chars ++ ((Tree.list l.inner l.items).text ++ l.after.chars))

/-- The values of a list, as they come. -/
def values (l : ListText) : List Tree := l.items.map Item.value

end ListText

namespace Form

variable {κ : Type} [DecidableEq κ] {V : κ → Type}

/-- The record that the values of a list denote, in addition to what is known so
    far. They belong to the keys that are left, one after the other. -/
def arrange (form : Form κ) (meaning : (k : κ) → Tree → Option (Option (V k))) :
    (left : List κ) → Members V → List Tree → Option (Members V)
  | [], m, [] => some m
  | [], _, _ :: _ => none
  | _ :: _, m, [] => if form.mayBeShort then some m else none
  | k :: left, m, t :: ts => do
    let v ← meaning k t
    arrange form meaning left (m.assign k v) ts

/-- The record that a value denotes, as an object or as a list. -/
def denoted? (form : Form κ) (meaning : (k : κ) → Tree → Option (Option (V k))) :
    Tree → Option (Members V)
  | .object _ members => form.collect meaning form.keys Members.none (members.map Member.entry)
  | .list _ items => form.arrange meaning form.keys Members.none (items.map Item.value)
  | _ => none

section Reading

variable {form : Form κ} {item : (k : κ) → Reader (V k)}
  {meaning : (k : κ) → Tree → Option (Option (V k))}

/-- A list ends whatever keys are left, if it may. -/
theorem positions_end (left : List κ) (seen : Nat) (m : Members V) (sp : Space)
    (rest : List Char) :
    (form.positions item left seen m (sp.chars ++ ']' :: rest)).toOption =
      (form.arrange meaning left m []).map fun r => (r, rest) := by
  cases left with
  | nil =>
      rw [positions, closeList, skipSpace_append]
      rfl
  | cons k left =>
      rw [positions, skipSpace_append]
      simp only [arrange, skipSpace_cons (c := ']') (by decide)]
      split <;> rfl

/-- A list does not go on when no key is left. -/
theorem positions_full {seen : Nat} {m : Members V} {cs : List Char}
    (h : ∀ rest, skipSpace cs ≠ ']' :: rest) :
    (form.positions item [] seen m cs).toOption = none := by
  have hclose : (closeList cs).toOption = none := by
    unfold closeList
    split
    case h_1 => rfl
    case h_2 heq => exact absurd heq (h _)
    case h_3 => split <;> rfl
    case h_4 => rfl
  rw [positions, toOption_bind, hclose, Option.bind_none]

/-- The first value of a list is read for the foremost key. -/
theorem positions_first (k : κ) (left : List κ) (m : Members V) (sp before : Space)
    (value : Tree) (tail : List Char) :
    form.positions item (k :: left) 0 m (sp.chars ++ (before.chars ++ (value.text ++ tail))) =
      (do
        let (v, rest) ← optional (item k) (value.text ++ tail)
        positions form item left 1 (m.assign k v) rest) := by
  rcases value.text_eq_cons with ⟨c, more, htext, hspace, hclosing, -⟩
  rw [positions, skipSpace_append, skipSpace_append, htext, List.cons_append,
    skipSpace_cons hspace]
  -- A value starts with something other than a closing bracket.
  split
  case h_1 heq => cases heq
  case h_2 heq => exact absurd (List.cons.inj heq).1 hclosing
  case h_3 heq => rw [if_pos rfl, ← heq]

/-- So is every later one, with a comma in front of it. -/
theorem positions_comma {seen : Nat} (hseen : seen ≠ 0) (k : κ) (left : List κ) (m : Members V)
    (sp before : Space) (value : Tree) (tail : List Char) :
    form.positions item (k :: left) seen m
        (sp.chars ++ ',' :: (before.chars ++ (value.text ++ tail))) =
      (do
        let (v, rest) ← optional (item k) (value.text ++ tail)
        positions form item left (seen + 1) (m.assign k v) rest) := by
  rcases value.text_eq_cons with ⟨c, more, htext, hspace, hclosing, -⟩
  rw [positions, skipSpace_append, skipSpace_cons (by decide)]
  refine ((if_neg hseen).trans (if_pos rfl)).trans ?_
  rw [skipSpace_append, htext, List.cons_append, skipSpace_cons hspace]
  split
  case h_1 heq => cases heq
  case h_2 heq => exact absurd (List.cons.inj heq).1 hclosing
  case h_3 => rfl

/-- One value and those after it, each part read as it denotes. -/
theorem position_then {k : κ} {left : List κ} {seen : Nat} {m : Members V} {value : Tree}
    {values : List Tree} {cs middle rest : List Char}
    (hread : (optional (item k) cs).toOption = (meaning k value).map fun v => (v, middle))
    (htail : ∀ m, (form.positions item left seen m middle).toOption =
      (form.arrange meaning left m values).map fun r => (r, rest)) :
    (do
      let (v, rest) ← optional (item k) cs
      positions form item left seen (m.assign k v) rest :
        Except Fault (Members V × List Char)).toOption =
      (form.arrange meaning (k :: left) m (value :: values)).map fun r => (r, rest) := by
  rw [toOption_bind, hread, arrange]
  cases meaning k value with
  | none => rfl
  | some v => exact htail (m.assign k v)

/-- The values of a list after its first, with the space in front of their
    commas. The keys that are left are those that no value was read for. -/
theorem positions_items (hitem : ∀ k, Reads (optional (item k)) (meaning k))
    (items : List (Item Tree)) (left : List κ) {seen : Nat} (hseen : seen ≠ 0) (m : Members V)
    (sp : Space) (rest : List Char) :
    (form.positions item left seen m
        (sp.chars ++ ((itemTexts items).flatMap (fun u => ',' :: u) ++ ']' :: rest))).toOption =
      (form.arrange meaning left m (items.map Item.value)).map fun r => (r, rest) := by
  induction items generalizing left seen m sp with
  | nil => exact positions_end left seen m sp rest
  | cons i items ih =>
      rcases i with ⟨before, value, after⟩
      have hends : Ends ((itemTexts items).flatMap (fun u => ',' :: u) ++ ']' :: rest) :=
        (delimited_elements _ (.inl rfl) rest).ends
      rw [itemTexts]
      simp only [List.flatMap_cons, List.cons_append, List.append_assoc, List.map_cons]
      cases left with
      | nil =>
          refine positions_full fun after heq => ?_
          rw [skipSpace_append, skipSpace_cons (by decide)] at heq
          exact absurd (List.cons.inj heq).1 (by decide)
      | cons k left =>
          rw [positions_comma hseen]
          exact position_then (hitem k value _ (hends.append after)) fun m =>
            ih left (Nat.succ_ne_zero seen) m after

/-- A list is read as its values denote, whatever its layout. -/
theorem read_list (hitem : ∀ k, Reads (optional (item k)) (meaning k)) (before inner : Space)
    (items : List (Item Tree)) (rest : List Char) :
    (form.read item (before.chars ++ ((Tree.list inner items).text ++ rest))).toOption =
      (form.arrange meaning form.keys Members.none (items.map Item.value)).map
        fun r => (r, rest) := by
  rw [read, skipSpace_append, Tree.text, List.cons_append, skipSpace_cons (by decide)]
  simp only [List.append_assoc]
  cases items with
  | nil => exact positions_end form.keys 0 Members.none inner rest
  | cons i items =>
      rcases i with ⟨first, value, after⟩
      have hends : Ends ((itemTexts items).flatMap (fun u => ',' :: u) ++ ']' :: rest) :=
        (delimited_elements _ (.inl rfl) rest).ends
      rw [itemTexts, intercalate_cons]
      simp only [List.append_assoc, List.map_cons]
      cases form.keys with
      | nil =>
          refine positions_full fun after heq => ?_
          rcases value.text_eq_cons with ⟨c, more, htext, hc, hclosing, -⟩
          rw [skipSpace_append, skipSpace_append, htext, List.cons_append, skipSpace_cons hc]
            at heq
          exact hclosing (List.cons.inj heq).1
      | cons k left =>
          rw [positions_first]
          exact position_then (hitem k value _ (hends.append after)) fun m =>
            positions_items hitem items left Nat.one_ne_zero m after rest

/-- A record is read as it is denoted, in either form. What is neither an object
    nor a list is refused. -/
theorem reads (hitem : ∀ k, Reads (optional (item k)) (meaning k)) :
    Reads (form.read item) (form.denoted? meaning) := by
  intro t rest hrest
  cases t with
  | object inner members => exact read_object hitem ⟨[], List.forall_mem_nil _⟩ inner members rest
  | list inner items => exact read_list hitem ⟨[], List.forall_mem_nil _⟩ inner items rest
  | number n =>
      rcases n.text_eq_cons with ⟨c, more, htext, hc⟩
      rw [Tree.text, htext, List.cons_append, read, skipSpace_cons (isSpace_of_startsNumber hc)]
      split
      case h_1 heq =>
        rw [List.cons.injEq] at heq
        exact absurd heq.1 (ne_of_startsNumber hc (by decide))
      case h_2 heq =>
        rw [List.cons.injEq] at heq
        exact absurd heq.1 (ne_of_startsNumber hc (by decide))
      case h_3 => rfl
  | boolean b => cases b <;> rfl
  | null => rfl
  | string pieces => rfl

theorem read_append (sp : Space) (cs : List Char) :
    form.read item (sp.chars ++ cs) = form.read item cs := by
  unfold read
  rw [skipSpace_append]

end Reading

section Order

variable {form : Form κ} {meaning : (k : κ) → Tree → Option (Option (V k))}

/-- Entries in the order of the keys are collected as their values are
    arranged. Each takes the foremost key of those that are left. -/
theorem collect_eq_arrange {es : List Entry} {left : List κ} (m : Members V)
    (hkeys : es.map form.keyOf? = (left.take es.length).map some)
    (hlength : es.length = left.length ∨ form.mayBeShort = true) :
    form.collect meaning left m es = form.arrange meaning left m (es.map Entry.value) := by
  induction es generalizing left m with
  | nil =>
      cases left with
      | nil => rfl
      | cons k left =>
          rcases hlength with hlength | hshort
          · cases hlength
          · rw [collect, List.map_nil, arrange, if_pos hshort]
  | cons e es ih =>
      cases left with
      | nil => cases hkeys
      | cons k left =>
          simp only [List.map_cons, List.length_cons, List.take_succ_cons, List.cons.injEq]
            at hkeys
          have hrest : es.length = left.length ∨ form.mayBeShort = true :=
            hlength.imp_left Nat.succ.inj
          simp only [collect, hkeys.1, List.map_cons, arrange, Option.bind_eq_bind,
            Option.bind_some, if_pos List.mem_cons_self, List.erase_cons_head,
            ih _ hkeys.2 hrest]

/-- A list with more values than there are keys denotes no record. -/
theorem arrange_of_longer {left : List κ} {ts : List Tree} (m : Members V)
    (h : left.length < ts.length) : form.arrange meaning left m ts = none := by
  induction ts generalizing left m with
  | nil => exact absurd h (Nat.not_lt_zero _)
  | cons t ts ih =>
      cases left with
      | nil => rfl
      | cons k left =>
          rw [arrange, Option.bind_eq_bind, Option.bind_eq_none_iff]
          exact fun v _ => ih _ (Nat.lt_of_succ_lt_succ h)

/-- Nor does one with fewer, if the record wants all its members. -/
theorem arrange_of_shorter (hshort : form.mayBeShort = false) {left : List κ} {ts : List Tree}
    (m : Members V) (h : ts.length < left.length) : form.arrange meaning left m ts = none := by
  induction ts generalizing left m with
  | nil =>
      cases left with
      | nil => exact absurd h (Nat.lt_irrefl _)
      | cons k left => rw [arrange, if_neg (Bool.not_eq_true _ ▸ hshort)]
  | cons t ts ih =>
      cases left with
      | nil => exact absurd h (Nat.not_lt_zero _)
      | cons k left =>
          rw [arrange, Option.bind_eq_bind, Option.bind_eq_none_iff]
          exact fun v _ => ih _ (Nat.lt_of_succ_lt_succ h)

/-- Values that denote the same for every key may be put in the place of each
    other. -/
theorem arrange_congr {left : List κ} {ts us : List Tree} (m : Members V)
    (h : List.Forall₂ (fun t u => ∀ k, meaning k t = meaning k u) ts us) :
    form.arrange meaning left m ts = form.arrange meaning left m us := by
  induction h generalizing left m with
  | nil => rfl
  | cons hsame _ ih =>
      cases left with
      | nil => rfl
      | cons k left => simp only [arrange, hsame k, ih]

/-- The keys of entries are found by their texts. -/
theorem map_keyOf?_of_names {κ : Type} {form : Form κ} (hnames : form.Distinct) {ks : List κ}
    (hkeys : ∀ k ∈ ks, k ∈ form.keys) {es : List Entry}
    (h : es.map Entry.key? = (ks.map form.name).map some) :
    es.map form.keyOf? = ks.map some := by
  have hbind : es.map form.keyOf? = (es.map Entry.key?).map (·.bind form.key?) := by
    rw [List.map_map]
    rfl
  rw [hbind, h, List.map_map, List.map_map]
  exact List.map_congr_left fun k hk => hnames k (hkeys k hk)

end Order

end Form

/-- A text that holds one value is read as the value denotes, if the reader
    skips the space in front of it. -/
theorem toOption_whole {α : Type} {item : Reader α} {meaning : Tree → Option α}
    (hitem : Reads item meaning) (hskips : ∀ (sp : Space) cs, item (sp.chars ++ cs) = item cs)
    (before : Space) (t : Tree) (after : Space) :
    (whole item (String.ofList (before.chars ++ (t.text ++ after.chars)))).toOption =
      meaning t := by
  have hends : Ends after.chars := by
    have h : Ends (after.chars ++ []) := Ends.append after (by nofun)
    rwa [List.append_nil] at h
  rw [whole, String.toList_ofList, hskips, toOption_bind, hitem t _ hends, Option.bind_map]
  cases meaning t with
  | none => rfl
  | some x =>
      simp only [Option.bind_some, Function.comp_apply, skipSpace_chars, List.isEmpty_nil, if_true]
      rfl

end Json

end RowSieve
