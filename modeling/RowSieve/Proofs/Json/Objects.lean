import RowSieve.Proofs.Json.Denotation
import RowSieve.Proofs.Json.Records

/-!
# What an Object Denotes

The reader of records goes through the members of an object once, with the
record as it is so far and the keys that may still come. `Form.collect` is that
pass without the text: it consumes the entries of an object instead, and
`object_members` says that nothing else happens.

From the pass follows what does not depend on any order. An object is accepted
if every entry belongs to a key of the record, no two of them to the same key,
and every value denotes something for its key. The record then holds what the
values denote, and nothing for a key without an entry. The pass keeps this
true: a key that was seen cannot come again, so what is assigned once stays.

## Main definitions

* `Form.keyOf?`: The key of a record that an entry belongs to.
* `Form.collect`: The record that the entries of an object denote.

## Theorems

* `Form.read_object`: An object is read as its entries denote.
* `Form.collect_eq_some_iff`: Which record that is.
-/

namespace RowSieve

namespace Json

namespace Form

variable {κ : Type} [DecidableEq κ] {V : κ → Type}

/-- The key of the record that an entry belongs to. -/
def keyOf? (form : Form κ) (e : Entry) : Option κ := e.key?.bind form.key?

/-- The record that the entries of an object denote, in addition to what is
    known so far. Each takes one of the keys that are left. -/
def collect (form : Form κ) (meaning : (k : κ) → Tree → Option (Option (V k))) :
    (left : List κ) → Members V → List Entry → Option (Members V)
  | _, m, [] => some m
  | left, m, e :: es => do
    let k ← form.keyOf? e
    if k ∈ left then
      let v ← meaning k e.value
      collect form meaning (left.erase k) (m.assign k v) es
    else none

section Reading

variable {form : Form κ} {item : (k : κ) → Reader (V k)}
  {meaning : (k : κ) → Tree → Option (Option (V k))}

theorem colon_append (sp : Space) (more : List Char) :
    colon (sp.chars ++ ':' :: more) = .ok more := by
  rw [colon, skipSpace_append]
  rfl

theorem optional_append {α : Type} (read : Reader α) (sp : Space) (cs : List Char) :
    optional read (sp.chars ++ cs) = optional read cs := by
  unfold optional
  rw [skipSpace_append]

/-- A key is found if it denotes one of those that are left. -/
theorem keyHere_pieces (left : List κ) (key : List StringPiece) (sp : Space) (more : List Char) :
    (form.keyHere left (StringPiece.body key ++ (sp.chars ++ ':' :: more))).toOption =
      (((StringPiece.decode key).map String.ofList).bind form.key?).bind fun k =>
        if h : k ∈ left then some (⟨k, h⟩, more) else none := by
  rw [keyHere, toOption_bind, stringBody_pieces]
  cases StringPiece.decode key with
  | none => rfl
  | some cs =>
      simp only [Option.map_some, Option.bind_some]
      cases form.key? (String.ofList cs) with
      | none => rfl
      | some k =>
          simp only [Option.bind_some, colon_append]
          by_cases hleft : k ∈ left
          · simp only [dif_pos hleft]
            rfl
          · simp only [dif_neg hleft]
            rfl

/-- One member and those after it, each part read as it denotes. -/
theorem member_then (hitem : ∀ k, Reads (optional (item k)) (meaning k)) (left : List κ)
    (m : Members V) (member : Member Tree) {entries : List Entry} {tail rest : List Char}
    (hends : Ends tail)
    (htail : ∀ left m, (form.moreMembers item left m (member.after.chars ++ tail)).toOption =
      (form.collect meaning left m entries).map fun r => (r, rest)) :
    (do
      let (k, rest) ← form.keyHere left (StringPiece.body member.key ++
        (member.beforeColon.chars ++ ':' :: (member.afterColon.chars ++
          (member.value.text ++ (member.after.chars ++ tail)))))
      let (v, rest) ← optional (item k.val) rest
      moreMembers form item (left.erase k.val) (m.assign k.val v) rest :
        Except Fault (Members V × List Char)).toOption =
      (form.collect meaning left m (member.entry :: entries)).map fun r => (r, rest) := by
  rw [toOption_bind, keyHere_pieces, collect, keyOf?, Member.entry]
  cases ((StringPiece.decode member.key).map String.ofList).bind form.key? with
  | none => rfl
  | some k =>
      simp only [Option.bind_some, Option.bind_eq_bind]
      by_cases hleft : k ∈ left
      · have hvalue := hitem k member.value _ (hends.append member.after)
        simp only [dif_pos hleft, if_pos hleft, Option.bind_some, optional_append]
        rw [toOption_bind, hvalue]
        cases meaning k member.value with
        | none => rfl
        | some v => exact htail (left.erase k) (m.assign k v)
      · simp only [dif_neg hleft, if_neg hleft, Option.bind_none, Option.map_none]

/-- The text of a member is its key in quotes, a colon and its value. -/
theorem memberTexts_cons (member : Member Tree) (members : List (Member Tree)) :
    memberTexts (member :: members) =
      (member.before.chars ++ '"' :: (StringPiece.body member.key ++
        (member.beforeColon.chars ++ ':' :: (member.afterColon.chars ++
          (member.value.text ++ member.after.chars))))) :: memberTexts members := by
  rw [memberTexts]

/-- The members of an object after its first, with the space in front of their
    commas. -/
theorem moreMembers_members (hitem : ∀ k, Reads (optional (item k)) (meaning k))
    (members : List (Member Tree)) (left : List κ) (m : Members V) (sp : Space)
    (rest : List Char) :
    (form.moreMembers item left m
        (sp.chars ++ ((memberTexts members).flatMap (fun u => ',' :: u) ++ '\x7d' :: rest))).toOption =
      (form.collect meaning left m (members.map Member.entry)).map fun r => (r, rest) := by
  induction members generalizing left m sp with
  | nil =>
      rw [moreMembers, skipSpace_append]
      rfl
  | cons member members ih =>
      have hends : Ends ((memberTexts members).flatMap (fun u => ',' :: u) ++ '\x7d' :: rest) :=
        (delimited_elements _ (.inr rfl) rest).ends
      rw [List.map_cons, moreMembers, skipSpace_append, memberTexts_cons]
      simp only [List.flatMap_cons, List.cons_append, List.append_assoc,
        skipSpace_cons (c := ',') (by decide), skipSpace_append,
        skipSpace_cons (c := '"') (by decide)]
      exact member_then hitem left m member hends fun left m => ih left m member.after

/-- An object is read as its entries denote, whatever its layout. -/
theorem read_object (hitem : ∀ k, Reads (optional (item k)) (meaning k)) (before inner : Space)
    (members : List (Member Tree)) (rest : List Char) :
    (form.read item (before.chars ++ ((Tree.object inner members).text ++ rest))).toOption =
      (form.collect meaning form.keys Members.none (members.map Member.entry)).map
        fun r => (r, rest) := by
  rw [read, skipSpace_append, Tree.text, List.cons_append, skipSpace_cons (by decide)]
  simp only [object, List.append_assoc, skipSpace_append]
  cases members with
  | nil => rfl
  | cons member members =>
      have hends : Ends ((memberTexts members).flatMap (fun u => ',' :: u) ++ '\x7d' :: rest) :=
        (delimited_elements _ (.inr rfl) rest).ends
      rw [memberTexts_cons, intercalate_cons]
      simp only [List.append_assoc, List.cons_append, List.nil_append, skipSpace_append,
        skipSpace_cons (c := '"') (by decide)]
      exact member_then hitem form.keys Members.none member hends fun left m =>
        moreMembers_members hitem members left m member.after rest

end Reading

section Entries

variable {form : Form κ} {meaning : (k : κ) → Tree → Option (Option (V k))}

theorem collect_cons {left : List κ} {m r : Members V} {e : Entry} {es : List Entry} :
    form.collect meaning left m (e :: es) = some r ↔
      ∃ k, form.keyOf? e = some k ∧ k ∈ left ∧ ∃ v, meaning k e.value = some v ∧
        form.collect meaning (left.erase k) (m.assign k v) es = some r := by
  simp only [collect, Option.bind_eq_bind, Option.bind_eq_some_iff, Option.ite_none_right_eq_some]

/-- What the entries of an object come to. Every entry takes a key that is
    left and no two take the same, a key that is taken gets what its value
    denotes, and every other key keeps what it had. -/
theorem collect_eq_some_iff {left : List κ} (hleft : left.Nodup) {m r : Members V}
    {es : List Entry} :
    form.collect meaning left m es = some r ↔
      (∀ e ∈ es, ∃ k ∈ left, form.keyOf? e = some k ∧ meaning k e.value = some (r k)) ∧
        (es.map form.keyOf?).Nodup ∧ ∀ k, (∀ e ∈ es, form.keyOf? e ≠ some k) → r k = m k := by
  induction es generalizing left m with
  | nil =>
      simp only [collect, Option.some.injEq, List.not_mem_nil, false_implies, implies_true,
        List.map_nil, List.nodup_nil, true_and, true_implies]
      exact ⟨fun h k => h ▸ rfl, fun h => funext fun k => (h k).symm⟩
  | cons e es ih =>
      rw [collect_cons]
      constructor
      · intro h
        rcases h with ⟨k, hkey, hk, v, hvalue, hrest⟩
        rcases (ih (hleft.erase k)).mp hrest with ⟨htaken, hdistinct, hkept⟩
        -- The key is gone from those that are left, so it does not come again.
        have hfresh : ∀ d ∈ es, form.keyOf? d ≠ some k := by
          intro d hd heq
          rcases htaken d hd with ⟨j, hj, hjkey, -⟩
          rw [heq, Option.some.injEq] at hjkey
          exact (hleft.mem_erase_iff.mp hj).1 hjkey.symm
        have hassigned : r k = v := by
          rw [hkept k hfresh, Members.assign_self]
        refine ⟨?_, ?_, ?_⟩
        · intro d hd
          rcases List.mem_cons.mp hd with rfl | hd
          · exact ⟨k, hk, hkey, hassigned ▸ hvalue⟩
          · rcases htaken d hd with ⟨j, hj, hrest⟩
            exact ⟨j, List.mem_of_mem_erase hj, hrest⟩
        · rw [List.map_cons, List.nodup_cons, hkey]
          refine ⟨fun hmem => ?_, hdistinct⟩
          rcases List.mem_map.mp hmem with ⟨d, hd, heq⟩
          exact hfresh d hd heq
        · intro j hj
          have hne : j ≠ k := fun heq => hj e List.mem_cons_self (heq ▸ hkey)
          rw [hkept j fun d hd => hj d (List.mem_cons_of_mem _ hd), Members.assign_of_ne m hne]
      · intro h
        rcases h with ⟨htaken, hdistinct, hkept⟩
        rcases htaken e List.mem_cons_self with ⟨k, hk, hkey, hvalue⟩
        rw [List.map_cons, List.nodup_cons, hkey] at hdistinct
        refine ⟨k, hkey, hk, r k, hvalue, (ih (hleft.erase k)).mpr ⟨?_, hdistinct.2, ?_⟩⟩
        · intro d hd
          rcases htaken d (List.mem_cons_of_mem _ hd) with ⟨j, hj, hjkey, hrest⟩
          have hne : j ≠ k := by
            intro heq
            rw [heq] at hjkey
            exact hdistinct.1 (List.mem_map.mpr ⟨d, hd, hjkey⟩)
          exact ⟨j, (List.mem_erase_of_ne hne).mpr hj, hjkey, hrest⟩
        · intro j hj
          by_cases heq : j = k
          · rw [heq, Members.assign_self]
          · rw [Members.assign_of_ne m heq]
            refine hkept j fun d hd => ?_
            rcases List.mem_cons.mp hd with rfl | hd
            · intro h
              rw [hkey, Option.some.injEq] at h
              exact heq h.symm
            · exact hj d hd

end Entries

end Form

end Json

end RowSieve
