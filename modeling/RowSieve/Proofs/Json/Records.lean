import RowSieve.Json.Record
import RowSieve.Proofs.Json.Values

/-!
# Records Read Back

An object is written member by member, in any order and with any of its
members left out. Reading it back gives the record it was written from, as
long as the keys of the record can be told apart by their texts and every
member on its own is read back.

The reader keeps a list of the keys that may still come and a record of what
came so far. Along the members of a written object the keys that are still to
be read stay in that list, because no key is written twice, and the record
holds the members written so far.

## Main definitions

* `Form.Distinct`: The keys of a record can be told apart.
* `Members.fill`: A record with some of its members taken from another.

## Theorems

* `Members.fill_apply`: Which record it is that members were taken from.
* `Form.moreMembers_written`: The members of an object are read one by one.
* `Form.written_object`: An object stands for the record it was written from.
-/

namespace RowSieve

namespace Json

variable {κ : Type} [DecidableEq κ] {V : κ → Type}

namespace Members

/-- The record with the members of the given keys taken from another one. -/
def fill (source m : Members V) (ks : List κ) : Members V :=
  ks.foldl (fun m k => m.assign k (source k)) m

/-- Members that were taken are those of the other record, and the rest stays
    as it was. -/
theorem fill_apply (source m : Members V) (ks : List κ) (j : κ) :
    source.fill m ks j = if j ∈ ks then source j else m j := by
  induction ks generalizing m with
  | nil => rfl
  | cons k ks ih =>
      have hstep : source.fill m (k :: ks) = source.fill (m.assign k (source k)) ks := rfl
      rw [hstep, ih]
      by_cases hlater : j ∈ ks
      · rw [if_pos hlater, if_pos (List.mem_cons_of_mem _ hlater)]
      · rw [if_neg hlater]
        by_cases hhere : j = k
        · subst hhere
          rw [assign_self, if_pos List.mem_cons_self]
        · rw [assign_of_ne m hhere, if_neg]
          intro hmem
          rcases List.mem_cons.mp hmem with h | h
          · exact hhere h
          · exact hlater h

end Members

namespace Form

/-- The text of every key belongs to that key and to no other. -/
def Distinct (form : Form κ) : Prop := ∀ k ∈ form.keys, form.key? (form.name k) = some k

section Objects

variable {form : Form κ} {item : (k : κ) → Reader (V k)} {text : κ → List Char}
  {m : Members V}

/-- A key that may still come is found behind its opening quote. -/
theorem keyHere_written (hnames : form.Distinct) {left : List κ} {k : κ} (hkey : k ∈ form.keys)
    (hleft : k ∈ left) (more : List Char) :
    form.keyHere left (escape (form.name k).toList ++ '"' :: ':' :: more) =
      .ok (⟨k, hleft⟩, more) := by
  rw [keyHere, stringBody_escape]
  have hcolon : colon (':' :: more) = .ok more := rfl
  simp only [bind, Except.bind, String.ofList_toList, hnames k hkey, dif_pos hleft, hcolon]

theorem memberText_append (key : String) (value more : List Char) :
    memberText key value ++ more =
      '"' :: (escape key.toList ++ '"' :: ':' :: (value ++ more)) := by
  simp only [memberText, stringText, List.append_assoc, List.cons_append, List.nil_append]

/-- A key that is taken away does not take those that are written later. -/
theorem mem_erase_of_fresh {k : κ} {ks left : List κ} (hfresh : k ∉ ks)
    (hleft : ∀ j ∈ ks, j ∈ left) : ∀ j ∈ ks, j ∈ left.erase k := by
  intro j hj
  have hne : j ≠ k := fun heq => hfresh (heq ▸ hj)
  exact (List.mem_erase_of_ne hne).mpr (hleft j hj)

/-- The members of an object after its first are read one by one. The keys
    that are left over stay among those that may still come. -/
theorem moreMembers_written (hnames : form.Distinct) {ks left : List κ} (hdistinct : ks.Nodup)
    (hread : ∀ k ∈ ks, ∀ rest, Delimited rest →
      optional (item k) (text k ++ rest) = .ok (m k, rest))
    (hleft : ∀ k ∈ ks, k ∈ left) (hkeys : ∀ k ∈ left, k ∈ form.keys) (sofar : Members V)
    (rest : List Char) :
    form.moreMembers item left sofar
        ((ks.map fun k => memberText (form.name k) (text k)).flatMap (fun u => ',' :: u) ++
          '}' :: rest) =
      .ok (m.fill sofar ks, rest) := by
  induction ks generalizing left sofar with
  | nil =>
      rw [moreMembers]
      rfl
  | cons k ks ih =>
      have hk : k ∈ left := hleft k List.mem_cons_self
      rcases List.nodup_cons.mp hdistinct with ⟨hfresh, htail⟩
      have hother := mem_erase_of_fresh hfresh fun j hj => hleft j (List.mem_cons_of_mem _ hj)
      have hvalue := hread k List.mem_cons_self _
        (delimited_elements (ks.map fun k => memberText (form.name k) (text k)) (.inr rfl) rest)
      -- The key just read is gone from those to come, the later ones are not.
      have hmore := ih htail (fun j hj => hread j (List.mem_cons_of_mem _ hj))
        hother (fun j hj => hkeys j (List.mem_of_mem_erase hj)) (sofar.assign k (m k))
      rw [List.map_cons, List.flatMap_cons, List.append_assoc, List.cons_append,
        memberText_append, moreMembers, skipSpace_cons (by decide)]
      simp only [skipSpace_cons (c := '"') (by decide), keyHere_written hnames (hkeys k hk) hk,
        hvalue, hmore, bind, Except.bind]
      rfl

/-- An object stands for the record whose members it has. A member that is not
    written has to be absent. -/
theorem written_object (hnames : form.Distinct) {ks : List κ} (hdistinct : ks.Nodup)
    (hread : ∀ k ∈ ks, ∀ rest, Delimited rest →
      optional (item k) (text k ++ rest) = .ok (m k, rest))
    (hkeys : ∀ k ∈ ks, k ∈ form.keys) (habsent : ∀ k, k ∉ ks → m k = none) :
    Written (form.read item)
      (objectText (ks.map fun k => memberText (form.name k) (text k))) m where
  starts := ⟨'{', _, rfl, by decide, by decide, by decide⟩
  recovers rest _ := by
    -- Filling the empty record with what is written gives the whole record.
    have hfill : m.fill Members.none ks = m := by
      funext k
      rw [Members.fill_apply]
      by_cases hk : k ∈ ks
      · rw [if_pos hk]
      · rw [if_neg hk, habsent k hk]
        rfl
    cases ks with
    | nil =>
        rw [← hfill]
        rfl
    | cons k ks =>
        have hk : k ∈ form.keys := hkeys k List.mem_cons_self
        rcases List.nodup_cons.mp hdistinct with ⟨hfresh, htail⟩
        have hother := mem_erase_of_fresh hfresh fun j hj => hkeys j (List.mem_cons_of_mem _ hj)
        have hvalue := hread k List.mem_cons_self _
          (delimited_elements (ks.map fun k => memberText (form.name k) (text k)) (.inr rfl) rest)
        have hmore := moreMembers_written hnames htail
          (fun j hj => hread j (List.mem_cons_of_mem _ hj)) hother
          (fun j hj => List.mem_of_mem_erase hj) (Members.none.assign k (m k)) rest
        rw [objectText, List.map_cons, intercalate_cons, List.append_assoc, List.cons_append,
          List.append_assoc, List.singleton_append, memberText_append, read,
          skipSpace_cons (by decide)]
        simp only [object, skipSpace_cons (c := '"') (by decide),
          keyHere_written hnames hk hk, hvalue, hmore, bind, Except.bind]
        exact congrArg (fun n => Except.ok (n, rest)) hfill

end Objects

end Form

end Json

end RowSieve
