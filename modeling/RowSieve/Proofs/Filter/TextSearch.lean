import RowSieve.Filter.Compilation
import RowSieve.Proofs.Evaluation.TextColumns
import RowSieve.Proofs.Predicate.Conjunction
import RowSieve.Proofs.Text.LowercaseParts
import RowSieve.Proofs.Text.Matching

/-!
# Looking for Text

Two conditions look for something anywhere in a text: a pattern, which is put
between two runs, and a needle, which is looked for in lower case. Both find
what they should for nearly every operand, and the exceptions are exact.

A pattern that ends in a backslash of its own loses it to the run behind it. A
needle with a capital sigma may have a lower-case form that the sigma does not
have inside the text. All other patterns are found wherever some part of the
text fits, and all other needles wherever they occur. A closed instance after
each theorem shows the exception.

## Main definitions

* `Filter.HasOnly`: A filter has one condition and no other.

## Theorems

* `Filter.predicate_of_hasOnly`: The predicate of such a filter is one leaf.
* `Batch.evaluate_like_anywhere`: What a pattern finds.
* `trailing_backslash_missed`: A pattern that is not found in its own text.
* `Batch.evaluate_contains_occurrence`: What a needle finds.
* `final_sigma_missed`: A needle that is not found in a text it is part of.
-/

namespace RowSieve

namespace Filter

variable {kind : Kind}

/-- The filter has this condition with this operand, and no other. -/
def HasOnly (f : Filter kind) (c : Condition) (v : c.Operand kind.scalar) : Prop :=
  f.operand? c = some v ∧ ∀ d, d ≠ c → f.operand? d = none

/-- A filter on which one condition was set has no other. -/
theorem hasOnly_set (c : Condition) (h : kind.supports c.family = true)
    (v : c.Operand kind.scalar) : (empty.set c h v).HasOnly c (kind.kept c v) :=
  ⟨Json.Members.assign_self .., fun _ hd => Json.Members.assign_of_ne _ hd _⟩

/-- A filter with one condition has the leaf of that condition, if there is
    one. -/
theorem leaves_of_hasOnly {f : Filter kind} {c : Condition} {v : c.Operand kind.scalar}
    (h : f.HasOnly c v) (path : FieldPath) : f.leaves path = (c.leaf? path v).toList := by
  have hleaf : (fun d => (f.operand? d).bind (d.leaf? path)) =
      fun d => if d = c then c.leaf? path v else none := by
    funext d
    by_cases hd : d = c
    · subst hd
      rw [h.1, Option.bind_some, if_pos rfl]
    · rw [h.2 d hd, Option.bind_none, if_neg hd]
  -- Conditions are listed once each, so the list keeps one leaf at most.
  rw [leaves, hleaf]
  generalize c.leaf? path v = leaf
  cases c <;> cases leaf <;> rfl

theorem predicate_of_hasOnly {f : Filter kind} {c : Condition} {v : c.Operand kind.scalar}
    (h : f.HasOnly c v) {path : FieldPath} {leaf : Predicate} (hleaf : c.leaf? path v = some leaf) :
    f.predicate path = leaf := by
  rw [predicate, leaves_of_hasOnly h, hleaf, Option.toList_some, Predicate.all_singleton]

end Filter

/-- What is met is failed by the negation. -/
theorem Mask.not_failed {m : Mask} {i : Nat} (h : m[i]? = some .met) :
    m.not[i]? = some .failed := by
  rw [Mask.not, List.getElem?_map, h]
  rfl

open Text Pattern

namespace Batch

/-- A slot of a mask that judges characters: it is met by a field whose
    characters pass the test. -/
theorem slot_met_iff {s : Schema} {rows : List (Row s)} {path : FieldPath}
    (test : List Char → Bool) {i : Nat} (hi : i < rows.length) {text : List Char}
    (htext : rows[i].string? path = some text) :
    (rows.map fun row => Truth.ofVerdict ((row.string? path).map test))[i]? = some .met ↔
      test text = true := by
  rw [List.getElem?_map, List.getElem?_eq_getElem hi, Option.map_some, htext, Option.map_some]
  cases test text <;> decide

variable {path : FieldPath} {layout : TextLayout}

/-- A pattern is found in a text exactly if some part of the text, perhaps an
    empty one, is described by it. The exception is a pattern with an open end:
    the text has to end there, with a percent sign. That is no longer what the
    pattern asks for on its own, whatever stands before its open end. -/
theorem evaluate_like_anywhere (b : Batch) (place : Place b.schema)
    (hplace : b.schema.place path = .ok place) (htype : place.type = .text layout) (p : String)
    (f : Filter .string) (g : Filter (.range .string)) (hf : f.HasOnly .like p)
    (hg : g.HasOnly .like p) :
    (∃ m, b.evaluate (f.predicate path) = .ok m ∧ b.evaluate (g.predicate path) = .ok m ∧
      m.length = b.size ∧
      ∀ i (hi : i < b.rows.length) text, b.rows[i].string? path = some text →
        (endsOpen p.toList = false →
          (m[i]? = some .met ↔ ∃ part, part <:+: text ∧ Describes p.toList part)) ∧
        ∀ q, endsOpen q = false → p.toList = q ++ ['\\'] →
          (m[i]? = some .met ↔ ∃ part, part ++ ['%'] <:+ text ∧ Describes q part)) ∧
    ((∀ text, describes ('%' :: p.toList ++ ['%']) text = true ↔
        ∃ part, part <:+: text ∧ Describes p.toList part) ↔ endsOpen p.toList = false) := by
  -- Both filters compile to the same leaf.
  rw [Filter.predicate_of_hasOnly hf rfl, Filter.predicate_of_hasOnly hg rfl]
  have hmask := evaluate_like hplace htype (String.ofList ('%' :: p.toList ++ ['%']))
  rw [String.toList_ofList] at hmask
  refine ⟨⟨_, hmask, hmask, List.length_map _, fun i hi text htext => ?_⟩, anywhere_iff⟩
  rw [slot_met_iff _ hi htext]
  refine ⟨fun hclosed => describes_anywhere hclosed text, fun q hq hp => ?_⟩
  rw [hp]
  exact describes_open_anywhere hq text

end Batch

/-- The filter on text that asks for a pattern. -/
def Filter.fitting (pattern : String) : Filter .string := empty.set .like rfl pattern

/-- Three paths: one from the root of a drive, one relative to it, and none. -/
def drives : Batch where
  schema := .column "path" (.text .plain) .empty
  rows := [(.present "C:\\x", ()), (.present "C:x", ()), (.missing none, ())]

/-- A colon and a backslash that is escaped: only the first path has both. -/
theorem evaluate_like_anywhere_drives :
    drives.evaluate ((Filter.fitting ":\\\\").predicate (.field "path")) =
        .ok [.met, .failed, .unknown] ∧
      endsOpen ":\\\\".toList = false ∧
      ∃ part, part <:+: "C:\\x".toList ∧ Describes ":\\\\".toList part := by
  have hmask : drives.evaluate ((Filter.fitting ":\\\\").predicate (.field "path")) =
    .ok [.met, .failed, .unknown] := rfl
  have hplace : drives.schema.place (.field "path") =
    .ok ⟨⟨.text .plain, Prod.fst⟩, fun _ => false⟩ := rfl
  rcases Batch.evaluate_like_anywhere drives _ hplace rfl ":\\\\" (.fitting ":\\\\")
    ((Filter.empty : Filter (.range .string)).set .like rfl ":\\\\")
    (Filter.hasOnly_set ..) (Filter.hasOnly_set ..) with ⟨⟨m, hm, -, -, hslots⟩, -⟩
  obtain rfl : [.met, .failed, .unknown] = m := Except.ok.inj (hmask.symm.trans hm)
  exact ⟨hmask, rfl, ((hslots 0 (by decide) _ rfl).1 rfl).mp rfl⟩

/-- A backslash is a part of the first path and a pattern that describes it,
    and still it is not found there: the run behind it was escaped. -/
theorem trailing_backslash_missed :
    (∃ part, part <:+: "C:\\x".toList ∧ Describes "\\".toList part) ∧
      drives.evaluate ((Filter.fitting "\\").predicate (.field "path")) =
        .ok [.failed, .failed, .unknown] :=
  ⟨⟨['\\'], ⟨['C', ':'], ['x'], rfl⟩, .backslash⟩, rfl⟩

namespace Batch

variable {path : FieldPath} {layout : TextLayout}

/-- A needle is found in a text exactly if its lower-case form is a part of that
    of the text. So it is found wherever it occurs, unless one of its capital
    sigmas ends a word in the needle alone and not where it occurs, or the other
    way round. A needle without capital sigmas is always found. The opposite
    condition says the opposite on every row. -/
theorem evaluate_contains_occurrence (b : Batch) (place : Place b.schema)
    (hplace : b.schema.place path = .ok place) (htype : place.type = .text layout)
    (needle : String) (f g : Filter .string) (hf : f.HasOnly .contains needle)
    (hg : g.HasOnly .doesNotContain needle) :
    ∃ m, b.evaluate (f.predicate path) = .ok m ∧ b.evaluate (g.predicate path) = .ok m.not ∧
      m.length = b.size ∧
      ∀ i (hi : i < b.rows.length) text, b.rows[i].string? path = some text →
        (m[i]? = some .met ↔ lowercase needle.toList <:+: lowercase text) ∧
        (∀ before after, text = before ++ needle.toList ++ after →
          KeepsSigmas before needle.toList after →
            m[i]? = some .met ∧ m.not[i]? = some .failed) ∧
        ('Σ' ∉ needle.toList → needle.toList <:+: text →
          m[i]? = some .met ∧ m.not[i]? = some .failed) := by
  rw [Filter.predicate_of_hasOnly hf rfl, Filter.predicate_of_hasOnly hg rfl]
  have hmask := evaluate_contains hplace htype (String.ofList (lowercase needle.toList))
  rw [String.toList_ofList] at hmask
  refine ⟨_, hmask, ?_, List.length_map _, fun i hi text htext => ?_⟩
  · rw [evaluate, hmask]
    rfl
  · have hmet := slot_met_iff (fun t => occursIn (lowercase needle.toList) (lowercase t)) hi htext
    rw [occursIn_iff] at hmet
    refine ⟨hmet, fun before after happ hkeeps => ?_, fun hsigma hoccurs => ?_⟩
    · have hfound := hmet.mpr (happ ▸ lowercase_infix hkeeps)
      exact ⟨hfound, Mask.not_failed hfound⟩
    · rcases hoccurs with ⟨before, after, rfl⟩
      have hkeeps := keepsSigmas_of_not_mem hsigma before after
      have hfound := hmet.mpr <| lowercase_infix hkeeps
      exact ⟨hfound, Mask.not_failed hfound⟩

end Batch

/-- The filter on text that asks for a needle. -/
def Filter.containing (needle : String) : Filter .string := empty.set .contains rfl needle

/-- The filter on text that asks for the absence of a needle. -/
def Filter.lacking (needle : String) : Filter .string := empty.set .doesNotContain rfl needle

/-- Three words: one that ends in a sigma only, one that begins with one too,
    and none. -/
def words : Batch where
  schema := .column "word" (.text .plain) .empty
  rows := [(.present "ΟΔΟΣ", ()), (.present "ΣΟΦΟΣ", ()), (.missing none, ())]

set_option maxRecDepth 2000 in
/-- The sigma at the beginning of the second word is not the end of one, and
    the needle is not a word that it could end. -/
theorem evaluate_contains_occurrence_words :
    words.evaluate ((Filter.containing "Σ").predicate (.field "word")) =
        .ok [.failed, .met, .unknown] ∧
      KeepsSigmas [] "Σ".toList "ΟΦΟΣ".toList ∧
      [Truth.failed, .met, .unknown][1]? = some .met := by
  have hmask : words.evaluate ((Filter.containing "Σ").predicate (.field "word")) =
    .ok [.failed, .met, .unknown] := rfl
  have hplace : words.schema.place (.field "word") =
    .ok ⟨⟨.text .plain, Prod.fst⟩, fun _ => false⟩ := rfl
  have hkeeps : KeepsSigmas [] "Σ".toList "ΟΦΟΣ".toList := by decide
  rcases Batch.evaluate_contains_occurrence words _ hplace rfl "Σ" (.containing "Σ")
    (.lacking "Σ") (Filter.hasOnly_set ..) (Filter.hasOnly_set ..) with ⟨m, hm, -, -, hslots⟩
  obtain rfl : [.failed, .met, .unknown] = m := Except.ok.inj (hmask.symm.trans hm)
  have hslot := hslots 1 (by decide) "ΣΟΦΟΣ".toList rfl
  have happ : "ΣΟΦΟΣ".toList = [] ++ "Σ".toList ++ "ΟΦΟΣ".toList := by decide
  exact ⟨hmask, hkeeps, (hslot.2.1 [] "ΟΦΟΣ".toList happ hkeeps).1⟩

set_option maxRecDepth 2000 in
/-- The first word has a sigma and is not found by it. The sigma ends that word
    and becomes a letter that the needle does not become. -/
theorem final_sigma_missed :
    "Σ".toList <:+: "ΟΔΟΣ".toList ∧
      words.evaluate ((Filter.containing "Σ").predicate (.field "word")) =
        .ok [.failed, .met, .unknown] ∧
      words.evaluate ((Filter.lacking "Σ").predicate (.field "word")) =
        .ok [.met, .failed, .unknown] :=
  ⟨⟨"ΟΔΟ".toList, [], rfl⟩, rfl, rfl⟩

end RowSieve
