import RowSieve.Criteria.Book
import RowSieve.Proofs.Criteria.Holding

/-!
# What Criteria for Books Select

Criteria select the rows on which every condition of every filter holds, and
nothing else about them matters. They say so themselves only in a roundabout
way: each filter becomes a conjunction of leaves at a path, the builder joins
the four conjunctions into a flat one, that one is evaluated to a mask, and
the mask is applied to the rows.

Numbers are compared in 64 bits with a sign. A column of unsigned integers can
hold more than that, and a row with such a number meets no comparison at all,
not even the one that asks for more than a small number. A closed instance
after the theorem shows it.

## Main definitions

* `BookCriteria.Property.path`: Where a property of a book is found.
* `BookCriteria.Property.reading`: How its field is taken as an operand.
* `BookCriteria.Property.gathered`: The order in which filters are gathered.
* `BookCriteria.Admits`: What the criteria ask of a row.

## Theorems

* `BookCriteria.builder_predicates`: What is gathered, filter by filter.
* `BookCriteria.isMet_predicate`: When the predicate of criteria is met.
* `BookCriteria.select_admitted`: Criteria select the rows that they admit.
* `BookCriteria.large_number_dropped`: A number beyond 64 bits is not found.
-/

namespace RowSieve

namespace BookCriteria

namespace Property

/-- Where a property of a book is found in a row. -/
def path : Property → FieldPath
  | .bookId => .field "id"
  | .title => .field "title"
  | .authorId => .join "author" "id"
  | .authorName => .join "author" "name"

/-- How the field of a property is taken as a value of the operand's type. -/
def reading : (p : Property) → Reading p.kind.scalar
  | .bookId => Reading.long
  | .title => Reading.string
  | .authorId => Reading.long
  | .authorName => Reading.string

theorem reading_agrees (p : Property) : p.reading.Agrees := by
  cases p with
  | bookId => exact Reading.long_agrees
  | title => exact Reading.string_agrees
  | authorId => exact Reading.long_agrees
  | authorName => exact Reading.string_agrees

end Property

/-- Every condition of every filter of the criteria holds on the row. -/
def Admits (c : BookCriteria) {s : Schema} (row : Row s) : Prop :=
  ∀ p f, c.filter? p = some f →
    ∀ d v, f.operand? d = some v → d.holds row p.path p.reading v = true

instance (c : BookCriteria) {s : Schema} (row : Row s) : Decidable (c.Admits row) :=
  decidable_of_iff
    (∀ p ∈ Property.all, ∀ f ∈ c.filter? p, ∀ d ∈ Condition.all, ∀ v ∈ f.operand? d,
      d.holds row p.path p.reading v = true)
    ⟨fun h p f hf d v hv => h p p.mem_all f hf d d.mem_all v hv,
      fun h p _ f hf d _ v hv => h p f hf d v hv⟩

namespace Property

/-- The properties in the order in which their filters are gathered. -/
def gathered : List Property := [.bookId, .title, .authorId, .authorName]

theorem mem_gathered (p : Property) : p ∈ gathered := by cases p <;> decide

end Property

/-- What the builder has gathered. -/
theorem builder_predicates (c : BookCriteria) :
    c.builder.predicates =
      Property.gathered.flatMap fun p =>
        ((c.filter? p).map fun f => f.predicate p.path).toList := by
  simp only [builder, Builder.field, Builder.join, Builder.gather, Property.gathered,
    List.flatMap_cons, List.flatMap_nil]
  cases c.filter? .bookId <;> cases c.filter? .title <;> cases c.filter? .authorId <;>
    cases c.filter? .authorName <;> rfl

/-- The predicate of criteria is met exactly if that of each present filter is,
    at the path of its property. -/
theorem isMet_predicate (c : BookCriteria) {s : Schema} (row : Row s) :
    (row.truth c.predicate).isMet = true ↔
      ∀ p f, c.filter? p = some f → (row.truth (f.predicate p.path)).isMet = true := by
  rw [predicate, Builder.build, Row.isMet_all, builder_predicates, List.all_eq_true]
  -- Neither the order nor what is absent matters to a conjunction.
  constructor
  · intro h p f hf
    refine h _ (List.mem_flatMap.mpr ⟨p, p.mem_gathered, ?_⟩)
    rw [hf, Option.map_some, Option.mem_toList]
  · intro h q hq
    rcases List.mem_flatMap.mp hq with ⟨p, _, hp⟩
    rw [Option.mem_toList, Option.map_eq_some_iff] at hp
    rcases hp with ⟨f, hf, hq⟩
    rw [← hq]
    exact h p f hf

/-- Criteria admit a row exactly if the row meets their predicate. -/
theorem admits_iff (c : BookCriteria) {s : Schema} (row : Row s) :
    c.Admits row ↔ (row.truth c.predicate).isMet = true := by
  rw [isMet_predicate]
  constructor
  · intro h p f hf
    exact (f.holds_iff p.reading_agrees p.path row).mpr (h p f hf)
  · intro h p f hf
    exact (f.holds_iff p.reading_agrees p.path row).mp (h p f hf)

/-- Criteria select the rows that they admit: the schema is that of the batch,
    and the rows are whole rows of the batch, in their order. -/
theorem select_admitted (c : BookCriteria) (b out : Batch) (h : b.select c.predicate = .ok out) :
    out = ⟨b.schema, b.rows.filter fun row => c.Admits row⟩ := by
  rw [Batch.select_eq_ok h]
  congr 2
  funext row
  rw [Bool.eq_iff_iff, decide_eq_true_eq, c.admits_iff]

/-- Books with an id that is not negative, without an x in their title, and with the name of
    their author known. -/
def sample : BookCriteria where
  filter? := fun
    | .bookId => some (Filter.empty.set .greaterThan rfl ⟨-1, by decide, by decide⟩)
    | .title => some (Filter.empty.set .doesNotContain rfl "X")
    | .authorId => none
    | .authorName => some (Filter.empty.set .specified rfl true)

/-- They select the first book of the shelf. The second one lacks the title and
    the author that are asked for. -/
theorem select_admitted_shelf :
    shelf.select sample.predicate = .ok ⟨shelf.schema, shelf.rows.take 1⟩ ∧
      (⟨shelf.schema, shelf.rows.take 1⟩ : Batch) =
        ⟨shelf.schema, shelf.rows.filter fun row => sample.Admits row⟩ :=
  ⟨rfl, select_admitted sample shelf ⟨shelf.schema, shelf.rows.take 1⟩ rfl⟩

/-- One book in a table of unsigned ids, with the least id beyond 64 bits with
    a sign. -/
def largeShelf : Batch where
  schema := .column "id" (.integer ⟨false, .bits64⟩) .empty
  rows := [(.present ⟨9223372036854775808, by decide, by decide⟩, ())]

/-- Books with an id above 5. -/
def aboveFive : BookCriteria where
  filter? := fun
    | .bookId => some (Filter.empty.set .greaterThan rfl ⟨5, by decide, by decide⟩)
    | _ => none

/-- The id of the one book is an integer above 5, and nothing else is asked
    for. The book is dropped all the same. -/
theorem large_number_dropped :
    largeShelf.rows.map (fun row => (row.at? (Property.path .bookId)).bind Value.integer?) =
        [some 9223372036854775808] ∧
      (5 : Int) < 9223372036854775808 ∧
      largeShelf.select aboveFive.predicate = .ok ⟨largeShelf.schema, []⟩ :=
  ⟨rfl, by decide, rfl⟩

end BookCriteria

end RowSieve
