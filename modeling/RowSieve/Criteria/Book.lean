import RowSieve.Criteria.Builder
import RowSieve.Filter.Exchange

/-!
# Criteria for Books

What a search for books can ask for: a filter for each of four properties,
all of them optional. Two properties belong to the book and two to its author,
which is a relation of the book.

In JSON the criteria are a record of filters. Writing keeps absent filters as
`null`, so all four keys always appear.

## Main definitions

* `BookCriteria.Property`: The four properties.
* `BookCriteria`: A filter for each property, or none.
* `BookCriteria.predicate`: The predicate that the criteria come down to.
* `BookCriteria.json`, `BookCriteria.ofJson?`: Criteria as JSON.
-/

namespace RowSieve

/-- A property of a book that a search can ask for. -/
inductive BookCriteria.Property where
  | bookId
  | authorId
  | authorName
  | title
deriving DecidableEq

namespace BookCriteria.Property

/-- The properties in the order in which they are written. -/
def all : List Property := [.bookId, .authorId, .authorName, .title]

/-- No property is missing from the list. -/
theorem mem_all (p : Property) : p ∈ all := by cases p <;> decide

/-- The name of a property in JSON. -/
def key : Property → String
  | .bookId => "bookId"
  | .authorId => "authorId"
  | .authorName => "authorName"
  | .title => "title"

/-- The kind of filter for a property. -/
@[reducible] def kind : Property → Filter.Kind
  | .bookId => .range .long
  | .authorId => .range .long
  | .authorName => .string
  | .title => .string

end BookCriteria.Property

/-- A filter for each property of a book, or none. -/
structure BookCriteria where
  filter? : Json.Members fun p : BookCriteria.Property => Filter p.kind

namespace BookCriteria

/-- Criteria with the same filters are the same. -/
theorem ext {a b : BookCriteria} (h : ∀ p, a.filter? p = b.filter? p) : a = b := by
  cases a
  cases b
  simp only [BookCriteria.mk.injEq]
  exact funext h

instance : DecidableEq BookCriteria := fun a b =>
  decidable_of_iff (∀ p ∈ Property.all, a.filter? p = b.filter? p)
    ⟨fun h => ext fun p => h p p.mem_all, fun h _ _ => h ▸ rfl⟩

/-- The criteria that ask for nothing. -/
def empty : BookCriteria := ⟨Json.Members.none⟩

/-- The filters gathered: those of the book first, then those of its author. -/
def builder (c : BookCriteria) : Builder :=
  Builder.empty
    |>.field "id" (c.filter? .bookId)
    |>.field "title" (c.filter? .title)
    |>.join "author" "id" (c.filter? .authorId)
    |>.join "author" "name" (c.filter? .authorName)

/-- The predicate that the criteria come down to. -/
def predicate (c : BookCriteria) : Predicate := c.builder.build

/-- The record of the four filters. Its positional form may stop early. -/
def form : Json.Form Property where
  title := "struct BookCriteria"
  keys := Property.all
  name := Property.key
  mayBeShort := true

/-- Criteria as JSON. -/
def json (c : BookCriteria) : List Char :=
  Json.objectText (Property.all.map fun p =>
    Json.memberText p.key (((c.filter? p).map Filter.json).getD Json.nullText))

/-- Reads criteria within a larger text. -/
def read : Json.Reader BookCriteria := fun cs => do
  let (m, rest) ← form.read (fun p => Filter.read p.kind) cs
  .ok (⟨m⟩, rest)

/-- The criteria that a whole text denotes. -/
def ofJson? (s : String) : Except Json.Fault BookCriteria := Json.whole read s

end BookCriteria

end RowSieve
