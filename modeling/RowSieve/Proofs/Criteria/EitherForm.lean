import RowSieve.Criteria.Book
import RowSieve.Proofs.Filter.Acceptance
import RowSieve.Proofs.Json.Positions

/-!
# Criteria in Either Form

A filter may be written as an object with the names of its conditions or as a
list of twelve operands, and criteria for books as an object of filters or as a
list of them. The lists name nothing, so the order of the keys is all that ties
an operand to its condition. It is the order in which the keys are declared,
not the one in which the conditions are compiled: membership comes third and
fourth there and in between here. With two keys exchanged every object would
still be read as before, and the lists would be read as other filters.

The two forms of a record go through `Form.collect` and `Form.arrange`, which
agree on entries in the order of the keys. What is left is to follow them
through the readers: the filter is made of the operands by the same checks, and
criteria take the filters as they are.

## Main definitions

* `Filter.names`, `BookCriteria.names`: The keys in the order of the lists.
* `Filter.denoted?`, `BookCriteria.denoted?`: What a value denotes, in either
  form.
* `Filter.EitherForm`: One filter in its two forms.

## Theorems

* `Filter.reads`, `BookCriteria.reads`: Filters and criteria are read as
  denoted.
* `Filter.denoted?_list`: A list of operands denotes what an object does.
* `BookCriteria.denoted?_list`: So does a list of filters.
* `lists_agree_with_objects`: The two forms, for whole texts.
-/

namespace RowSieve

open Json

namespace Filter

/-- The names of the conditions in the order in which a list gives their
    operands. -/
def names : List String :=
  ["equals", "notEquals", "specified", "in", "notIn", "greaterThan", "lessThan",
    "greaterThanOrEqual", "lessThanOrEqual", "like", "contains", "doesNotContain"]

/-- What a value denotes for a condition, where it may be absent. -/
def meaning (kind : Kind) (c : Condition) : Tree → Option (Option (c.Operand kind.scalar)) :=
  Tree.orNull? (c.denoted? kind.scalar)

/-- The filter that a value denotes, as an object or as a list. -/
def denoted? (kind : Kind) (t : Tree) : Option (Filter kind) :=
  (form.denoted? (meaning kind) t).bind fun m => (ofMembers? m).toOption

theorem reads (kind : Kind) : Reads (read kind) (denoted? kind) := by
  have hitem : ∀ c : Condition,
      Reads (Json.optional (c.readOperand kind.scalar)) (meaning kind c) :=
    fun c => reads_optional c.reads
  intro t rest hrest
  rw [read, toOption_bind, Form.reads hitem t rest hrest, denoted?, Option.bind_map,
    Option.map_bind]
  refine Option.bind_congr fun m _ => ?_
  simp only [Function.comp_apply]
  cases (ofMembers? m : Except Condition (Filter kind)) <;> rfl

theorem read_append (kind : Kind) (sp : Space) (cs : List Char) :
    read kind (sp.chars ++ cs) = read kind cs := by
  unfold read
  rw [Form.read_append]

/-- A list of twelve operands denotes the filter that an object does in which
    they have their names. -/
theorem denoted?_list (kind : Kind) (inner : Space) (items : List (Item Tree)) (room : Space)
    {members : List (Member Tree)}
    (hnames : (members.map Member.entry).map Entry.key? = names.map some)
    (hvalues : (members.map Member.entry).map Entry.value = items.map Item.value) :
    denoted? kind (.list inner items) = denoted? kind (.object room members) := by
  have hlength : (members.map Member.entry).length = form.keys.length := by
    have h := congrArg List.length hnames
    rw [List.length_map] at h
    exact h
  have hkeys : (members.map Member.entry).map form.keyOf? = form.keys.map some :=
    Form.map_keyOf?_of_names form_distinct (fun _ => id) hnames
  have hall : form.keys.take (members.map Member.entry).length = form.keys :=
    List.take_of_length_le (Nat.le_of_eq hlength.symm)
  rw [denoted?, denoted?, Form.denoted?, Form.denoted?,
    Form.collect_eq_arrange Members.none (hall.symm ▸ hkeys) (.inl hlength), hvalues]

/-- No other number of operands is a filter. -/
theorem denoted?_list_of_length_ne (kind : Kind) (inner : Space) {items : List (Item Tree)}
    (h : items.length ≠ 12) : denoted? kind (.list inner items) = none := by
  have hnone : form.arrange (meaning kind) form.keys Members.none (items.map Item.value) =
      none := by
    rcases Nat.lt_or_gt_of_ne h with hless | hmore
    · exact Form.arrange_of_shorter rfl _ ((List.length_map ..).symm ▸ hless)
    · exact Form.arrange_of_longer _ ((List.length_map ..).symm ▸ hmore)
  rw [denoted?, Form.denoted?, hnone, Option.bind_none]

/-- One value in the place of a filter, or two that give the same operands, one
    as a list and the other as an object. -/
inductive EitherForm : Tree → Tree → Prop where
  | same (t : Tree) : EitherForm t t
  | named (inner room : Space) (items : List (Item Tree)) (members : List (Member Tree))
    (hnames : (members.map Member.entry).map Entry.key? = names.map some)
    (hvalues : (members.map Member.entry).map Entry.value = items.map Item.value) :
    EitherForm (.list inner items) (.object room members)
  | unnamed (inner room : Space) (items : List (Item Tree)) (members : List (Member Tree))
    (hnames : (members.map Member.entry).map Entry.key? = names.map some)
    (hvalues : (members.map Member.entry).map Entry.value = items.map Item.value) :
    EitherForm (.object room members) (.list inner items)

theorem EitherForm.denoted?_eq {t u : Tree} (h : EitherForm t u) (kind : Kind) :
    denoted? kind t = denoted? kind u := by
  cases h with
  | same => rfl
  | named inner room items members hnames hvalues =>
      exact denoted?_list kind inner items room hnames hvalues
  | unnamed inner room items members hnames hvalues =>
      exact (denoted?_list kind inner items room hnames hvalues).symm

theorem EitherForm.isNull {t u : Tree} (h : EitherForm t u) : t = .null ↔ u = .null := by
  cases h <;> simp only [reduceCtorEq]

end Filter

namespace BookCriteria

/-- The names of the properties in the order in which a list gives their
    filters. -/
def names : List String := ["bookId", "authorId", "authorName", "title"]

/-- What a value denotes for a property, where it may be absent. -/
def meaning (p : Property) : Tree → Option (Option (Filter p.kind)) :=
  Tree.orNull? (Filter.denoted? p.kind)

/-- The criteria that a value denotes, as an object or as a list. -/
def denoted? (t : Tree) : Option BookCriteria := (form.denoted? meaning t).map BookCriteria.mk

theorem reads : Reads read denoted? := by
  have hitem : ∀ p : Property, Reads (Json.optional (Filter.read p.kind)) (meaning p) :=
    fun p => reads_optional (Filter.reads p.kind)
  intro t rest hrest
  rw [read, toOption_bind, Form.reads hitem t rest hrest, denoted?, Option.bind_map,
    Option.map_map, Option.map_eq_bind]
  rfl

theorem read_append (sp : Space) (cs : List Char) : read (sp.chars ++ cs) = read cs := by
  unfold read
  rw [Form.read_append]

/-- Nothing is said of a property in either form, or the same. -/
theorem meaning_congr {t u : Tree} (h : Filter.EitherForm t u) (p : Property) :
    meaning p t = meaning p u := by
  by_cases hnull : t = .null
  · rw [hnull, h.isNull.mp hnull]
  · have hother : u ≠ .null := fun heq => hnull (h.isNull.mpr heq)
    unfold meaning
    rw [Tree.orNull?_of_ne hnull, Tree.orNull?_of_ne hother,
      h.denoted?_eq p.kind]

/-- A list of filters denotes the criteria that an object does in which they
    have their names, each filter in either form. -/
theorem denoted?_list (inner : Space) (items : List (Item Tree)) (room : Space)
    {members : List (Member Tree)}
    (hnames : (members.map Member.entry).map Entry.key? = (names.take items.length).map some)
    (hvalues : List.Forall₂ Filter.EitherForm (items.map Item.value)
      ((members.map Member.entry).map Entry.value)) :
    denoted? (.list inner items) = denoted? (.object room members) := by
  have hsame : ∀ t u, Filter.EitherForm t u → ∀ p, meaning p t = meaning p u :=
    fun t u h p => meaning_congr h p
  have hlength : (members.map Member.entry).length = items.length := by
    have h := hvalues.length_eq
    rw [List.length_map, List.length_map] at h
    exact h.symm
  have hkeys : (members.map Member.entry).map form.keyOf? =
      (form.keys.take (members.map Member.entry).length).map some := by
    refine Form.map_keyOf?_of_names form_distinct (fun p _ => p.mem_all) ?_
    have hall : names = form.keys.map form.name := rfl
    rw [hnames, hlength, hall, ← List.map_take]
  rw [denoted?, denoted?, Form.denoted?, Form.denoted?,
    Form.collect_eq_arrange Members.none hkeys (.inr rfl),
    Form.arrange_congr Members.none (hvalues.imp hsame)]

/-- More than four filters are no criteria. -/
theorem denoted?_list_of_longer (inner : Space) {items : List (Item Tree)}
    (h : 4 < items.length) : denoted? (.list inner items) = none := by
  have hnone : form.arrange meaning form.keys Members.none (items.map Item.value) = none :=
    Form.arrange_of_longer _ ((List.length_map ..).symm ▸ h)
  rw [denoted?, Form.denoted?, hnone, Option.map_none]

end BookCriteria

/-- For every kind of filter, a list of twelve values is read as the filter that
    the object is read as in which they have the names of the conditions, or
    neither is read at all, and no other list is read. A list of up to four
    values is read as the criteria that an object is in which as many
    properties have them, from the first on, with each filter in either form,
    and no longer list is read. -/
theorem lists_agree_with_objects :
    (∀ (kind : Filter.Kind) (l : ListText) (o : ObjectText),
      o.entries.map Entry.key? = ["equals", "notEquals", "specified", "in", "notIn",
        "greaterThan", "lessThan", "greaterThanOrEqual", "lessThanOrEqual", "like", "contains",
        "doesNotContain"].map some →
      o.entries.map Entry.value = l.values →
      ∀ f, Filter.ofJson? kind l.text = .ok f ↔ Filter.ofJson? kind o.text = .ok f) ∧
    (∀ (kind : Filter.Kind) (l : ListText), l.values.length ≠ 12 →
      ∃ fault, Filter.ofJson? kind l.text = .error fault) ∧
    (∀ (l : ListText) (o : ObjectText),
      o.entries.map Entry.key? =
        (["bookId", "authorId", "authorName", "title"].take l.values.length).map some →
      List.Forall₂ Filter.EitherForm l.values (o.entries.map Entry.value) →
      ∀ c, BookCriteria.ofJson? l.text = .ok c ↔ BookCriteria.ofJson? o.text = .ok c) ∧
    (∀ l : ListText, 4 < l.values.length →
      ∃ fault, BookCriteria.ofJson? l.text = .error fault) := by
  -- A text is read as its one value denotes, so it is values that are compared.
  have hfilter : ∀ (kind : Filter.Kind) (before : Space) (t : Tree) (after : Space),
      (Filter.ofJson? kind
        (String.ofList (before.chars ++ (t.text ++ after.chars)))).toOption =
        Filter.denoted? kind t :=
    fun kind => toOption_whole (Filter.reads kind) (Filter.read_append kind)
  have hcriteria : ∀ (before : Space) (t : Tree) (after : Space),
      (BookCriteria.ofJson?
        (String.ofList (before.chars ++ (t.text ++ after.chars)))).toOption =
        BookCriteria.denoted? t :=
    toOption_whole BookCriteria.reads BookCriteria.read_append
  refine ⟨fun kind l o hnames hvalues => ok_iff_of_toOption_eq ?_,
    fun kind l hlength => toOption_eq_none_iff.mp ?_,
    fun l o hnames hvalues => ok_iff_of_toOption_eq ?_,
    fun l hlength => toOption_eq_none_iff.mp ?_⟩
  · rw [ListText.text, ObjectText.text, hfilter, hfilter]
    exact Filter.denoted?_list kind l.inner l.items o.inner hnames hvalues
  · rw [ListText.text, hfilter]
    exact Filter.denoted?_list_of_length_ne kind l.inner (List.length_map .. ▸ hlength)
  · rw [ListText.text, ObjectText.text, hcriteria, hcriteria]
    exact BookCriteria.denoted?_list l.inner l.items o.inner (List.length_map .. ▸ hnames) hvalues
  · rw [ListText.text, hcriteria]
    exact BookCriteria.denoted?_list_of_longer l.inner (List.length_map .. ▸ hlength)

/-- The characters of a name as they are, without those that need an escape. -/
def plainPieces (name : String) : List StringPiece :=
  name.toList.filterMap fun c =>
    if h : c ≠ '"' ∧ c ≠ '\\' ∧ 0x20 ≤ c.toNat then some (.plain c h) else none

/-- A value with a name. -/
def namedMember (name : String) (t : Tree) : Member Tree :=
  ⟨noSpace, plainPieces name, noSpace, noSpace, t, noSpace⟩

def bareItem (t : Tree) : Item Tree := ⟨noSpace, t, noSpace⟩

/-- An upper bound, which is the ninth operand. -/
def boundOperands : List Tree := List.replicate 8 .null ++ dueText :: List.replicate 3 .null

def boundList : ListText := ⟨noSpace, noSpace, boundOperands.map bareItem, noSpace⟩

def boundObject : ObjectText :=
  ⟨noSpace, noSpace, List.zipWith namedMember Filter.names boundOperands, noSpace⟩

def dueBound : Filter .dateTime :=
  Filter.empty.set .lessThanOrEqual Filter.Kind.dateTime_supports_bounds dueTime

/-- A name to be equal to, which is the first operand. -/
def herbertOperands : List Tree :=
  .string (plainPieces "Herbert") :: List.replicate 11 .null

def herbertList : Tree := .list noSpace (herbertOperands.map bareItem)

def herbertObject : Tree :=
  .object noSpace (List.zipWith namedMember Filter.names herbertOperands)

/-- The third filter as a list within a list, and as an object within an object. -/
def authorList : ListText :=
  ⟨noSpace, noSpace, [.null, .null, herbertList].map bareItem, noSpace⟩

def authorObject : ObjectText :=
  ⟨noSpace, noSpace, List.zipWith namedMember BookCriteria.names [.null, .null, herbertObject],
    noSpace⟩

def byHerbert : BookCriteria where
  filter?
    | .bookId | .authorId | .title => none
    | .authorName => some (Filter.empty.set .equals rfl "Herbert")

/-- An object is read as the upper bound that a list gives in its ninth place,
    and one as the filter on the name of the author that a list has in its third.
    Three filters are too few to be operands, and twelve operands are too many
    to be criteria. -/
theorem lists_agree_with_objects_bound :
    boundList.text =
      "[null,null,null,null,null,null,null,null,\"2019-11-3T8:5:0\",null,null,null]" ∧
    Filter.ofJson? .dateTime boundObject.text = .ok dueBound ∧
    (∃ fault, Filter.ofJson? .dateTime authorList.text = .error fault) ∧
    BookCriteria.ofJson? authorObject.text = .ok byHerbert ∧
    ∃ fault, BookCriteria.ofJson? boundList.text = .error fault := by
  rcases lists_agree_with_objects with ⟨hfilter, hlength, hcriteria, hlonger⟩
  have hbound : Filter.ofJson? .dateTime boundList.text = .ok dueBound :=
    toOption_eq_some_iff.mp (by decide +kernel)
  have hauthor : BookCriteria.ofJson? authorList.text = .ok byHerbert :=
    toOption_eq_some_iff.mp (by decide +kernel)
  have hnames : boundObject.entries.map Entry.key? = Filter.names.map some := by decide +kernel
  have hproperties : authorObject.entries.map Entry.key? =
      (BookCriteria.names.take 3).map some := by decide +kernel
  have hherbert : Filter.EitherForm herbertList herbertObject :=
    .named noSpace noSpace _ _ (by decide +kernel) rfl
  refine ⟨rfl, ?_, hlength .dateTime authorList (by decide), ?_, hlonger boundList (by decide)⟩
  · exact (hfilter .dateTime boundList boundObject hnames rfl dueBound).mp hbound
  · refine (hcriteria authorList authorObject hproperties ?_ byHerbert).mp hauthor
    exact .cons (.same .null) (.cons (.same .null) (.cons hherbert .nil))

end RowSieve
