import RowSieve.Json.Reading

/-!
# Reading Records

A record is a fixed set of keys, each with a type of its own, and each member
may be absent. It is written in one of two forms: as an object, in any order,
or as a list of the members in the order of the keys. In both, `null` stands
for an absent member.

Objects are strict. A key that the record does not have, or that was there
before, is a fault at once, before its value is looked at. So the keys that
may still come become fewer with every member, which is also why reading an
object ends.

One reader serves every record of the library. What differs between records is
a table of keys and a reader for each.

## Main definitions

* `Members`: What a record holds.
* `Members.none`, `Members.assign`: The empty record, and one member more.
* `Form`: The keys of a record and their texts.
* `Form.read`: Reads a record in either form.
-/

namespace RowSieve

namespace Json

/-- What a record holds: for every key a value of the key's type, or none. -/
abbrev Members {κ : Type} (V : κ → Type) := (k : κ) → Option (V k)

namespace Members

variable {κ : Type} {V : κ → Type}

/-- The record without members. -/
def none : Members V := fun _ => Option.none

/-- The record with one member replaced. -/
def assign [DecidableEq κ] (m : Members V) (k : κ) (v : Option (V k)) : Members V :=
  fun j => if h : j = k then h ▸ v else m j

theorem assign_self [DecidableEq κ] (m : Members V) (k : κ) (v : Option (V k)) :
    m.assign k v k = v := dif_pos rfl

theorem assign_of_ne [DecidableEq κ] (m : Members V) {j k : κ} (h : j ≠ k) (v : Option (V k)) :
    m.assign k v j = m j := dif_neg h

end Members

/-- The keys of a record and their texts. -/
structure Form (κ : Type) where
  /-- What a value of another type is said to have been expected to be. -/
  title : String
  /-- The keys, in the order of the positional form. -/
  keys : List κ
  /-- The text of each key. -/
  name : κ → String
  /-- The positional form may leave out members at its end. -/
  mayBeShort : Bool

namespace Form

variable {κ : Type} [DecidableEq κ] {V : κ → Type}

/-- The key with the given text. -/
def key? (form : Form κ) (s : String) : Option κ := form.keys.find? fun k => form.name k == s

/-- A colon between a key and its value. -/
def colon (cs : List Char) : Except Fault (List Char) :=
  match skipSpace cs with
  | [] => .error (.ended .object)
  | ':' :: rest => .ok rest
  | _ => .error .noColon

/-- A key after its opening quote, with its colon. It has to be one of those
    that may still come. -/
def keyHere (form : Form κ) (left : List κ) (cs : List Char) :
    Except Fault ({ k : κ // k ∈ left } × List Char) := do
  let (s, rest) ← stringBody cs
  let s := String.ofList s
  match form.key? s with
  | none => .error (.unknownKey s (form.keys.map form.name))
  | some k =>
    if h : k ∈ left then .ok (⟨k, h⟩, ← colon rest)
    else .error (.repeatedKey s)

/-- The members of an object after its first, up to the closing brace. -/
def moreMembers (form : Form κ) (item : (k : κ) → Reader (V k)) (left : List κ)
    (m : Members V) (cs : List Char) : Except Fault (Members V × List Char) :=
  match skipSpace cs with
  | [] => .error (.ended .object)
  | '}' :: rest => .ok (m, rest)
  | ',' :: rest =>
    match skipSpace rest with
    | [] => .error (.ended .value)
    | '}' :: _ => .error .danglingComma
    | '"' :: rest => do
      let (k, rest) ← form.keyHere left rest
      let (v, rest) ← optional (item k.val) rest
      moreMembers form item (left.erase k.val) (m.assign k.val v) rest
    | _ => .error .keyNotString
  | _ => .error .noCommaInObject
termination_by left.length
decreasing_by
  rw [List.length_erase_of_mem k.property]
  have := List.length_pos_of_mem k.property
  omega

/-- The members of an object after its opening brace. -/
def object (form : Form κ) (item : (k : κ) → Reader (V k)) (cs : List Char) :
    Except Fault (Members V × List Char) :=
  match skipSpace cs with
  | [] => .error (.ended .object)
  | '}' :: rest => .ok (Members.none, rest)
  | '"' :: rest => do
    let (k, rest) ← form.keyHere form.keys rest
    let (v, rest) ← optional (item k.val) rest
    moreMembers form item (form.keys.erase k.val) (Members.none.assign k.val v) rest
  | _ => .error .keyNotString

/-- The end of a positional record whose last key was read. -/
def closeList (cs : List Char) : Except Fault (List Char) :=
  match skipSpace cs with
  | [] => .error (.ended .list)
  | ']' :: rest => .ok rest
  | ',' :: rest =>
    match skipSpace rest with
    | ']' :: _ => .error .danglingComma
    | _ => .error .goesOn
  | _ => .error .goesOn

/-- The members of a positional record for the given keys, up to the closing
    bracket. `seen` members were read before them. -/
def positions (form : Form κ) (item : (k : κ) → Reader (V k)) :
    (left : List κ) → (seen : Nat) → Members V → List Char →
      Except Fault (Members V × List Char)
  | [], _, m, cs => do .ok (m, ← closeList cs)
  | k :: left, seen, m, cs =>
    let next (cs : List Char) : Except Fault (Members V × List Char) := do
      let (v, rest) ← optional (item k) cs
      positions form item left (seen + 1) (m.assign k v) rest
    match skipSpace cs with
    | [] => .error (.ended .list)
    | ']' :: rest =>
      if form.mayBeShort then .ok (m, rest)
      else .error (.tooFew seen form.title form.keys.length)
    | c :: rest =>
      if seen = 0 then next (c :: rest)
      else if c = ',' then
        match skipSpace rest with
        | [] => .error (.ended .value)
        | ']' :: _ => .error .danglingComma
        | rest => next rest
      else .error .noCommaInList

/-- A record in either form. -/
def read (form : Form κ) (item : (k : κ) → Reader (V k)) : Reader (Members V) := fun cs =>
  match skipSpace cs with
  | '{' :: rest => form.object item rest
  | '[' :: rest => form.positions item form.keys 0 Members.none rest
  | cs => .error (mismatch form.title cs)

end Form

end Json

end RowSieve
