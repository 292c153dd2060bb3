/-!
# JSON Texts as Trees

Every way to write a JSON value, with the white space between its tokens, the
escapes in its strings and the spelling of its numbers. A tree is a value as it
is written, so its text is a function of the tree, and whatever is proved of
the texts of all trees holds of all well-formed JSON.

What a tree denotes is another matter, and depends on the type that is asked
for. A number denotes an integer if it has no fraction and no exponent, however
many digits it has, and a zero may have a sign like any other. A string denotes
its characters, unless an escape is one half of a surrogate pair without the
other half, which denotes nothing.

No reader is mentioned here, and none of its tables of characters.

## Main definitions

* `Space`, `Digits`, `NumberText`, `CodeUnit`, `StringPiece`: The tokens.
* `Tree`: A value as it is written.
* `Tree.text`: Its characters.
* `NumberText.integer?`, `StringPiece.decode`: What a token denotes.
* `Tree.integer?`, `Tree.string?`, `Tree.boolean?`, `Tree.items?`: What a tree
  denotes, for the four shapes of operand.
* `ObjectText`: A text that holds one object.
* `Entry`: A key and a value of an object, the key decoded.
-/

namespace RowSieve

namespace Json

/-- White space between two tokens. -/
structure Space where
  chars : List Char
  blank : ∀ c ∈ chars, c ∈ [' ', '\t', '\n', '\r']

/-- At least one digit. -/
structure Digits where
  chars : List Char
  nonempty : chars ≠ []
  digit : ∀ c ∈ chars, c.isDigit = true

/-- The number that digits denote. -/
def Digits.value (ds : Digits) : Nat := Nat.ofDigitChars 10 ds.chars 0

/-- The exponent of a number, with its letter and perhaps a sign. -/
structure ExponentText where
  letter : Char
  isLetter : letter = 'e' ∨ letter = 'E'
  sign : Option Char
  isSign : sign = none ∨ sign = some '+' ∨ sign = some '-'
  digits : Digits

/-- A number as it is written. Only zero may start with a zero. -/
structure NumberText where
  negative : Bool
  whole : Digits
  unpadded : whole.chars.head? = some '0' → whole.chars.length = 1
  fraction : Option Digits
  exponent : Option ExponentText

/-- The short escapes of strings and the characters they stand for. -/
def shortEscapes : List (Char × Char) :=
  [('"', '"'), ('\\', '\\'), ('/', '/'), ('b', '\x08'), ('f', '\x0c'), ('n', '\n'),
   ('r', '\r'), ('t', '\t')]

/-- The hexadecimal digits and the numbers they stand for. -/
def hexDigits : List (Char × Nat) :=
  [('0', 0), ('1', 1), ('2', 2), ('3', 3), ('4', 4), ('5', 5), ('6', 6), ('7', 7), ('8', 8),
   ('9', 9), ('a', 10), ('b', 11), ('c', 12), ('d', 13), ('e', 14), ('f', 15), ('A', 10),
   ('B', 11), ('C', 12), ('D', 13), ('E', 14), ('F', 15)]

structure HexDigit where
  char : Char
  value : Nat
  listed : (char, value) ∈ hexDigits

/-- A code unit of sixteen bits by its four digits. -/
structure CodeUnit where
  first : HexDigit
  second : HexDigit
  third : HexDigit
  fourth : HexDigit

namespace CodeUnit

def chars (u : CodeUnit) : List Char := [u.first.char, u.second.char, u.third.char, u.fourth.char]

def value (u : CodeUnit) : Nat :=
  ((u.first.value * 16 + u.second.value) * 16 + u.third.value) * 16 + u.fourth.value

/-- The unit is the first half of a surrogate pair. -/
def IsFirstHalf (u : CodeUnit) : Prop := 0xD800 ≤ u.value ∧ u.value ≤ 0xDBFF

/-- The unit is the second half of a surrogate pair. -/
def IsSecondHalf (u : CodeUnit) : Prop := 0xDC00 ≤ u.value ∧ u.value ≤ 0xDFFF

instance (u : CodeUnit) : Decidable u.IsFirstHalf := inferInstanceAs (Decidable (_ ∧ _))

instance (u : CodeUnit) : Decidable u.IsSecondHalf := inferInstanceAs (Decidable (_ ∧ _))

end CodeUnit

/-- A piece of a string: a character that stands for itself, a short escape, or
    an escape by code unit. -/
inductive StringPiece where
  | plain (c : Char) (h : c ≠ '"' ∧ c ≠ '\\' ∧ 0x20 ≤ c.toNat)
  | short (c e : Char) (h : (c, e) ∈ shortEscapes)
  | unit (u : CodeUnit)

/-- An element of a list and the space around it. -/
structure Item (τ : Type) where
  before : Space
  value : τ
  after : Space

/-- A member of an object and the space around its parts. -/
structure Member (τ : Type) where
  before : Space
  key : List StringPiece
  beforeColon : Space
  afterColon : Space
  value : τ
  after : Space

/-- A value as it is written. -/
inductive Tree where
  | null
  | boolean (b : Bool)
  | number (n : NumberText)
  | string (pieces : List StringPiece)
  | list (inner : Space) (items : List (Item Tree))
  | object (inner : Space) (members : List (Member Tree))

def ExponentText.text (e : ExponentText) : List Char :=
  e.letter :: (e.sign.toList ++ e.digits.chars)

/-- The fraction and the exponent of a number, and the point between. -/
def NumberText.tail (n : NumberText) : List Char :=
  ((n.fraction.map fun ds => '.' :: ds.chars).getD []) ++
    ((n.exponent.map ExponentText.text).getD [])

def NumberText.text (n : NumberText) : List Char :=
  (if n.negative then ['-'] else []) ++ (n.whole.chars ++ n.tail)

def StringPiece.text : StringPiece → List Char
  | .plain c _ => [c]
  | .short c _ _ => ['\\', c]
  | .unit u => '\\' :: 'u' :: u.chars

/-- The text of a string after its opening quote, the closing one included. -/
def StringPiece.body (pieces : List StringPiece) : List Char := pieces.flatMap text ++ ['"']

mutual

/-- The characters of a value. -/
def Tree.text : Tree → List Char
  | .null => "null".toList
  | .boolean true => "true".toList
  | .boolean false => "false".toList
  | .number n => n.text
  | .string pieces => '"' :: StringPiece.body pieces
  | .list inner items => '[' :: (inner.chars ++ [','].intercalate (itemTexts items) ++ [']'])
  | .object inner members =>
    '{' :: (inner.chars ++ [','].intercalate (memberTexts members) ++ ['}'])

/-- The texts of the elements of a list. -/
def itemTexts : List (Item Tree) → List (List Char)
  | [] => []
  | ⟨before, value, after⟩ :: items =>
    (before.chars ++ (value.text ++ after.chars)) :: itemTexts items

/-- The texts of the members of an object. -/
def memberTexts : List (Member Tree) → List (List Char)
  | [] => []
  | ⟨before, key, beforeColon, afterColon, value, after⟩ :: members =>
    (before.chars ++ '"' :: (StringPiece.body key ++ (beforeColon.chars ++ ':' ::
      (afterColon.chars ++ (value.text ++ after.chars))))) :: memberTexts members

end

/-- The integer that a number denotes, if it has no fraction and no exponent. -/
def NumberText.integer? (n : NumberText) : Option Int :=
  match n.fraction, n.exponent with
  | none, none =>
    some (if n.negative then -(n.whole.value : Int) else n.whole.value)
  | _, _ => none

/-- The number is a zero with a sign in front. -/
def NumberText.isSignedZero (n : NumberText) : Bool := n.negative && n.integer? == some 0

/-- The characters that the pieces of a string denote. Two code units that are
    the halves of a pair denote one character together. -/
def StringPiece.decode : List StringPiece → Option (List Char)
  | [] => some []
  | .plain c _ :: pieces => (decode pieces).map (c :: ·)
  | .short _ e _ :: pieces => (decode pieces).map (e :: ·)
  | .unit u :: pieces =>
    if u.IsSecondHalf then none
    else if u.IsFirstHalf then
      match pieces with
      | .unit v :: pieces =>
        if v.IsSecondHalf then
          (decode pieces).map
            (Char.ofNat (0x10000 + (u.value - 0xD800) * 0x400 + (v.value - 0xDC00)) :: ·)
        else none
      | _ => none
    else (decode pieces).map (Char.ofNat u.value :: ·)

namespace Tree

/-- The integer that a value denotes. -/
def integer? : Tree → Option Int
  | .number n => n.integer?
  | _ => none

/-- The characters that a value denotes. -/
def string? : Tree → Option (List Char)
  | .string pieces => StringPiece.decode pieces
  | _ => none

/-- The truth value that a value denotes. -/
def boolean? : Tree → Option Bool
  | .boolean b => some b
  | _ => none

/-- The values that a list holds. -/
def items? : Tree → Option (List Tree)
  | .list _ items => some (items.map Item.value)
  | _ => none

/-- The value is a zero with a sign in front. -/
def isSignedZero : Tree → Bool
  | .number n => n.isSignedZero
  | _ => false

/-- The value is such a zero, or a list that has one among its elements. -/
def hasSignedZero (t : Tree) : Bool := t.isSignedZero || (t.items?.getD []).any isSignedZero

end Tree

/-- A text that holds one object and nothing else. -/
structure ObjectText where
  before : Space
  inner : Space
  members : List (Member Tree)
  after : Space

/-- A key and a value. A key that denotes no characters is no text at all. -/
structure Entry where
  key? : Option String
  value : Tree

/-- What a member says, without its layout. -/
def Member.entry (m : Member Tree) : Entry where
  key? := (StringPiece.decode m.key).map String.ofList
  value := m.value

namespace ObjectText

def text (o : ObjectText) : String :=
  String.ofList (o.before.chars ++ ((Tree.object o.inner o.members).text ++ o.after.chars))

/-- The keys and values of an object, as they come. -/
def entries (o : ObjectText) : List Entry := o.members.map Member.entry

end ObjectText

end Json

end RowSieve
