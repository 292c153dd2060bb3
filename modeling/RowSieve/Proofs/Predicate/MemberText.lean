import RowSieve.Predicate.Rendering
import RowSieve.Proofs.Predicate.LiteralText

/-!
# Members of Conjunctions Shown by Their Text

A member of a conjunction starts with a word, possibly an empty one, and what
stands right behind it gives the shape away: an operator after a blank, or a
parenthesis. It takes a few characters, since some operators start alike. Behind
the operator come operands that show where they end, whatever they hold: quotes,
commas, parentheses, or the text of another predicate.

Only a negation and a conjunction hold a predicate, in parentheses. That it is
known where the predicate inside ends is assumed here.

## Main definitions

* `FieldPath.isPlain`: The names of the path are words.
* `Predicate.isPlain`: Names are words, date-times are readable, and
  conjunctions have two members.
* `Predicate.member`: A predicate as it is written inside a conjunction.
* `Predicate.lead`, `Predicate.tail`: The word it starts with, and the rest.
* `Predicate.Shape`: The shapes of predicates.
* `Predicate.shapeShown`: The shape, by the first characters behind the word.
* `Predicate.Closes`, `Predicate.Follows`: What may follow a predicate, and
  what may follow a member.
* `Predicate.Shown`, `Predicate.MemberShown`: The predicate is shown there.

## Theorems

* `FieldPath.text_injective`: Paths of words are shown by their text.
* `Predicate.member_split`: Two members of one text start alike.
* `Predicate.listSpelling_cancel`: A list of constants is shown.
* `Predicate.member_shown`: A member is shown.
-/

namespace RowSieve

namespace Text

/-- A letter, a digit or an underscore. -/
def isWordChar (c : Char) : Bool := c.isAlphanum || c == '_'

/-- The text consists of letters, digits and underscores. -/
def isWord (s : String) : Bool := s.toList.all isWordChar

end Text

namespace FieldPath

/-- The parts of the path are words. -/
def isPlain (path : FieldPath) : Bool := path.relation.all Text.isWord && Text.isWord path.name

/-- A character of the text of a path. -/
def isPathChar (c : Char) : Bool := Text.isWordChar c || c == '.'

theorem isPathChar_of_isWordChar {c : Char} (h : Text.isWordChar c = true) :
    isPathChar c = true := by
  rw [isPathChar, h, Bool.true_or]

/-- The text of a path of words is one run of characters. -/
theorem isPathChar_of_mem_text {path : FieldPath} (h : path.isPlain = true) :
    ∀ c ∈ path.text.toList, isPathChar c = true := by
  rcases path with ⟨_ | relation, name⟩
  · simp only [isPlain, Option.all_none, Bool.true_and, Text.isWord, List.all_eq_true] at h
    exact fun c hc => isPathChar_of_isWordChar (h c hc)
  · simp only [isPlain, Option.all_some, Bool.and_eq_true, Text.isWord, List.all_eq_true] at h
    intro c hc
    simp only [text, String.toList_append, List.mem_append] at hc
    rcases hc with (hc | hc) | hc
    · exact isPathChar_of_isWordChar (h.1 c hc)
    · rw [List.mem_singleton.mp hc]
      decide
    · exact isPathChar_of_isWordChar (h.2 c hc)

/-- No word has a dot inside, so a dot shows the relation. -/
theorem text_injective {a b : FieldPath} (ha : a.isPlain = true) (hb : b.isPlain = true)
    (h : a.text = b.text) : a = b := by
  have hword : ∀ {s : String}, Text.isWord s = true → ∀ c ∈ s.toList, Text.isWordChar c = true :=
    fun hs => List.all_eq_true.mp hs
  have hdot : ∀ {s : String} {r t : List Char}, Text.isWord s = true →
      s.toList ≠ r ++ '.' :: t := by
    intro s r t hs heq
    have hmem : '.' ∈ s.toList := heq ▸ List.mem_append_right _ List.mem_cons_self
    exact absurd (hword hs '.' hmem) (by decide)
  have htext : a.text.toList = b.text.toList := congrArg String.toList h
  rcases a with ⟨_ | r, n⟩ <;> rcases b with ⟨_ | s, m⟩ <;>
    simp only [isPlain, Option.all_none, Option.all_some, Bool.true_and, Bool.and_eq_true] at ha hb
  · rw [show n = m from h]
  · simp only [text, String.toList_append, List.append_assoc] at htext
    exact absurd htext (hdot ha)
  · simp only [text, String.toList_append, List.append_assoc] at htext
    exact absurd htext.symm (hdot hb)
  · simp only [text, String.toList_append, List.append_assoc] at htext
    have hend : ∀ cs : List Char, Text.NotNext Text.isWordChar (".".toList ++ cs) := fun cs =>
      Text.notNext_cons.mpr (by decide)
    rcases Text.run_cancel (hword ha.1) (hword hb.1) (hend _) (hend _) htext with ⟨hrs, hrest⟩
    rw [String.toList_inj.mp hrs, String.toList_inj.mp (List.append_cancel_left hrest)]

end FieldPath

namespace Predicate

mutual

/-- Every path consists of words, every date-time is one that some text denotes,
    and every conjunction has at least two members. -/
def isPlain : Predicate → Bool
  | .compare _ path value => path.isPlain && value.isPlain
  | .oneOf path values => path.isPlain && values.all Literal.isPlain
  | .noneOf path values => path.isPlain && values.all Literal.isPlain
  | .isNull path => path.isPlain
  | .isNotNull path => path.isPlain
  | .like path _ => path.isPlain
  | .contains path _ => path.isPlain
  | .not inner => isPlain inner
  | .and members => decide (2 ≤ members.length) && arePlain members
  | .always => true

/-- The same for every member. -/
def arePlain : List Predicate → Bool
  | [] => true
  | p :: ps => isPlain p && arePlain ps

end

theorem arePlain_iff {ps : List Predicate} :
    arePlain ps = true ↔ ∀ p ∈ ps, p.isPlain = true := by
  induction ps with
  | nil => simp only [arePlain, List.not_mem_nil, false_implies, implies_true]
  | cons p ps ih => rw [arePlain, Bool.and_eq_true, ih, List.forall_mem_cons]

/-- A predicate as it is written inside a conjunction. -/
def member (p : Predicate) : List Char := p.enclosed p.spelling

theorem memberSpellings_eq (ps : List Predicate) : memberSpellings ps = ps.map member := by
  induction ps with
  | nil => rfl
  | cons p ps ih => rw [memberSpellings, ih, List.map_cons, member]

/-- The word that a member starts with. -/
def lead : Predicate → List Char
  | .compare _ path _ => path.text.toList
  | .oneOf path _ => path.text.toList
  | .noneOf path _ => path.text.toList
  | .isNull path => path.text.toList
  | .isNotNull path => path.text.toList
  | .like path _ => path.text.toList
  | .contains _ _ => "LOWER".toList
  | .not _ => "NOT".toList
  | .and _ => []
  | .always => "TRUE".toList

/-- What comes behind that word. -/
def tail : Predicate → List Char
  | .compare how _ value => ' ' :: how.sign.toList ++ ' ' :: value.spelling
  | .oneOf _ values => " IN (".toList ++ listSpelling values ++ [')']
  | .noneOf _ values => " NOT IN (".toList ++ listSpelling values ++ [')']
  | .isNull _ => " IS NULL".toList
  | .isNotNull _ => " IS NOT NULL".toList
  | .like _ pattern => " LIKE ".toList ++ Text.Quoted.enclose pattern.toList
  | .contains path needle =>
    '(' :: path.text.toList ++ ") LIKE ".toList ++
      Text.Quoted.enclose ('%' :: needle.toList ++ ['%'])
  | .not inner => " (".toList ++ inner.spelling ++ [')']
  | .and members => '(' :: (Predicate.and members).spelling ++ [')']
  | .always => []

theorem member_eq (p : Predicate) : p.member = p.lead ++ p.tail := by
  have hfour : ∀ a b c d : List Char, a ++ b ++ c ++ d = a ++ (b ++ c ++ d) := fun a b c d => by
    simp only [List.append_assoc]
  cases p with
  | compare how path value => exact List.append_assoc ..
  | oneOf path values => exact hfour ..
  | noneOf path values => exact hfour ..
  | like path pattern => exact List.append_assoc ..
  | contains path needle => rfl
  | not inner => rfl
  | isNull | isNotNull | and | always => rfl

/-- The shapes of predicates. -/
inductive Shape where
  | compare (how : Comparison)
  | oneOf
  | noneOf
  | isNull
  | isNotNull
  | like
  | contains
  | not
  | and
  | always
deriving DecidableEq

def shape : Predicate → Shape
  | .compare how _ _ => .compare how
  | .oneOf _ _ => .oneOf
  | .noneOf _ _ => .noneOf
  | .isNull _ => .isNull
  | .isNotNull _ => .isNotNull
  | .like _ _ => .like
  | .contains _ _ => .contains
  | .not _ => .not
  | .and _ => .and
  | .always => .always

/-- The shape of a member, by its word and the first characters behind it. -/
def shapeShown : List Char → List Char → Shape
  | _, ' ' :: '=' :: _ => .compare .equal
  | _, ' ' :: '<' :: '>' :: _ => .compare .notEqual
  | _, ' ' :: '<' :: '=' :: _ => .compare .lessOrEqual
  | _, ' ' :: '<' :: _ => .compare .less
  | _, ' ' :: '>' :: '=' :: _ => .compare .greaterOrEqual
  | _, ' ' :: '>' :: _ => .compare .greater
  | _, ' ' :: 'I' :: 'N' :: _ => .oneOf
  | _, ' ' :: 'N' :: _ => .noneOf
  | _, ' ' :: 'I' :: 'S' :: ' ' :: 'N' :: 'U' :: _ => .isNull
  | _, ' ' :: 'I' :: 'S' :: _ => .isNotNull
  | _, ' ' :: 'L' :: _ => .like
  | _, ' ' :: '(' :: _ => .not
  | [], '(' :: _ => .and
  | _, '(' :: _ => .contains
  | _, _ => .always

/-- What may follow a predicate: nothing or a closing parenthesis. -/
def Closes (rest : List Char) : Prop := ∀ c ∈ rest.head?, c = ')'

/-- What may follow a member of a conjunction. -/
def Follows (rest : List Char) : Prop := Text.AfterMember " AND ".toList Closes rest

theorem closes_cons {c : Char} {cs : List Char} : Closes (c :: cs) ↔ c = ')' := by
  simp only [Closes, List.head?_cons, Option.mem_def, Option.some.injEq, forall_eq']

theorem closes_parenthesis (rest : List Char) : Closes (')' :: rest) := closes_cons.mpr rfl

/-- What follows a member of a list may follow a literal, if the separator may. -/
theorem ends_of_afterMember {c : Char} {cs rest : List Char} (hc : c = ',' ∨ c = ' ')
    (h : Text.AfterMember (c :: cs) Closes rest) : Literal.Ends rest := by
  intro d hd
  rcases h with h | ⟨t, rfl⟩
  · exact .inl (h d hd)
  · have hdc : c = d := Option.some.inj hd
    exact .inr (hdc ▸ hc)

theorem Follows.ends {rest : List Char} (h : Follows rest) : Literal.Ends rest :=
  ends_of_afterMember (c := ' ') (.inr rfl) h

theorem shapeShown_member (p : Predicate) {rest : List Char} (h : Follows rest) :
    shapeShown p.lead (p.tail ++ rest) = p.shape := by
  cases p with
  | compare how path value => cases how <;> rfl
  | always =>
      rcases h with h | ⟨t, rfl⟩
      · cases rest with
        | nil => rfl
        | cons c cs =>
            rw [closes_cons.mp h]
            rfl
      · rfl
  | _ => rfl

/-- The word at the start is over where the rest begins. -/
theorem notNext_tail (p : Predicate) {rest : List Char} (h : Follows rest) :
    Text.NotNext FieldPath.isPathChar (p.tail ++ rest) := by
  have hcons : ∀ {c : Char} (cs : List Char), FieldPath.isPathChar c = false →
      Text.NotNext FieldPath.isPathChar (c :: cs) := fun cs hc => Text.notNext_cons.mpr hc
  cases p with
  | always =>
      intro c hc
      rcases h.ends c hc with rfl | rfl | rfl <;> decide
  | contains | and => exact hcons _ (show FieldPath.isPathChar '(' = false by decide)
  | _ => exact hcons _ (show FieldPath.isPathChar ' ' = false by decide)

theorem isPathChar_of_mem_lead {p : Predicate} (h : p.isPlain = true) :
    ∀ c ∈ p.lead, FieldPath.isPathChar c = true := by
  cases p with
  | compare | oneOf | noneOf => exact FieldPath.isPathChar_of_mem_text (Bool.and_eq_true_iff.mp h).1
  | contains => exact List.all_eq_true.mp (show "LOWER".toList.all FieldPath.isPathChar by decide)
  | not => exact List.all_eq_true.mp (show "NOT".toList.all FieldPath.isPathChar by decide)
  | always => exact List.all_eq_true.mp (show "TRUE".toList.all FieldPath.isPathChar by decide)
  | and => exact List.forall_mem_nil _
  | _ => exact FieldPath.isPathChar_of_mem_text h

/-- Two members of one text start with the same word, have the same shape, and
    go on alike. -/
theorem member_split {p q : Predicate} {r s : List Char} (hp : p.isPlain = true)
    (hq : q.isPlain = true) (hr : Follows r) (hs : Follows s) (h : p.member ++ r = q.member ++ s) :
    p.lead = q.lead ∧ p.shape = q.shape ∧ p.tail ++ r = q.tail ++ s := by
  rw [member_eq, member_eq, List.append_assoc, List.append_assoc] at h
  rcases Text.run_cancel (isPathChar_of_mem_lead hp) (isPathChar_of_mem_lead hq)
    (notNext_tail p hr) (notNext_tail q hs) h with ⟨hlead, htail⟩
  refine ⟨hlead, ?_, htail⟩
  rw [← shapeShown_member p hr, hlead, htail, shapeShown_member q hs]

/-- The predicate is shown where a predicate may stand. -/
def Shown (p : Predicate) : Prop := Text.Shows spelling (fun q => q.isPlain = true) Closes p

/-- It is shown where a member of a conjunction may stand. -/
def MemberShown (p : Predicate) : Prop := Text.Shows member (fun q => q.isPlain = true) Follows p

/-- A list with a constant is not taken for the end of a list. -/
theorem parenthesis_ne_listSpelling (w : Literal) (ws : List Literal) (r s : List Char) :
    ')' :: r ≠ listSpelling (w :: ws) ++ s := by
  rcases Text.exists_intercalate_cons [',', ' '] w.spelling (ws.map Literal.spelling) with ⟨u, hu⟩
  intro h
  rw [listSpelling, List.map_cons, hu, List.append_assoc] at h
  exact w.spelling_ne_parenthesis r (u ++ s) h

/-- A list of constants is shown in front of its closing parenthesis, and so is
    an empty one. -/
theorem listSpelling_cancel {vs ws : List Literal} {r s : List Char}
    (hvs : vs.all Literal.isPlain = true) (hws : ws.all Literal.isPlain = true)
    (h : listSpelling vs ++ ')' :: r = listSpelling ws ++ ')' :: s) : vs = ws ∧ r = s := by
  cases vs with
  | nil =>
      cases ws with
      | nil => exact ⟨rfl, (List.cons.inj h).2⟩
      | cons w ws => exact absurd h (parenthesis_ne_listSpelling w ws r _)
  | cons v vs =>
      cases ws with
      | nil => exact absurd h.symm (parenthesis_ne_listSpelling v vs s _)
      | cons w ws =>
          have hsep : ∀ t, ¬ Closes ([',', ' '] ++ t) := fun t ht =>
            absurd (closes_cons.mp ht) (by decide)
          have hshown : ∀ l ∈ v :: vs, Text.Shows Literal.spelling (fun m => m.isPlain = true)
              (Text.AfterMember [',', ' '] Closes) l := fun l hl =>
            (Literal.shown (List.all_eq_true.mp hvs l hl)).mono fun t ht =>
              ends_of_afterMember (.inl rfl) ht
          rcases Text.shows_separated hsep hshown (List.all_eq_true.mp hws) (closes_parenthesis r)
            (closes_parenthesis s) h with ⟨hvalues, hrest⟩
          exact ⟨hvalues, (List.cons.inj hrest).2⟩

/-- The path and the needle of a search are shown. The path is over at the
    parenthesis, and the needle between the two wildcards at the quote. -/
theorem needle_cancel {a b : FieldPath} {n m : String} {r s : List Char} (ha : a.isPlain = true)
    (hb : b.isPlain = true) (hr : Follows r) (hs : Follows s)
    (h : (contains a n).tail ++ r = (contains b m).tail ++ s) : a = b ∧ n = m ∧ r = s := by
  have htail : ∀ (a : FieldPath) (n : String) (r : List Char), (contains a n).tail ++ r =
      '(' :: (a.text.toList ++ (") LIKE ".toList ++
        (Text.Quoted.enclose ('%' :: n.toList ++ ['%']) ++ r))) := by
    intro a n r
    rw [← List.append_assoc, ← List.append_assoc]
    rfl
  have hover : ∀ cs, Text.NotNext FieldPath.isPathChar (") LIKE ".toList ++ cs) := fun cs =>
    Text.notNext_cons.mpr (by decide)
  rw [htail, htail, List.cons.injEq] at h
  rcases Text.run_cancel (FieldPath.isPathChar_of_mem_text ha) (FieldPath.isPathChar_of_mem_text hb)
    (hover _) (hover _) h.2 with ⟨hpath, hrest⟩
  rcases Text.Quoted.enclose_cancel hr.ends.noQuoteNext hs.ends.noQuoteNext
    (List.append_cancel_left hrest) with ⟨hneedle, hrest⟩
  rw [List.cons_append, List.cons_append, List.cons.injEq, List.append_cancel_right_eq] at hneedle
  exact ⟨FieldPath.text_injective ha hb (String.toList_inj.mp hpath),
    String.toList_inj.mp hneedle.2, hrest⟩

/-- What is behind the word of a member shows the member, if it is known where
    the predicate inside the parentheses ends. -/
theorem tail_cancel {p q : Predicate} {r s : List Char} (hp : p.isPlain = true)
    (hq : q.isPlain = true) (hr : Follows r) (hs : Follows s)
    (hnot : ∀ inner, p = .not inner → inner.Shown) (hand : ∀ ps, p = .and ps → p.Shown)
    (hlead : p.lead = q.lead) (hshape : p.shape = q.shape) (htail : p.tail ++ r = q.tail ++ s) :
    p = q ∧ r = s := by
  have hpath : ∀ {a b : FieldPath}, a.isPlain = true → b.isPlain = true →
      a.text.toList = b.text.toList → a = b :=
    fun ha hb h => FieldPath.text_injective ha hb (String.toList_inj.mp h)
  -- In each case the other predicate has the same shape.
  cases p with
  | compare how path value =>
      cases q with
      | compare how' path' value' =>
          cases hshape
          rcases Bool.and_eq_true_iff.mp hp with ⟨hwords, hplain⟩
          rcases Bool.and_eq_true_iff.mp hq with ⟨hwords', hplain'⟩
          have hvalue := (List.cons.inj (Text.cancel_front htail)).2
          rcases Literal.shown hplain value' r s hplain' hr.ends hs.ends hvalue with ⟨rfl, hrest⟩
          exact ⟨by rw [hpath hwords hwords' hlead], hrest⟩
      | _ => exact Shape.noConfusion hshape
  | oneOf path values =>
      cases q with
      | oneOf path' values' =>
          rcases Bool.and_eq_true_iff.mp hp with ⟨hwords, hplain⟩
          rcases Bool.and_eq_true_iff.mp hq with ⟨hwords', hplain'⟩
          rcases listSpelling_cancel hplain hplain' (Text.cancel_between htail) with ⟨rfl, hrest⟩
          exact ⟨by rw [hpath hwords hwords' hlead], hrest⟩
      | _ => exact Shape.noConfusion hshape
  | noneOf path values =>
      cases q with
      | noneOf path' values' =>
          rcases Bool.and_eq_true_iff.mp hp with ⟨hwords, hplain⟩
          rcases Bool.and_eq_true_iff.mp hq with ⟨hwords', hplain'⟩
          rcases listSpelling_cancel hplain hplain' (Text.cancel_between htail) with ⟨rfl, hrest⟩
          exact ⟨by rw [hpath hwords hwords' hlead], hrest⟩
      | _ => exact Shape.noConfusion hshape
  | isNull path =>
      cases q with
      | isNull path' => exact ⟨by rw [hpath hp hq hlead], List.append_cancel_left htail⟩
      | _ => exact Shape.noConfusion hshape
  | isNotNull path =>
      cases q with
      | isNotNull path' => exact ⟨by rw [hpath hp hq hlead], List.append_cancel_left htail⟩
      | _ => exact Shape.noConfusion hshape
  | like path pattern =>
      cases q with
      | like path' pattern' =>
          rcases Text.Quoted.enclose_cancel hr.ends.noQuoteNext hs.ends.noQuoteNext
            (Text.cancel_front htail) with ⟨hpattern, hrest⟩
          exact ⟨by rw [hpath hp hq hlead, String.toList_inj.mp hpattern], hrest⟩
      | _ => exact Shape.noConfusion hshape
  | contains path needle =>
      cases q with
      | contains path' needle' =>
          rcases needle_cancel hp hq hr hs htail with ⟨rfl, rfl, hrest⟩
          exact ⟨rfl, hrest⟩
      | _ => exact Shape.noConfusion hshape
  -- From here on a predicate stands in the parentheses.
  | not inner =>
      cases q with
      | not inner' =>
          rcases hnot inner rfl inner' (')' :: r) (')' :: s) hq (closes_parenthesis r)
            (closes_parenthesis s) (Text.cancel_between htail) with ⟨rfl, hrest⟩
          exact ⟨rfl, (List.cons.inj hrest).2⟩
      | _ => exact Shape.noConfusion hshape
  | and ps =>
      cases q with
      | and qs =>
          rcases hand ps rfl (.and qs) (')' :: r) (')' :: s) hq (closes_parenthesis r)
            (closes_parenthesis s) (Text.cancel_between (a := ['(']) htail) with ⟨hsame, hrest⟩
          exact ⟨hsame, (List.cons.inj hrest).2⟩
      | _ => exact Shape.noConfusion hshape
  | always =>
      cases q with
      | always => exact ⟨rfl, htail⟩
      | _ => exact Shape.noConfusion hshape

/-- A member is shown. -/
theorem member_shown {p : Predicate} (hp : p.isPlain = true)
    (hnot : ∀ inner, p = .not inner → inner.Shown) (hand : ∀ ps, p = .and ps → p.Shown) :
    p.MemberShown := by
  intro q r s hq hr hs h
  rcases member_split hp hq hr hs h with ⟨hlead, hshape, htail⟩
  exact tail_cancel hp hq hr hs hnot hand hlead hshape htail

end Predicate

end RowSieve
