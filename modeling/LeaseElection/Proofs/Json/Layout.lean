import LeaseElection.Text.Basic

namespace LeaseElection.Json

/-! # How JSON may be laid out

The grammar of JSON texts, apart from any reader: how numbers and strings may be spelled, where
blanks may stand, and which texts are values. An object's members keep their names apart from their
values, so that statements can be about either. -/

def IsBlank (text : List Char) : Prop := ∀ c ∈ text, c = ' ' ∨ c = '\n' ∨ c = '\t' ∨ c = '\r'

theorem IsBlank.append {front back : List Char} (first : IsBlank front) (second : IsBlank back) :
    IsBlank (front ++ back) := by
  intro c among
  rcases List.mem_append.mp among with inFront | inBack
  · exact first c inFront
  · exact second c inBack

abbrev Blanks := {text : List Char // IsBlank text}

/-- A row of digits, at least one. -/
abbrev DigitRow := {cs : List Char // cs ≠ [] ∧ ∀ c ∈ cs, c.isDigit = true}

theorem DigitRow.exists_digit (row : DigitRow) :
    ∃ d more, row.val = d :: more ∧ d.isDigit = true := by
  obtain ⟨d, more, same⟩ := List.exists_cons_of_ne_nil row.property.1
  exact ⟨d, more, same, row.property.2 d (same ▸ List.mem_cons_self)⟩

inductive Sign where
  | none
  | plus
  | minus

def Sign.text : Sign → List Char
  | .none => []
  | .plus => ['+']
  | .minus => ['-']

structure Exponent where
  capital : Bool
  sign : Sign
  digits : DigitRow

def Exponent.text (e : Exponent) : List Char :=
  (if e.capital then 'E' else 'e') :: (e.sign.text ++ e.digits.val)

/-- A number of any size, with a zero in front only if this is all of its whole part. -/
structure DecimalNumber where
  negative : Bool
  whole : DigitRow
  leading : ∀ more, whole.val = '0' :: more → more = []
  places : Option DigitRow
  exponent : Option Exponent

namespace DecimalNumber

def fractionText (n : DecimalNumber) : List Char := n.places.elim [] fun places => '.' :: places.val

def exponentText (n : DecimalNumber) : List Char := n.exponent.elim [] Exponent.text

def magnitude (n : DecimalNumber) : List Char := n.whole.val ++ (n.fractionText ++ n.exponentText)

def text (n : DecimalNumber) : List Char := if n.negative then '-' :: n.magnitude else n.magnitude

theorem fraction_cases (n : DecimalNumber) : n.fractionText ++ n.exponentText = [] ∨
    ∃ c more, n.fractionText ++ n.exponentText = c :: more ∧ (c = '.' ∨ c = 'e' ∨ c = 'E') := by
  unfold fractionText exponentText
  cases n.places with
  | some places => exact .inr ⟨'.', _, rfl, .inl rfl⟩
  | none =>
      cases n.exponent with
      | none => exact .inl rfl
      | some e =>
          obtain ⟨capital, sign, digits⟩ := e
          cases capital with
          | false => exact .inr ⟨'e', _, rfl, .inr (.inl rfl)⟩
          | true => exact .inr ⟨'E', _, rfl, .inr (.inr rfl)⟩

theorem text_cases (n : DecimalNumber) : n.text = '-' :: n.magnitude ∨
    (n.text = n.magnitude ∧ ∃ d more, n.magnitude = d :: more ∧ d.isDigit = true) := by
  unfold text
  cases n.negative with
  | true => exact .inl rfl
  | false =>
      obtain ⟨d, more, row, digit⟩ := DigitRow.exists_digit n.whole
      exact .inr ⟨rfl, d, _, by rw [magnitude, row, List.cons_append], digit⟩

end DecimalNumber

structure HexDigit where
  value : Fin 16
  capital : Bool

def HexDigit.char (d : HexDigit) : Char :=
  if d.capital ∧ 10 ≤ d.value.val then Char.ofNat (55 + d.value.val) else Text.hexDigit d.value.val

/-- Four hexadecimal digits. -/
structure HexQuad where
  first : HexDigit
  second : HexDigit
  third : HexDigit
  fourth : HexDigit

namespace HexQuad

def text (q : HexQuad) : List Char := [q.first.char, q.second.char, q.third.char, q.fourth.char]

def code (q : HexQuad) : Nat :=
  4096 * q.first.value + 256 * q.second.value + 16 * q.third.value + q.fourth.value

/-- The first half of a character beyond the first 2^16. -/
def IsHigh (q : HexQuad) : Prop := 0xD800 ≤ q.code ∧ q.code < 0xDC00

def IsLow (q : HexQuad) : Prop := 0xDC00 ≤ q.code ∧ q.code < 0xE000

instance (q : HexQuad) : Decidable q.IsHigh := inferInstanceAs (Decidable (_ ∧ _))

instance (q : HexQuad) : Decidable q.IsLow := inferInstanceAs (Decidable (_ ∧ _))

theorem IsHigh.not_isLow {q : HexQuad} (high : q.IsHigh) : ¬ q.IsLow := by
  unfold IsHigh at high
  unfold IsLow
  omega

end HexQuad

/-- The letters that stand for a character behind a backslash. -/
def shorthands : List (Char × Char) :=
  [('"', '"'), ('\\', '\\'), ('/', '/'), ('b', '\x08'), ('f', '\x0c'), ('n', '\n'), ('r', '\r'),
    ('t', '\t')]

/-- One unit of a string's text: a character as it is, a shorthand, or the code of a character or of
half a character. -/
inductive Stroke where
  | plain (c : Char) (visible : 0x20 ≤ c.toNat ∧ c ≠ '"' ∧ c ≠ '\\')
  | short (letter c : Char) (listed : (letter, c) ∈ shorthands)
  | unit (code : HexQuad)

def Stroke.text : Stroke → List Char
  | .plain c _ => [c]
  | .short letter _ _ => ['\\', letter]
  | .unit code => '\\' :: 'u' :: code.text

/-- The characters that strokes stand for, if each half of a character has its other half. -/
def spoken? : List Stroke → Option (List Char)
  | [] => some []
  | .plain c _ :: more => (spoken? more).map (c :: ·)
  | .short _ c _ :: more => (spoken? more).map (c :: ·)
  | .unit code :: more =>
    if code.IsHigh then
      match more with
      | .unit half :: others =>
        if half.IsLow then
          (spoken? others).map
            (Char.ofNat (0x10000 + (code.code - 0xD800) * 0x400 + (half.code - 0xDC00)) :: ·)
        else none
      | _ => none
    else if code.IsLow then none
    else (spoken? more).map (Char.ofNat code.code :: ·)

theorem spoken?_unit {code : HexQuad} (notHigh : ¬ code.IsHigh) (notLow : ¬ code.IsLow)
    (more : List Stroke) :
    spoken? (.unit code :: more) = (spoken? more).map (Char.ofNat code.code :: ·) := by
  rw [spoken?.eq_def (.unit code :: more)]
  dsimp only
  rw [if_neg notHigh, if_neg notLow]

def quoted (strokes : List Stroke) : List Char := '"' :: (strokes.flatMap Stroke.text ++ ['"'])

/-- The text is a string's, in one of its spellings. -/
def Spells (text : List Char) (s : String) : Prop :=
  ∃ strokes, text = quoted strokes ∧ spoken? strokes = some s.toList

/-- A value among others, with the blanks around it. -/
structure Element where
  before : Blanks
  value : List Char
  after : Blanks

def Element.text (e : Element) : List Char := e.before.val ++ (e.value ++ e.after.val)

/-- An element with a name. -/
structure Member extends Element where
  beforeName : Blanks
  name : List Stroke
  beforeColon : Blanks

namespace Member

def key (m : Member) : List Char :=
  m.beforeName.val ++ (quoted m.name ++ (m.beforeColon.val ++ [':']))

def text (m : Member) : List Char := m.key ++ m.toElement.text

/-- The name, if it is a string of whole characters. -/
def name? (m : Member) : Option String := (spoken? m.name).map String.ofList

end Member

theorem exists_names {members : List Member} (named : ∀ m ∈ members, ∃ name, m.name? = some name) :
    ∃ names : List String, members.map Member.name? = names.map some := by
  induction members with
  | nil => exact ⟨[], rfl⟩
  | cons m members ih =>
      obtain ⟨name, own⟩ := named m List.mem_cons_self
      obtain ⟨names, others⟩ := ih fun m among => named m (List.mem_cons_of_mem _ among)
      exact ⟨name :: names, by rw [List.map_cons, List.map_cons, own, others]⟩

def commaSeparated (items : List (List Char)) : List Char := [','].intercalate items

theorem commaSeparated_cons (item : List Char) (items : List (List Char)) :
    commaSeparated (item :: items) = item ++ items.flatMap (',' :: ·) := by
  unfold commaSeparated
  induction items generalizing item with
  | nil => simp
  | cons next items ih => rw [List.intercalate_cons_cons, ih, List.flatMap_cons]; simp

def arrayText (elements : List Element) (inside : Blanks) : List Char :=
  '[' :: (commaSeparated (elements.map Element.text) ++ (inside.val ++ [']']))

def objectText (members : List Member) (inside : Blanks) : List Char :=
  '\x7b' :: (commaSeparated (members.map Member.text) ++ (inside.val ++ ['\x7d']))

/-- The texts of values. A string that is skipped may hold halves of characters. -/
inductive WellFormed : List Char → Prop
  | null : WellFormed ['n', 'u', 'l', 'l']
  | true : WellFormed ['t', 'r', 'u', 'e']
  | false : WellFormed ['f', 'a', 'l', 's', 'e']
  | number (n : DecimalNumber) : WellFormed n.text
  | string (strokes : List Stroke) : WellFormed (quoted strokes)
  | array (elements : List Element) (inside : Blanks)
      (values : ∀ e ∈ elements, WellFormed e.value) : WellFormed (arrayText elements inside)
  | object (members : List Member) (inside : Blanks)
      (values : ∀ m ∈ members, WellFormed m.value) : WellFormed (objectText members inside)

/-- A value is a string or a number, or begins with a letter or bracket. -/
theorem WellFormed.kind {value : List Char} (wellFormed : WellFormed value) :
    (∃ strokes, value = quoted strokes) ∨ (∃ n : DecimalNumber, value = n.text) ∨
      ∃ c more, value = c :: more ∧ c ∈ ['n', 't', 'f', '[', '\x7b'] := by
  cases wellFormed with
  | null => exact .inr (.inr ⟨'n', _, rfl, by decide⟩)
  | true => exact .inr (.inr ⟨'t', _, rfl, by decide⟩)
  | false => exact .inr (.inr ⟨'f', _, rfl, by decide⟩)
  | number n => exact .inr (.inl ⟨n, rfl⟩)
  | string strokes => exact .inl ⟨strokes, rfl⟩
  | array elements inside values => exact .inr (.inr ⟨'[', _, rfl, by decide⟩)
  | object members inside values => exact .inr (.inr ⟨'\x7b', _, rfl, by decide⟩)

/-- An object that is a text by itself. -/
structure Document where
  before : Blanks
  members : List Member
  inside : Blanks
  after : Blanks
  values : ∀ m ∈ members, WellFormed m.value

namespace Document

def text (d : Document) : List Char :=
  d.before.val ++ (objectText d.members d.inside ++ d.after.val)

/-- The members' names in order. -/
def names (d : Document) : List (Option String) := d.members.map Member.name?

end Document

end LeaseElection.Json
