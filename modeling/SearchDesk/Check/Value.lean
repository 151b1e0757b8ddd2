import SearchDesk.Check.Issue
import SearchDesk.Check.View
import SearchDesk.Text.Decimal
import SearchDesk.Text.Utf8

/-!
# Checking the fields of a record

How a field of a record is read from a value. The reading is lenient where nothing can be
misunderstood:

* an integer may be written as a truth value, as a number without a fractional part or as
  a text with blanks around it, a sign, leading zeros, single underscores and a fraction of
  zeros;
* a number may be written as an integer, a truth value or a text;
* a text may be given as bytes, a list has to be a list, and a name one of the known names.

Bounds are checked after the value is read.
-/

namespace SearchDesk.Check

/-! ## Numbers written as text -/

/-- The digits of a text and whether a minus sign stands before them. -/
def unsigned : List Char → Bool × List Char
  | '-' :: rest => (true, rest)
  | s => (false, s)

/-- Whether the characters are the digits of an integer in its plain form: they do not begin
with a zero unless it stands alone. -/
def isPlainNatural : List Char → Bool
  | [] => false
  | ['0'] => true
  | '0' :: _ => false
  | ds => ds.all Char.isDigit

/-- The integer in its plain form, a minus sign and digits. -/
def plainInteger? (s : List Char) : Option Int :=
  let (negative, ds) := unsigned s
  if isPlainNatural ds then
    some (if negative then -(asciiNumber ds : Int) else asciiNumber ds)
  else none

/-- Whether a text begins with an integer in its plain form that is too long, its sign
included. -/
def beginsTooLong (s : List Char) : Bool :=
  let ds := (unsigned s).2
  let digits := ds.takeWhile Char.isDigit
  ds.head? ≠ some '0' && !digits.isEmpty
    && digitLimit < s.length - ds.length + digits.length

/-- The text without the zeros that it begins with, but for one before a point or the end;
underscores between the zeros go with them. `none` if it begins with neither a digit nor
a minus sign, or if something else stands after the zeros. -/
def dropZeros? : List Char → Option (List Char)
  | '0' :: rest =>
    let skipped := rest.takeWhile fun c => c = '0' || c = '_'
    -- the character right before a point or the end stays
    let last := skipped.getLastD '0'
    match rest.drop skipped.length with
    | [] => some [last]
    | '.' :: tail => some (last :: '.' :: tail)
    | c :: tail => if c.isDigit || c = '-' then some (c :: tail) else none
  | c :: rest => if c.isDigit || c = '-' then some (c :: rest) else none
  | [] => none

/-- The text without a fraction that consists of zeros. -/
def dropZeroFraction (s : List Char) : List Char :=
  match s.dropWhile (· ≠ '.') with
  | '.' :: fraction =>
    if !fraction.isEmpty && fraction.all (· = '0') then s.takeWhile (· ≠ '.') else s
  | _ => s

/-- Whether two underscores stand side by side. -/
def hasDoubleUnderscore : List Char → Bool
  | '_' :: '_' :: _ => true
  | _ :: rest => hasDoubleUnderscore rest
  | [] => false

/-- The text without its underscores, if each of them stands alone and inside. -/
def dropUnderscores? (s : List Char) : Option (List Char) :=
  if s.head? = some '_' ∨ s.getLast? = some '_' ∨ hasDoubleUnderscore s ∨ ¬ s.contains '_' then
    none
  else some (s.filter (· ≠ '_'))

/-- The text without a sign: a plus sign that no minus sign follows, and a minus sign that no
other sign follows. -/
def dropSigns? (s : List Char) : Option (Bool × List Char) :=
  let afterPlus := match s with
    | '+' :: rest => if rest.head? = some '-' then none else some rest
    | _ => some s
  afterPlus.bind fun s =>
    let (negative, body) := unsigned s
    if negative && (body.head? = some '-' || body.head? = some '+') then none
    else some (negative, body)

/-- The plain form of an integer in a lenient spelling, if there is one. -/
def plainForm? (s : List Char) : Option (List Char) := do
  let (negative, unsigned) ← dropSigns? (trimBoth isWhiteSpace s)
  let whole := dropZeroFraction (← dropZeros? unsigned)
  let body := (dropUnderscores? whole).getD whole
  return if negative then '-' :: body else body

/-- The integer that a text stands for. Only an integer in its plain form is told to be too
long; in any other spelling it is unreadable. -/
def integerOfText (text : String) : Checked Int :=
  let s := text.toList
  if beginsTooLong s then .fail .integerTooLarge
  else
    match plainInteger? s with
    | some n => .valid n
    | none =>
      match plainForm? s with
      | none => .fail .unreadableInteger
      | some p =>
        if beginsTooLong p then .fail .unreadableInteger
        else
          match plainInteger? p with
          | some n => .valid n
          | none => .fail .unreadableInteger

/-- The number that a text stands for. -/
def numberOfText (text : String) : Checked Binary64 :=
  let s := text.toList
  match plainNumber? (trimBoth isWhiteSpace s) with
  | some x => .valid x
  | none =>
    match (dropUnderscores? s).bind plainNumber? with
    | some x => .valid x
    | none => .fail .unreadableNumber

/-! ## Values -/

section
variable {α : Type} [Viewable α]

/-- A text. -/
def text (v : α) : Checked String :=
  match view v with
  | .text s => .valid s
  | .bytes bs =>
    match decodeUtf8 bs with
    | .ok s => .valid s
    | .error _ => .fail .undecodable
  | _ => .fail .notText

/-- The integers that a floating-point number may stand for are smaller than this. -/
def wordBound : Int := Nat.pow 2 63

/-- The integer that a floating-point number is equal to. -/
def integerOfFloat (x : Binary64) : Checked Int :=
  if !x.isFinite then .fail .notFinite
  else
    match x.toInt? with
    | none => .fail .fractional
    | some n =>
      if -wordBound < n ∧ n < wordBound then .valid n else .fail .integerTooLarge

/-- An integer. -/
def integer (v : α) : Checked Int :=
  match view v with
  | .int n => .valid n
  | .bool b => .valid (if b then 1 else 0)
  | .float x => integerOfFloat x
  | .text s => integerOfText s
  | .bytes bs =>
    match decodeUtf8 bs with
    | .ok s => integerOfText s
    | .error _ => .fail .unreadableInteger
  | _ => .fail .notInteger

/-- An integer above a bound. -/
def integerAbove (bound : Nat) (v : α) : Checked Int :=
  (integer v).andThen fun n => if bound < n then .valid n else .fail (.notAbove bound)

/-- A natural number. -/
def natural (v : α) : Checked Nat :=
  (integer v).andThen fun n => if 0 ≤ n then .valid n.toNat else .fail (.below 0)

/-- A list whose elements are checked one by one. -/
def list {β : Type} (check : α → Checked β) (v : α) : Checked (List β) :=
  match view v with
  | .list items => Checked.elements check 0 items
  | _ => .fail .notList

/-- The members of a value that stands for a record. -/
def record (name : String) (v : α) : Checked (Entries α) :=
  match view v with
  | .record ms => .valid ms
  | _ => .fail (.notRecord name)

end

/-- A text or null. -/
def optionalText : Json → Checked (Option String)
  | .null => .valid none
  | v => (text v).map some

/-- A floating-point number. -/
def number : Json → Checked Binary64
  | .float x => .valid x
  | .int n =>
    let x := Binary64.ofInt n
    if x.isFinite then .valid x else .fail .notNumber
  | .bool b => .valid (if b then .one else .zero)
  | .str s => numberOfText s
  | _ => .fail .notNumber

/-- A share: a number from zero to one. What is no number is not below one, so it is refused. -/
def share (v : Json) : Checked Binary64 :=
  (number v).andThen fun x =>
    if !Binary64.le x .one then .fail (.above 1)
    else if !Binary64.le .zero x then .fail (.below 0)
    else .valid x

/-- A kind by its name. -/
def kind (v : Json) : Checked Schema.Kind :=
  match Schema.Kind.ofJson? v with
  | some k => .valid k
  | none => .fail (.notOneOf (Schema.Kind.all.map Schema.Kind.name))

/-- A storage type by its name. -/
def storageType (v : Json) : Checked Schema.StorageType :=
  match Schema.StorageType.ofJson? v with
  | some t => .valid t
  | none => .fail (.notOneOf (Schema.StorageType.all.map Schema.StorageType.name))

/-! ## Fields -/

/-- The names under which a field is looked up, the preferred one first. -/
structure FieldName where
  wire : String
  plain : String := wire

section
variable {α β : Type}

/-- The value of a field under the first of its names that is present. -/
def FieldName.find? (name : FieldName) (ms : Entries α) : Option α :=
  match ms.get? name.wire with
  | some v => some v
  | none => ms.get? name.plain

/-- A field that has to be present. -/
def required (name : FieldName) (check : α → Checked β) (ms : Entries α) : Checked β :=
  (match name.find? ms with
    | some v => check v
    | none => .fail .missing).under name.wire

/-- A field with a default. -/
def defaulted (name : FieldName) (absent : β) (check : α → Checked β) (ms : Entries α) :
    Checked β :=
  match name.find? ms with
  | some v => (check v).under name.wire
  | none => .valid absent

end

end SearchDesk.Check
