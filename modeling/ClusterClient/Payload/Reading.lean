import ClusterClient.Json.Basic
import ClusterClient.Number.Decimal
import ClusterClient.Payload.Checked

/-!
# Reading the parts of a payload

Scalars are read leniently: a number may be written as text, and a truth value as a number or a word.
Fields are looked up by the name that the cluster sends and then by the name of the field; the path of an
issue names the one that was found.
-/

namespace ClusterClient

/-- A reader of one part. -/
abbrev Reading (α : Type) := Json → Checked α

namespace Reading

def text : Reading Text
  | .text t => .ok t
  | _ => .fail .notText

/-! ## Whole numbers -/

/-- Blanks that may surround a number written as text. -/
def isOuterBlank (c : CodePoint) : Bool := c.isAsciiBlank || (!c.isAscii && c.isBlank)

/-- A text behind the minus sign that it may begin with. -/
def unsigned (t : Text) : Text := (Text.dropStart? "-" t).getD t

/-- The number that a text writes plainly: perhaps a minus sign, then digits, the first of them zero only
if it stands alone. -/
def plainWhole? (t : Text) : Option Int :=
  -- the length of the text counts, sign included
  let digits := unsigned t
  if t.length ≤ Whole.maxDigits && (digits.head? ≠ some (CodePoint.ofChar '0') || digits.length = 1) then
    (Numeral.digitRun? digits).map fun values =>
      let n : Int := Numeral.ofDigits values
      if digits.length < t.length then -n else n
  else none

/-- Whether a text begins with a plain number that, with its sign, is too long to be read. -/
def beginsTooLong (t : Text) : Bool :=
  let digits := unsigned t
  let run := digits.takeWhile CodePoint.isAsciiDigit
  run.head? ≠ some (CodePoint.ofChar '0') && !run.isEmpty &&
    Whole.maxDigits < (t.length - digits.length) + run.length

/-- What is left of a text when the zeros in front of its number, and underscores among them, are taken
away. The number begins at a digit or at a minus sign, and a zero stays before a point. `none` where the
text does not begin with a number. -/
def withoutZeros? (t : Text) : Option Text :=
  let starts (c : CodePoint) : Bool := (c.isAsciiDigit && c ≠ CodePoint.ofChar '0') || c = CodePoint.ofChar '-'
  match t with
  | [] => none
  | first :: rest =>
    -- the number begins at once
    if starts first then some t
    else if first ≠ CodePoint.ofChar '0' then none
    else
      let (zeros, number) :=
        rest.span fun c => c = CodePoint.ofChar '0' || c = CodePoint.ofChar '_'
      -- what has been skipped begins with a zero, so that there is a last one
      let last := (first :: zeros).getLast (by simp)
      match number with
      | [] => some [last]
      | c :: _ =>
        if starts c then some number
        else if c = CodePoint.ofChar '.' then some (last :: number)
        else none

/-- A text without a first point and the zeros after it, where there is nothing else after it. -/
def withoutZeroFraction (t : Text) : Text :=
  let (whole, fraction) := t.breakAt (· = CodePoint.ofChar '.')
  -- without a point there is no fraction, and nothing is taken away
  if fraction.tail.all (· = CodePoint.ofChar '0') then whole else t

/-- Whether underscores separate: none at an end and no two together. -/
def underscoresApart (t : Text) : Bool := (t.splitOn '_').all fun part => !part.isEmpty

/-- A text without its underscores, if they separate. -/
def withoutUnderscores (t : Text) : Text :=
  if underscoresApart t then t.filter (· ≠ CodePoint.ofChar '_') else t

/-- A text that may write a whole number, brought into plain form: blanks around it, a plus sign, zeros in
front, a fraction of zeros and single underscores are taken away. -/
def plainForm? (t : Text) : Option Text :=
  let body := t.stripBy isOuterBlank
  let number? :=
    match Text.dropStart? "+" body, Text.dropStart? "-" body with
    -- one sign is enough
    | some rest, _ => if rest.head? = some (CodePoint.ofChar '-') then none else withoutZeros? rest
    -- the minus sign is put back, and counts towards the length
    | none, some rest => (withoutZeros? rest).map (CodePoint.ofChar '-' :: ·)
    | none, none => withoutZeros? body
  number?.map fun number => withoutUnderscores (withoutZeroFraction number)

/-- A whole number written as text. -/
def wholeFromText (t : Text) : Checked Int :=
  if beginsTooLong t then .fail .wholeOutOfRange
  else
    match (plainForm? t).bind plainWhole? with
    | some n => .ok n
    | none => .fail .unreadableWhole

/-- A floating-point number that is whole and within 64 bits. -/
def wholeFromReal (x : Binary64) : Checked Int :=
  if !x.isFinite then .fail .notFinite
  else
    match x.toInt? with
    | none => .fail .fraction
    | some n => if -0x8000000000000000 < n && n < 0x8000000000000000 then .ok n else .fail .wholeOutOfRange

def whole : Reading Int
  | .whole n => .ok n
  | .flag b => .ok (if b then 1 else 0)
  | .real x => wholeFromReal x
  | .text t => wholeFromText t
  | _ => .fail .notWhole

/-! ## Truth values -/

/-- Words for false. -/
def falseWords : List Text := ["0", "off", "f", "false", "n", "no"]

/-- Words for true. -/
def trueWords : List Text := ["1", "on", "t", "true", "y", "yes"]

/-- A whole number below this has at most eighteen digits; only such a number is looked at as a truth
value. -/
def shortBound : Nat := Nat.pow 10 18

def flag : Reading Bool
  | .flag b => .ok b
  | .whole n =>
    if n = 0 then .ok false
    else if n = 1 then .ok true
    -- a longer number is not even taken for an unreadable truth value
    else if n.natAbs < shortBound then .fail .unreadableFlag
    else .fail .notFlag
  | .real x =>
    match wholeFromReal x with
    | .ok n => if n = 0 then .ok false else if n = 1 then .ok true else .fail .unreadableFlag
    | .refused _ => .fail .notFlag
  | .text t =>
    let word := t.toAsciiLower
    if falseWords.contains word then .ok false
    else if trueWords.contains word then .ok true
    else .fail .unreadableFlag
  | _ => .fail .notFlag

/-! ## Floating-point numbers -/

/-- A floating-point number written as text. Its digits are ASCII; underscores are taken out of a text
that is no number with them. -/
def realFromText (t : Text) : Checked Binary64 :=
  let plain := t.stripBy isOuterBlank
  match if plain.isAscii && !plain.contains (CodePoint.ofChar '_') then Binary64.ofNumeral? plain
      else none with
  | some x => .ok x
  | none =>
    if t.contains (CodePoint.ofChar '_') && t.isAscii && underscoresApart t then
      match Binary64.ofNumeral? (t.filter (· ≠ CodePoint.ofChar '_')) with
      | some x => .ok x
      | none => .fail .unreadableReal
    else .fail .unreadableReal

def real : Reading Binary64
  | .real x => .ok x
  | .whole n => .ok (Binary64.ofInt n)
  | .flag b => .ok (Binary64.ofInt (if b then 1 else 0))
  | .text t => realFromText t
  | _ => .fail .notReal

/-! ## Collections -/

/-- The items from a position on, each read. -/
def itemsFrom {α : Type} (read : Reading α) : Nat → List Json → Checked (List α)
  | _, [] => .ok []
  | i, item :: rest =>
    List.cons <$> (read item).within (.index i) <*> itemsFrom read (i + 1) rest

def listOf {α : Type} (read : Reading α) : Reading (List α)
  | .list items => itemsFrom read 0 items
  | _ => .fail .notList

/-- The values of a mapping, each read. -/
def entriesOf {α : Type} (read : Reading α) : List (Text × Json) → Checked (List (Text × α))
  | [] => .ok []
  | (name, value) :: rest =>
    List.cons <$> ((name, ·) <$> (read value).within (.key name)) <*> entriesOf read rest

/-- Puts an entry into a mapping: a name that is there keeps its place and takes the new value. -/
def putEntry {α : Type} (name : Text) (value : α) : List (Text × α) → List (Text × α)
  | [] => [(name, value)]
  | (n, v) :: rest => if n = name then (n, value) :: rest else (n, v) :: putEntry name value rest

/-- The mapping that results from entering these in order. -/
def mappingFrom {α : Type} (entries : List (Text × α)) : List (Text × α) :=
  entries.foldl (fun done entry => putEntry entry.1 entry.2 done) []

def mappingOf {α : Type} (read : Reading α) : Reading (List (Text × α))
  | .object members => mappingFrom <$> entriesOf read members
  | _ => .fail .notMapping

/-- Null, or what is read. -/
def nullable {α : Type} (read : Reading α) : Reading (Option α)
  | .null => .ok none
  | json => some <$> read json

/-- Null stands for the empty list. -/
def nullAsEmpty {α : Type} (read : Reading (List α)) : Reading (List α)
  | .null => .ok []
  | json => read json

/-! ## Fields -/

/-- The names of a field: the one that the cluster sends, and the field's own. -/
structure FieldName where
  sent : Text
  own : Text

/-- A field that the cluster sends under its own name. -/
def FieldName.same (name : Text) : FieldName := ⟨name, name⟩

instance : Coe String FieldName := ⟨fun name => .same name⟩

/-- The name and value of a field, if an object has it. -/
def FieldName.find? (field : FieldName) (members : List (Text × Json)) : Option (Text × Json) :=
  match Json.lastMember? members field.sent with
  -- the name that the cluster sends is looked for first, and a member of the other name is not seen then
  | some json => some (field.sent, json)
  | none => (Json.lastMember? members field.own).map fun json => (field.own, json)

/-- A field that has to be there. -/
def required {α : Type} (members : List (Text × Json)) (field : FieldName) (read : Reading α) :
    Checked α :=
  match field.find? members with
  | some (name, json) => (read json).within (.key name)
  | none => .refused [⟨[.key field.sent], .missing⟩]

/-- A field that may be left out. -/
def optional {α : Type} (members : List (Text × Json)) (field : FieldName) (default : α)
    (read : Reading α) : Checked α :=
  match field.find? members with
  | some (name, json) => (read json).within (.key name)
  | none => .ok default

/-- The members of an object. -/
def objectOf {α : Type} (read : List (Text × Json) → Checked α) : Reading α
  | .object members => read members
  | _ => .fail .notObject

end Reading

end ClusterClient
