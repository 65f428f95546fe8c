import ClusterClient.External
import ClusterClient.Number.Shortest
import ClusterClient.Number.Decimal
import ClusterClient.Text.Quoted

/-!
# Values that callers hand in

Query values, documents to send and configured settings arrive as values of no fixed kind. A mapping
keeps the order in which its keys were first given. Keys are compared as numbers where they are numbers,
so that `true`, `1` and `1.0` are one key.
-/

namespace ClusterClient

/-- A value without parts. A `foreign` value is an object that has no form in a document; to show it may fail. -/
inductive Scalar where
  | null
  | flag (value : Bool)
  | whole (value : Int)
  | real (value : Binary64)
  | text (value : Text)
  | foreign (fault : Option External)
  deriving DecidableEq, Repr

/-- A value: a scalar, a list, or a mapping from scalars. -/
inductive Value where
  | scalar (value : Scalar)
  | list (items : List Value)
  | mapping (entries : List (Scalar × Value))
  deriving Repr

namespace Scalar

/-- The number that a scalar counts as among keys. -/
def asWhole? : Scalar → Option Int
  | flag b => some (if b then 1 else 0)
  | whole n => some n
  | real x => x.toInt?
  | _ => none

/-- Whether two scalars are one key. -/
def sameKey (a b : Scalar) : Bool :=
  match a.asWhole?, b.asWhole? with
  | some m, some n => m = n
  | none, none =>
    match a, b with
    | real x, real y => x.equals y
    | foreign _, foreign _ => false
    | _, _ => a = b
  | _, _ => false

/-- The form of a scalar inside a list, a mapping or a message. -/
def quoted : Scalar → Text
  | null => "None"
  | flag true => "True"
  | flag false => "False"
  | whole n => Whole.toText n
  | real x => x.toText .plain
  | text t => t.quoted
  | foreign _ => "<object>"

end Scalar

/-- Puts an entry into a mapping: a key that is there keeps its place and takes the new value. -/
def Mapping.insert {α : Type} (key : Scalar) (value : α) :
    List (Scalar × α) → List (Scalar × α)
  | [] => [(key, value)]
  | (k, v) :: rest =>
    if k.sameKey key then (k, value) :: rest else (k, v) :: Mapping.insert key value rest

namespace Value

def null : Value := scalar .null

def flag (b : Bool) : Value := scalar (.flag b)

def whole (n : Int) : Value := scalar (.whole n)

def real (x : Binary64) : Value := scalar (.real x)

def text (t : Text) : Value := scalar (.text t)

/-- The mapping that results from entering these in order. -/
def ofEntries (entries : List (Scalar × Value)) : Value :=
  mapping (entries.foldl (fun m entry => Mapping.insert entry.1 entry.2 m) [])

/-- The mapping with these members, in order. -/
def document (members : List (Text × Value)) : Value :=
  ofEntries (members.map fun member => (.text member.1, member.2))

/-- A list of texts. -/
def texts (ts : List Text) : Value := list (ts.map text)

/-- A value that may be absent. -/
def ofOption {α : Type} (f : α → Value) : Option α → Value
  | some a => f a
  | none => null

mutual

/-- The form of a value inside a list, a mapping or a message. -/
def quoted : Value → Text
  | scalar s => s.quoted
  | list items => "[" ++ Text.join ", " (quotedItems items) ++ "]"
  | mapping entries => "\x7b" ++ Text.join ", " (quotedEntries entries) ++ "\x7d"

/-- The forms of the items of a list. -/
def quotedItems : List Value → List Text
  | [] => []
  | item :: rest => item.quoted :: quotedItems rest

/-- The forms of the entries of a mapping. -/
def quotedEntries : List (Scalar × Value) → List Text
  | [] => []
  | (key, value) :: rest => (key.quoted ++ ": " ++ value.quoted) :: quotedEntries rest

end

/-- The text of a value: a text is itself, and anything else its quoted form. -/
def toText : Value → Text
  | scalar (.text t) => t
  | v => v.quoted

/-- The text of a value as a query parameter: truth values are written in lower case. -/
def toQueryText : Value → Text
  | scalar (.flag true) => "true"
  | scalar (.flag false) => "false"
  | v => v.toText

@[simp] theorem toText_text (t : Text) : (text t).toText = t := rfl

end Value

end ClusterClient
