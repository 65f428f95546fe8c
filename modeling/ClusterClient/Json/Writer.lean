import ClusterClient.Json.Basic
import ClusterClient.Number.Shortest

/-!
# Written documents

Two layouts are in use: one line of ASCII for what is sent, and indented lines with all printable
characters kept for what is shown.
-/

namespace ClusterClient.Json

/-- How a document is laid out. -/
structure Layout where
  /-- Only ASCII is written; everything else is escaped by its UTF-16 units. -/
  ascii : Bool
  /-- Spaces per level if each item has a line of its own. -/
  indent : Option Nat
  deriving DecidableEq, Repr

/-- One line of ASCII. -/
def Layout.compact : Layout := ⟨true, none⟩

/-- A line for each item, two spaces deeper per level. -/
def Layout.indented : Layout := ⟨false, some 2⟩

/-- What stands before an item at a depth: nothing, or a new line with its indentation. -/
def Layout.lead (layout : Layout) (depth : Nat) : Text :=
  match layout.indent with
  | none => []
  | some width => CodePoint.ofChar '\n' :: List.replicate (width * depth) (CodePoint.ofChar ' ')

/-- What stands between two items at a depth. -/
def Layout.separator (layout : Layout) (depth : Nat) : Text :=
  match layout.indent with
  | none => ", "
  | some _ => CodePoint.ofChar ',' :: layout.lead depth

/-- A UTF-16 unit as an escape. -/
def unitEscape (n : Nat) : Text := "\\u" ++ Text.hexDigits 4 n

/-- The escape of a code point by its UTF-16 units. -/
def unitEscapes (c : CodePoint) : Text :=
  if c.val < 0x10000 then unitEscape c.val
  else unitEscape (0xD800 + (c.val - 0x10000) / 0x400) ++
    unitEscape (0xDC00 + (c.val - 0x10000) % 0x400)

/-- One code point inside a string. -/
def escape (layout : Layout) (c : CodePoint) : Text :=
  if c = '"' then "\\\""
  else if c = '\\' then "\\\\"
  else if c = '\n' then "\\n"
  else if c = '\r' then "\\r"
  else if c = '\t' then "\\t"
  else if c.val = 0x08 then "\\b"
  else if c.val = 0x0C then "\\f"
  else if c.val < 0x20 then unitEscape c.val
  -- the delete character is escaped with what is not ASCII
  else if layout.ascii && 0x7F ≤ c.val then unitEscapes c
  else [c]

/-- A string between its quotes. -/
def string (layout : Layout) (t : Text) : Text :=
  CodePoint.ofChar '"' :: t.flatMap (escape layout) ++ [CodePoint.ofChar '"']

/-- Items between brackets, which stand alone if there are none. -/
def bracketed (layout : Layout) (depth : Nat) (left right : Text) (items : List Text) : Text :=
  if items.isEmpty then left ++ right
  else left ++ layout.lead (depth + 1) ++ Text.join (layout.separator (depth + 1)) items ++
    layout.lead depth ++ right

mutual

/-- A document at a depth. -/
def write (layout : Layout) (depth : Nat) : Json → Text
  | null => "null"
  | flag true => "true"
  | flag false => "false"
  | whole n => Whole.toText n
  | real x => x.toText .document
  | text t => string layout t
  | list items => bracketed layout depth "[" "]" (writeItems layout (depth + 1) items)
  | object members => bracketed layout depth "\x7b" "\x7d" (writeMembers layout (depth + 1) members)

/-- The items of a list at a depth. -/
def writeItems (layout : Layout) (depth : Nat) : List Json → List Text
  | [] => []
  | item :: rest => write layout depth item :: writeItems layout depth rest

/-- The members of an object at a depth. -/
def writeMembers (layout : Layout) (depth : Nat) : List (Text × Json) → List Text
  | [] => []
  | (name, value) :: rest =>
    (string layout name ++ ": " ++ write layout depth value) :: writeMembers layout depth rest

end

mutual

/-- How many levels it goes down to lay a document out: one for each container that is not empty, and one for a number
with a fraction or an exponent, which has a walk of its own. -/
def levels : Json → Nat
  | real _ => 1
  | list items => levelsOfItems items
  | object members => levelsOfMembers members
  | _ => 0

def levelsOfItems : List Json → Nat
  | [] => 0
  | item :: rest => max (item.levels + 1) (levelsOfItems rest)

def levelsOfMembers : List (Text × Json) → Nat
  | [] => 0
  | (_, value) :: rest => max (value.levels + 1) (levelsOfMembers rest)

end

/-- The text of a document. -/
def toText (layout : Layout) (document : Json) : Text := write layout 0 document

end ClusterClient.Json
