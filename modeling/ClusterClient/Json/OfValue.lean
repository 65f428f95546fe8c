import ClusterClient.Json.Basic
import ClusterClient.Number.Shortest
import ClusterClient.Room

/-!
# Documents from values

A value without foreign parts is written as a document. The keys of a mapping become names; scalars that
are no text are named by their written form. Whole numbers with too many digits are not written, and the walk over
a value goes no deeper than there is room. Of several faults, the one that the walk meets first is told.
-/

namespace ClusterClient

/-- Why a value cannot be written as a document. -/
inductive Unwritable where
  | value
  | key
  | digits
  | depth
  deriving DecidableEq, Repr

/-- The error behind the fault. -/
def Unwritable.external : Unwritable → External
  | value => ⟨.type, "Object of type object is not JSON serializable"⟩
  | key => ⟨.type, "keys must be str, int, float, bool or None, not object"⟩
  | digits => .tooManyDigits
  | depth => .tooDeep "encoding a JSON object"

/-- The message of the fault. -/
def Unwritable.message (why : Unwritable) : Text := why.external.message

/-- The name of a key in a document. -/
def Scalar.toName : Scalar → Except Unwritable Text
  | null => .ok "null"
  | flag true => .ok "true"
  | flag false => .ok "false"
  | whole n => if n.natAbs < Nat.pow 10 Whole.maxDigits then .ok (Whole.toText n) else .error .digits
  | real x => .ok (x.toText .document)
  | text t => .ok t
  | foreign _ => .error .key

/-- A scalar as a document. -/
def Scalar.toJson : Scalar → Except Unwritable Json
  | null => .ok .null
  | flag b => .ok (.flag b)
  | whole n => if n.natAbs < Nat.pow 10 Whole.maxDigits then .ok (.whole n) else .error .digits
  | real x => .ok (.real x)
  | text t => .ok (.text t)
  | foreign _ => .error .value

namespace Value

mutual

/-- A value as a document, with room for so many containers inside one another. -/
def toJson : Nat → Value → Except Unwritable Json
  | _, scalar s => s.toJson
  | 0, list _ => .error .depth
  | 0, mapping _ => .error .depth
  | room + 1, list items => return .list (← toJsonItems room items)
  | room + 1, mapping entries => return .object (← toJsonMembers room entries)

/-- The items of a list as documents. -/
def toJsonItems : Nat → List Value → Except Unwritable (List Json)
  | _, [] => return []
  | room, item :: rest => return (← item.toJson room) :: (← toJsonItems room rest)

/-- The entries of a mapping as members. -/
def toJsonMembers : Nat → List (Scalar × Value) → Except Unwritable (List (Text × Json))
  | _, [] => return []
  | room, (key, value) :: rest => do
    -- a key that has no name is at fault before its value is looked at
    let name ← key.toName
    return (name, ← value.toJson room) :: (← toJsonMembers room rest)

end

end Value

end ClusterClient
