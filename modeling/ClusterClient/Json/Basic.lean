import ClusterClient.Number.Binary64
import ClusterClient.Text.Basic

/-!
# JSON documents

A document is a tree. An object keeps its members in the order in which they were written, repeated
names included; `settled` gives each name its last value in its first place.
-/

namespace ClusterClient

inductive Json where
  | null
  | flag (value : Bool)
  | whole (value : Int)
  | real (value : Binary64)
  | text (value : Text)
  | list (items : List Json)
  | object (members : List (Text × Json))
  deriving Repr

namespace Json

/-- Puts a member into an object: a name that is there keeps its place and takes the new value. -/
def insertMember (name : Text) (value : Json) : List (Text × Json) → List (Text × Json)
  | [] => [(name, value)]
  | (n, v) :: rest =>
    if n = name then (n, value) :: rest else (n, v) :: insertMember name value rest

mutual

/-- The document in which each name of an object occurs once, in its first place with its last
value. -/
def settled : Json → Json
  | list items => list (settledItems items)
  | object members => object (settledMembers [] members)
  | leaf => leaf

/-- The items of a list, each settled. -/
def settledItems : List Json → List Json
  | [] => []
  | item :: rest => item.settled :: settledItems rest

/-- The members of an object, entered one after the other. -/
def settledMembers (done : List (Text × Json)) : List (Text × Json) → List (Text × Json)
  | [] => done
  | (name, value) :: rest => settledMembers (insertMember name value.settled done) rest

end

/-- The last value that an object gives to a name. -/
def lastMember? (members : List (Text × Json)) (name : Text) : Option Json :=
  members.foldl (fun found member => if member.1 = name then some member.2 else found) none

@[simp] theorem lastMember?_nil (name : Text) : lastMember? [] name = none := rfl

theorem lastMember?_append (members : List (Text × Json)) (m : Text × Json) (name : Text) :
    lastMember? (members ++ [m]) name = if m.1 = name then some m.2 else lastMember? members name := by
  simp [lastMember?]

end Json

end ClusterClient
