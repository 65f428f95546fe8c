import ClusterClient.Payload.Reading

/-!
# Results of the key space

A result names the action that was taken, the node it was taken on, and the node as it was before. A
directory holds further nodes, to any depth.
-/

namespace ClusterClient

/-- What was done to a key. -/
inductive Action where
  | compareAndDelete
  | compareAndSwap
  | create
  | delete
  | expire
  | get
  | set
  | update
  deriving DecidableEq, Repr

namespace Action

/-- The word for an action. -/
def word : Action → Text
  | compareAndDelete => "compareAndDelete"
  | compareAndSwap => "compareAndSwap"
  | create => "create"
  | delete => "delete"
  | expire => "expire"
  | get => "get"
  | set => "set"
  | update => "update"

def all : List Action :=
  [compareAndDelete, compareAndSwap, create, delete, expire, get, set, update]

/-- The action of a word. -/
def ofWord? (t : Text) : Option Action := all.find? fun action => action.word = t

/-- Each action is read from its own word: no two actions have the same. -/
theorem ofWord?_word (action : Action) : ofWord? action.word = some action := by
  cases action <;> decide

def ofJson : Reading Action
  | .text t =>
    match ofWord? t with
    | some action => .ok action
    | none => .fail .notChoice
  | _ => .fail .notChoice

end Action

/-- A key or a directory. -/
structure Node where
  createdIndex : Option Int
  dir : Option Bool
  expiration : Option Text
  key : Option Text
  modifiedIndex : Option Int
  nodes : Option (List Node)
  ttl : Option Int
  value : Option Text
  deriving Repr

namespace Node

open Reading

/-- A node whose fields are in these members, but for the nodes below it, which have been read. -/
def ofMembers (members : List (Text × Json)) (nodes : Checked (Option (List Node))) : Checked Node :=
  Node.mk
    <$> optional members ⟨"createdIndex", "created_index"⟩ none (nullable whole)
    <*> optional members "dir" none (nullable flag)
    <*> optional members "expiration" none (nullable text)
    <*> optional members "key" none (nullable text)
    <*> optional members ⟨"modifiedIndex", "modified_index"⟩ none (nullable whole)
    <*> nodes
    <*> optional members "ttl" none (nullable whole)
    <*> optional members "value" none (nullable text)

/-- The name of the field that holds the nodes of a directory. -/
def nodesName : Text := "nodes"

mutual

def ofJson : Json → Checked Node
  | .object members => ofMembers members ((nodesIn? members).getD (.ok none))
  | _ => .fail .notObject

/-- The nodes that the last member of their name holds, if there is one. -/
def nodesIn? : List (Text × Json) → Option (Checked (Option (List Node)))
  | [] => none
  | (name, value) :: rest =>
    match nodesIn? rest with
    | some nodes => some nodes
    | none => if name = nodesName then some ((nodesFrom value).within (.key nodesName)) else none

/-- A list of nodes, or null. -/
def nodesFrom : Json → Checked (Option (List Node))
  | .null => .ok none
  | .list items => some <$> nodesAt 0 items
  | _ => .fail .notList

/-- The nodes from a position on. -/
def nodesAt (i : Nat) : List Json → Checked (List Node)
  | [] => .ok []
  | item :: rest => List.cons <$> (ofJson item).within (.index i) <*> nodesAt (i + 1) rest

end

end Node

/-- The result of an operation on the key space. -/
structure KeyValueInfo where
  action : Action
  node : Node
  previous : Option Node
  deriving Repr

open Reading in
def KeyValueInfo.ofJson : Reading KeyValueInfo :=
  objectOf fun members =>
    KeyValueInfo.mk
      <$> required members "action" Action.ofJson
      <*> required members "node" Node.ofJson
      <*> optional members ⟨"prevNode", "prev_node"⟩ none (nullable Node.ofJson)

end ClusterClient
