import ClusterClient.Exchange.RequestSpec

/-!
# Calls to the key space

A key is a path. Writes send their arguments as a form, reads and deletions as parameters of the address;
an argument that is not given is not sent. A conditional write or deletion needs a condition.

`KeyCall.fields` says what each call sends; `KeyCall.spec` makes the call of it.
-/

namespace ClusterClient

/-- Conditions on the state of a key before it is changed. -/
structure Conditions where
  value : Option Text
  modifiedIndex : Option Int
  deriving DecidableEq, Repr

/-- Whether no condition is given. -/
def Conditions.isEmpty (c : Conditions) : Bool := c.value.isNone && c.modifiedIndex.isNone

/-- How a key is read. -/
structure GetOptions where
  recursive : Bool
  sort : Option Bool
  strongConsistency : Bool
  deriving DecidableEq, Repr

/-- Nothing special. -/
def GetOptions.standard : GetOptions := ⟨false, none, false⟩

/-- A call to the key space. -/
inductive KeyCall where
  | create (key value : Text) (ttl : Option Int)
  | createDir (key : Text) (ttl : Option Int)
  | createInOrder (key value : Text) (ttl : Option Int)
  | set (key value : Text) (ttl : Option Int)
  | setDir (key : Text) (ttl : Option Int)
  | update (key value : Text) (ttl : Option Int)
  | updateDir (key : Text) (ttl : Option Int)
  | compareAndSwap (key value : Text) (ttl : Option Int) (conditions : Conditions)
  | get (key : Text) (options : GetOptions)
  | delete (key : Text) (recursive : Option Bool)
  | deleteDir (key : Text)
  | compareAndDelete (key : Text) (conditions : Conditions)
  | watch (key : Text) (index : Option Int) (recursive : Bool)
  deriving DecidableEq, Repr

namespace KeyCall

/-- The path of the key space. -/
def root : Text := "v2/keys"

/-- The path of a key; one that does not begin with a slash gets one. -/
def path (key : Text) : Text :=
  -- one slash at most is added, and none is taken away
  root ++ (if key.head? = some (CodePoint.ofChar '/') then key else "/" ++ key)

/-- A named argument. -/
abbrev Field := Text × Value

/-- An argument, if it is given. -/
def given {α : Type} (name : Text) (value : α → Value) : Option α → List Field
  | none => []
  | some a => [(name, value a)]

/-- An argument that is a truth value, in words. -/
def word (name : Text) (b : Bool) : Field :=
  (name, .text (if b then Text.ofString "true" else Text.ofString "false"))

/-- An argument that is a truth value. -/
def flagField (name : Text) (b : Bool) : Field := (name, .flag b)

def valueField (value : Text) : Field := ("value", .text value)

def ttlField (ttl : Option Int) : List Field := given "ttl" Value.whole ttl

def dirField : Field := word "dir" true

def existsField (b : Bool) : Field := word "prevExist" b

/-- The conditions that are given. -/
def conditionFields (c : Conditions) : List Field :=
  given "prevIndex" Value.whole c.modifiedIndex ++ given "prevValue" Value.text c.value

/-- The key that a call is about. -/
def key : KeyCall → Text
  | create key _ _ | createDir key _ | createInOrder key _ _ | set key _ _ | setDir key _
  | update key _ _ | updateDir key _ | compareAndSwap key _ _ _ | get key _ | delete key _
  | deleteDir key | compareAndDelete key _ | watch key _ _ => key

/-- The conditions of a conditional call. -/
def conditions? : KeyCall → Option Conditions
  | compareAndSwap _ _ _ conditions | compareAndDelete _ conditions => some conditions
  | _ => none

/-- What a call sends, in order. -/
def fields : KeyCall → List Field
  | create _ value ttl => valueField value :: ttlField ttl ++ [existsField false]
  | createDir _ ttl => ttlField ttl ++ [dirField, existsField false]
  | createInOrder _ value ttl => valueField value :: ttlField ttl
  | set _ value ttl => valueField value :: ttlField ttl
  | setDir _ ttl => ttlField ttl ++ [dirField]
  | update _ value ttl => valueField value :: ttlField ttl ++ [existsField true]
  | updateDir _ ttl => ttlField ttl ++ [dirField, existsField true]
  | compareAndSwap _ value ttl conditions =>
    valueField value :: ttlField ttl ++ conditionFields conditions
  | get _ options =>
    flagField "recursive" options.recursive :: given "sorted" Value.flag options.sort ++
      (if options.strongConsistency then [flagField "quorum" true] else [])
  -- a read always says whether it is recursive, a deletion only if it has been told
  | delete _ recursive => given "recursive" Value.flag recursive
  | deleteDir _ => [flagField "dir" true]
  | compareAndDelete _ conditions => conditionFields conditions
  | watch _ index recursive =>
    flagField "recursive" recursive :: flagField "wait" true :: given "waitIndex" Value.whole index

/-- Whether a call changes a value or a directory; its fields are sent as a form. -/
def isWrite : KeyCall → Bool
  | get .. | delete .. | deleteDir .. | compareAndDelete .. | watch .. => false
  | _ => true

def method : KeyCall → Text
  | createInOrder .. => "POST"
  | get .. | watch .. => "GET"
  | delete .. | deleteDir .. | compareAndDelete .. => "DELETE"
  | _ => "PUT"

/-- Whether the answer may take as long as it needs. -/
def isLongPoll : KeyCall → Bool
  | watch .. => true
  | _ => false

/-- What is asked of a member. -/
def request (call : KeyCall) : RequestSpec where
  method := call.method
  path := path call.key
  query := if call.isWrite then [] else call.fields
  form := if call.isWrite then some call.fields else none
  document := none
  success := if call.isWrite then [200, 201] else [200]
  schema := some .keyValue
  statusPayloads := none
  longPoll := call.isLongPoll

/-- What is asked of a member, unless a condition is missing. -/
def spec (call : KeyCall) : Except Failure RequestSpec :=
  match call.conditions? with
  -- an empty condition is refused before any member is asked
  | some conditions => if conditions.isEmpty then .error .conditionsMissing else .ok call.request
  | none => .ok call.request

end KeyCall

end ClusterClient
