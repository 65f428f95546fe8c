import ClusterClient.Json.Token

/-!
# Reading documents

Tokens are read one at a time against a stack of the containers that are still open. Each token either
has a place or refuses the whole text. A reader that has room for so many open containers only stops at the first one
too many, unless something in front of it refuses the text.
-/

namespace ClusterClient.Json

/-- A container that is still open. Its items or members so far are kept in reverse. -/
inductive Frame where
  | list (items : List Json)
  | object (members : List (Text × Json)) (name : Text)

/-- What the next token may be. -/
inductive Expectation where
  /-- A value, or the end of a list that has just been opened. -/
  | value (first : Bool)
  /-- A name, with the members read so far; or the end of an object that has just been opened. -/
  | name (first : Bool) (members : List (Text × Json))
  | colon (members : List (Text × Json)) (name : Text)
  /-- A comma or an end, after an item of the innermost container. -/
  | more
  | nothing (document : Json)

/-- A reader between two tokens: the open containers, innermost first, and what may follow. -/
structure Reader where
  frames : List Frame
  expects : Expectation

namespace Reader

def start : Reader := ⟨[], .value false⟩

/-- A whole value has been read: it goes into the innermost container. -/
def place (document : Json) : List Frame → Reader
  | [] => ⟨[], .nothing document⟩
  | .list items :: frames => ⟨.list (document :: items) :: frames, .more⟩
  | .object members name :: frames => ⟨.object ((name, document) :: members) name :: frames, .more⟩

/-- Whether a container at this depth may have items. -/
def mayHold (dialect : Dialect) (depth : Nat) : Bool :=
  match dialect.maxDepth with
  | none => true
  | some limit => depth ≤ limit

/-- A value begins with this token. -/
def beginValue? (frames : List Frame) : Token → Option Reader
  | .openList => some ⟨.list [] :: frames, .value true⟩
  | .openObject => some ⟨frames, .name true []⟩
  | token => token.leaf?.map fun document => place document frames

/-- The reader after one more token, if the token has a place. -/
def step? (dialect : Dialect) (token : Token) (reader : Reader) : Option Reader :=
  match reader.expects, token with
  | .value true, .closeList =>
    match reader.frames with
    | .list _ :: frames => some (place (.list []) frames)
    | _ => none
  | .value first, token =>
    -- the first item is what makes a list deep: an empty one may stand deeper
    if first && !mayHold dialect reader.frames.length then none
    else beginValue? reader.frames token
  | .name true _, .closeObject => some (place (.object []) reader.frames)
  | .name first members, .text name =>
    -- an object is not among the frames while its name is read
    if first && !mayHold dialect (reader.frames.length + 1) then none
    else some ⟨reader.frames, .colon members name⟩
  -- the object becomes a frame for the value of its member
  | .colon members name, .colon => some ⟨.object members name :: reader.frames, .value false⟩
  | .more, .comma =>
    match reader.frames with
    | .list items :: frames => some ⟨.list items :: frames, .value false⟩
    | .object members _ :: frames => some ⟨frames, .name false members⟩
    | [] => none
  | .more, .closeList =>
    match reader.frames with
    | .list items :: frames => some (place (.list items.reverse) frames)
    | _ => none
  | .more, .closeObject =>
    match reader.frames with
    | .object members _ :: frames => some (place (.object members.reverse) frames)
    | _ => none
  | _, _ => none

/-- The document when the tokens end here. -/
def finish? (reader : Reader) : Option Json :=
  match reader.expects with
  | .nothing document => some document
  | _ => none

/-- Reads tokens. -/
def run? (dialect : Dialect) : List Token → Reader → Option Reader
  | [], reader => some reader
  | token :: rest, reader =>
    match step? dialect token reader with
    | some reader => run? dialect rest reader
    | none => none

/-- How many containers are open. -/
def opened (reader : Reader) : Nat :=
  match reader.expects with
  -- the object whose name is read is open as well
  | .name _ _ | .colon _ _ => reader.frames.length + 1
  | _ => reader.frames.length

/-- The first token that opens one container more than there is room for. -/
def overflow? (dialect : Dialect) (room : Nat) : List Token → Reader → Option Token
  | [], _ => none
  | token :: rest, reader =>
    match step? dialect token reader with
    | some reader => if room < reader.opened then some token else overflow? dialect room rest reader
    | none => none

end Reader

/-- The document that these tokens write. -/
def ofTokens? (dialect : Dialect) (tokens : List Token) : Option Json :=
  (Reader.run? dialect tokens .start).bind Reader.finish?

/-- The document that a text writes. -/
def read? (dialect : Dialect) (t : Text) : Option Json :=
  (Token.scan? dialect t).bind (ofTokens? dialect)

/-- The token of a text that opens one container more than there is room for. -/
def tooDeep? (dialect : Dialect) (room : Nat) (t : Text) : Option Token :=
  Reader.overflow? dialect room (Token.found dialect t) .start

end ClusterClient.Json
