import ClusterClient.Json.OfValue
import ClusterClient.Json.Reader
import ClusterClient.Json.Writer
import ClusterClient.Text.Utf8

/-!
# Bodies as text

A body is shown as a document with a line for each item, if it is one, and otherwise as it is. Octets
that are no text are only counted. A body that is nested deeper than there is room for cannot be shown, be it too deep
to be read or too deep to be laid out, and that is an error.
-/

namespace ClusterClient.Console.BodyText

/-- The error of a text whose containers are too deep to be read. -/
def tooDeepToRead : Json.Token → External
  | .openObject => .tooDeep "decoding a JSON object from a unicode string"
  | _ => .tooDeep "decoding a JSON array from a unicode string"

/-- The error of a document that is too deep to be laid out. -/
def tooDeepToLayOut : External := .tooDeep "calling a Python object"

/-- A document with a line for each item. -/
def laidOut (room : Room) (document : Json) : Except External Text :=
  if document.levels ≤ room.laidOut then .ok (document.toText .indented) else .error tooDeepToLayOut

/-- A text as it is shown. -/
def ofText (room : Room) (t : Text) : Except External Text :=
  -- the reader runs out of room before it gets to a fault further on
  match Json.tooDeep? .lenient room.read t with
  | some token => .error (tooDeepToRead token)
  | none =>
    match Json.read? .lenient t with
    | some document => laidOut room document.settled
    | none => .ok t

/-- Octets as they are shown. -/
def ofOctets (room : Room) (octets : Octets) : Except External Text :=
  match Text.ofUtf8? octets with
  | some t => ofText room t
  | none => .ok ("<binary data: " ++ Text.ofNat octets.length ++ " bytes>")

/-- A value as it is shown. An empty container needs no level of its own. -/
def ofValue (room : Room) : Value → Except External Text
  | .scalar .null => .ok []
  | .scalar (.text t) => ofText room t
  | v =>
    match v.toJson (room.laidOut + 1) with
    | .error .depth => .error tooDeepToLayOut
    | .error why => .error why.external
    -- a value is laid out as it is, even if two of its keys come to the same name
    | .ok document => laidOut room document

end ClusterClient.Console.BodyText
