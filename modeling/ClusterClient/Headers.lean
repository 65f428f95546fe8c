import ClusterClient.Text.Lowercase

/-!
# Headers

Headers are kept in the order in which they were first given. Setting a header replaces the value of the
same spelling; looking one up, and deciding what is to be masked, goes by the name in lower case.
-/

namespace ClusterClient

/-- Header names and their values, in order. -/
abbrev Headers := List (Text × Text)

namespace Headers

/-- Gives a name a value: one of the same spelling keeps its place, and a new one goes to the end. -/
def put (name value : Text) : Headers → Headers
  | [] => [(name, value)]
  | (n, v) :: rest => if n = name then (n, value) :: rest else (n, v) :: put name value rest

/-- The headers that result from setting these in order. -/
def ofPairs (pairs : List (Text × Text)) : Headers :=
  pairs.foldl (fun headers pair => put pair.1 pair.2 headers) []

/-- Sets every header of the second list in the first. -/
def merge (headers more : Headers) : Headers :=
  more.foldl (fun headers pair => put pair.1 pair.2 headers) headers

/-- Whether two names are the same but for case. -/
def sameName (a b : Text) : Bool := a.toLower = b.toLower

/-- The value of the first header with a name, in any case. -/
def lookup? (headers : Headers) (name : Text) : Option Text :=
  (List.find? (fun header : Text × Text => sameName header.1 name) headers).map Prod.snd

/-- Whether there is a header with a name, in any case. -/
def has (headers : Headers) (name : Text) : Bool :=
  List.any headers fun header => sameName header.1 name

end Headers

/-! ## Masks -/

namespace Mask

/-- The first code points of a text; a negative count leaves that many out at the end. -/
def front (count : Int) (t : Text) : Text :=
  if 0 ≤ count then t.take count.toNat else t.take (t.length - (-count).toNat)

/-- `n` asterisks, none if `n` is negative. -/
def stars (n : Int) : Text := List.replicate n.toNat (CodePoint.ofChar '*')

/-- A text of which the first code points stay visible, if it is longer than that. -/
def sensitive (visible : Int) : Option Text → Text
  | none => "<None>"
  | some t =>
    -- as many stars as letters, so that the length can be seen
    if (t.length : Int) ≤ visible then stars t.length
    else front visible t ++ stars (t.length - visible)

/-- A credential of which the beginning stays visible: six code points of a short one. -/
def credential (visible : Int) (t : Text) : Text :=
  if t.isEmpty then []
  -- a value of no more than six letters is kept whole here
  else if (t.length : Int) ≤ visible then t.take 6 ++ "***"
  else front visible t ++ "***"

/-- How many code points of a sensitive text stay visible unless it is said otherwise. -/
def sensitiveVisible : Int := 3

/-- How many code points of a credential stay visible in a trace. -/
def credentialVisible : Int := 15

/-- Names of headers that hold credentials. -/
def sensitiveNames : List Text := ["authorization", "x-api-key", "proxy-authorization"]

/-- Headers with their credentials masked. -/
def headers (hs : Headers) : Headers :=
  hs.map fun header =>
    if sensitiveNames.contains header.1.toLower then (header.1, credential credentialVisible header.2)
    else header

end Mask

end ClusterClient
