import ClusterClient.Text.Quoted

/-!
# Endpoints

An endpoint is the base URL of one member of the cluster, in its written form.
-/

namespace ClusterClient

/-- The base URL of one member. -/
structure Endpoint where
  url : Text
  deriving DecidableEq, Repr

namespace Endpoint

/-- The URL with exactly one slash at its end. -/
def base (e : Endpoint) : Text := e.url.stripRightBy (· = CodePoint.ofChar '/') ++ "/"

/-- The form of an endpoint inside a message. -/
def quoted (e : Endpoint) : Text := "Endpoint(url=" ++ e.url.quoted ++ ")"

/-- The form of a list of endpoints inside a message. -/
def quotedList (es : List Endpoint) : Text := "[" ++ Text.join ", " (es.map quoted) ++ "]"

end Endpoint

end ClusterClient
