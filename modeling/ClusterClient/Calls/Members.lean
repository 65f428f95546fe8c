import ClusterClient.Exchange.RequestSpec

/-!
# Calls about members

Members are listed, added, given other peer URLs, and removed.
-/

namespace ClusterClient.MemberCall

/-- The path of the members. -/
def root : Text := "v2/members"

/-- The path of one member. -/
def path (id : Text) : Text := root ++ "/" ++ id

/-- The document that names peer URLs. Each is written as text. -/
def peerUrls (urls : List Value) : Value :=
  .ofEntries [(.text "peerURLs", .list (urls.map fun url => .text url.toText))]

/-- Lists the members. -/
def list : RequestSpec := { RequestSpec.get root with schema := some .members }

/-- Adds a member that can be reached by its peers at these URLs. -/
def add (urls : List Value) : RequestSpec :=
  { RequestSpec.get root with method := "POST", document := some (peerUrls urls), success := [201] }

/-- Gives a member other peer URLs. -/
def update (id : Text) (urls : List Value) : RequestSpec :=
  { RequestSpec.get (path id) with
    method := "PUT", document := some (peerUrls urls), success := [204] }

/-- Removes a member. -/
def delete (id : Text) : RequestSpec :=
  { RequestSpec.get (path id) with method := "DELETE", success := [204] }

end ClusterClient.MemberCall
