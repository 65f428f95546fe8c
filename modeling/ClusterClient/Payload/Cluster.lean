import ClusterClient.Payload.Reading
import ClusterClient.Text.Quoted

/-!
# Members, health and versions

What the cluster tells about its members, and how it reports that a request was refused.
-/

namespace ClusterClient

open Reading

/-- The refusal of a request, as the cluster words it. -/
structure Refusal where
  cause : Option Text
  code : Int
  index : Int
  message : Text
  deriving DecidableEq, Repr

def Refusal.ofJson : Reading Refusal :=
  objectOf fun members =>
    Refusal.mk
      <$> optional members "cause" none (nullable text)
      <*> required members ⟨"errorCode", "error_code"⟩ whole
      <*> optional members "index" 0 whole
      <*> required members "message" text

/-- The form of a refusal inside a message. -/
def Refusal.quoted (r : Refusal) : Text :=
  let cause : Text :=
    match r.cause with
    | some t => t.quoted
    | none => "None"
  "ApiError(error_code=" ++ Whole.toText r.code ++ ", message=" ++ r.message.quoted ++ ", cause=" ++
    cause ++ ", index=" ++ Whole.toText r.index ++ ")"

/-- A member of the cluster. -/
structure Member where
  id : Text
  name : Text
  peerUrls : List Text
  clientUrls : List Text
  deriving DecidableEq, Repr

def Member.ofJson : Reading Member :=
  objectOf fun members =>
    Member.mk
      <$> required members "id" text
      <*> optional members "name" [] text
      <*> optional members ⟨"peerURLs", "peer_urls"⟩ [] (listOf text)
      <*> optional members ⟨"clientURLs", "client_urls"⟩ [] (listOf text)

/-- The members of the cluster. -/
structure MemberList where
  members : List Member
  deriving DecidableEq, Repr

def MemberList.ofJson : Reading MemberList :=
  objectOf fun members =>
    MemberList.mk <$> optional members "members" [] (nullAsEmpty (listOf Member.ofJson))

/-- What a member says of its health. -/
structure Health where
  health : Text
  deriving DecidableEq, Repr

def Health.isHealthy (h : Health) : Bool := h.health = "true"

def Health.ofJson : Reading Health :=
  objectOf fun members => Health.mk <$> required members "health" text

/-- The versions of the cluster and of one member. -/
structure VersionInfo where
  cluster : Option Text
  server : Option Text
  deriving DecidableEq, Repr

def VersionInfo.ofJson : Reading VersionInfo :=
  objectOf fun members =>
    VersionInfo.mk
      <$> optional members ⟨"etcdcluster", "cluster_version"⟩ none (nullable text)
      <*> optional members ⟨"etcdserver", "server_version"⟩ none (nullable text)

end ClusterClient
