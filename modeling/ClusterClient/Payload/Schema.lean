import ClusterClient.Json.Reader
import ClusterClient.Payload.Access
import ClusterClient.Payload.Cluster
import ClusterClient.Payload.KeySpace
import ClusterClient.Payload.Statistics
import ClusterClient.Text.Utf8
import ClusterClient.Value

/-!
# Payloads and their schemas

A schema names what the body of an answer is to be read as. Reading takes the octets as UTF-8, the text as
a document of the strict dialect, and the document as the schema says.
-/

namespace ClusterClient

/-- What came of turning access control on. -/
inductive Enabling where
  | enabled
  | alreadyEnabled
  | rootUserRequired
  deriving DecidableEq, Repr

namespace Enabling

def word : Enabling → Text
  | enabled => "enabled"
  | alreadyEnabled => "already_enabled"
  | rootUserRequired => "root_user_required"

/-- Whether access control is on afterwards. -/
def isEnabled (e : Enabling) : Bool := e ≠ rootUserRequired

end Enabling

/-- What came of turning access control off. -/
inductive Disabling where
  | disabled
  | alreadyDisabled
  | unauthorized
  deriving DecidableEq, Repr

namespace Disabling

def word : Disabling → Text
  | disabled => "disabled"
  | alreadyDisabled => "already_disabled"
  | unauthorized => "unauthorized"

/-- Whether access control is off afterwards. -/
def isDisabled (d : Disabling) : Bool := d ≠ unauthorized

end Disabling

/-- What an answer carries, once read. -/
inductive Payload where
  | nothing
  | value (value : Value)
  | refusal (refusal : Refusal)
  | node (node : Node)
  | keyValue (info : KeyValueInfo)
  | member (member : Member)
  | memberList (list : MemberList)
  | members (members : List Member)
  | health (health : Health)
  | version (info : VersionInfo)
  | counts (stats : CountStats)
  | latency (stats : LatencyStats)
  | follower (stats : FollowerStats)
  | leader (stats : LeaderStats)
  | leaderInfo (info : LeaderInfo)
  | self (stats : SelfStats)
  | store (stats : StoreStats)
  | authStatus (status : AuthStatus)
  | enabled (on : Bool)
  | enabling (outcome : Enabling)
  | disabling (outcome : Disabling)
  | kvPermissions (permissions : KvPermissions)
  | permissions (permissions : Permissions)
  | role (role : Role)
  | roleList (list : RoleList)
  | roles (roles : List Role)
  | user (user : User)
  | userDetail (user : UserDetail)
  | userDetailList (list : UserDetailList)
  | users (users : List UserDetail)

/-- What a body is read as. The plural ones take the items out of the list object that holds them. -/
inductive Schema where
  | refusal
  | node
  | keyValue
  | member
  | memberList
  | members
  | health
  | version
  | counts
  | latency
  | follower
  | leader
  | leaderInfo
  | self
  | store
  | authStatus
  | enabled
  | kvPermissions
  | permissions
  | role
  | roleList
  | roles
  | user
  | userDetail
  | userDetailList
  | users
  deriving DecidableEq, Repr

namespace Schema

/-- Reads a document as the schema says. -/
def read : Schema → Reading Payload
  | refusal, json => .refusal <$> Refusal.ofJson json
  | node, json => .node <$> Node.ofJson json
  | keyValue, json => .keyValue <$> KeyValueInfo.ofJson json
  | member, json => .member <$> Member.ofJson json
  | memberList, json => .memberList <$> MemberList.ofJson json
  | members, json => (fun list => .members list.members) <$> MemberList.ofJson json
  | health, json => .health <$> Health.ofJson json
  | version, json => .version <$> VersionInfo.ofJson json
  | counts, json => .counts <$> CountStats.ofJson json
  | latency, json => .latency <$> LatencyStats.ofJson json
  | follower, json => .follower <$> FollowerStats.ofJson json
  | leader, json => .leader <$> LeaderStats.ofJson json
  | leaderInfo, json => .leaderInfo <$> LeaderInfo.ofJson json
  | self, json => .self <$> SelfStats.ofJson json
  | store, json => .store <$> StoreStats.ofJson json
  | authStatus, json => .authStatus <$> AuthStatus.ofJson json
  | enabled, json => (fun status => .enabled status.enabled) <$> AuthStatus.ofJson json
  | kvPermissions, json => .kvPermissions <$> KvPermissions.ofJson json
  | permissions, json => .permissions <$> Permissions.ofJson json
  | role, json => .role <$> Role.ofJson json
  | roleList, json => .roleList <$> RoleList.ofJson json
  | roles, json => (fun list => .roles list.roles) <$> RoleList.ofJson json
  | user, json => .user <$> User.ofJson json
  | userDetail, json => .userDetail <$> UserDetail.ofJson json
  | userDetailList, json => .userDetailList <$> UserDetailList.ofJson json
  | users, json => (fun list => .users list.users) <$> UserDetailList.ofJson json

end Schema

/-- Reads a body as a document and the document with a reader. -/
def Reading.decode {α : Type} (read : Reading α) (body : Octets) : Checked α :=
  match (Text.ofUtf8? body).bind (Json.read? .strict) with
  | some json => read json
  | none => .fail .notJson

/-- Reads a body as a schema says. -/
def Schema.decode (schema : Schema) (body : Octets) : Checked Payload := Reading.decode schema.read body

end ClusterClient
