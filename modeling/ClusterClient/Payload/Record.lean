import ClusterClient.Payload.Schema

/-!
# Payloads as records

A payload is shown as a record of its fields under their own names, absent ones included, together with
what is derived from them.
-/

namespace ClusterClient

open Value

def Refusal.toRecord (r : Refusal) : Value :=
  document
    [("cause", ofOption text r.cause), ("error_code", whole r.code), ("index", whole r.index),
      ("message", text r.message)]

mutual

def Node.toRecord : Node → Value
  | ⟨createdIndex, dir, expiration, key, modifiedIndex, nodes, ttl, value⟩ =>
    document
      [("created_index", ofOption whole createdIndex), ("dir", ofOption flag dir),
        ("expiration", ofOption text expiration), ("key", ofOption text key),
        ("modified_index", ofOption whole modifiedIndex), ("nodes", nodesRecord nodes),
        ("ttl", ofOption whole ttl), ("value", ofOption text value)]

/-- The nodes of a directory, if it is one. -/
def nodesRecord : Option (List Node) → Value
  | none => null
  | some nodes => list (nodeRecords nodes)

/-- Nodes one by one. -/
def nodeRecords : List Node → List Value
  | [] => []
  | node :: rest => node.toRecord :: nodeRecords rest

end

def KeyValueInfo.toRecord (i : KeyValueInfo) : Value :=
  document
    [("action", text i.action.word), ("node", i.node.toRecord),
      ("prev_node", ofOption Node.toRecord i.previous)]

def Member.toRecord (m : Member) : Value :=
  document
    [("id", text m.id), ("name", text m.name), ("peer_urls", texts m.peerUrls),
      ("client_urls", texts m.clientUrls)]

def MemberList.toRecord (l : MemberList) : Value :=
  document [("members", list (l.members.map Member.toRecord))]

def Health.toRecord (h : Health) : Value :=
  document [("health", text h.health), ("is_healthy", flag h.isHealthy)]

def VersionInfo.toRecord (i : VersionInfo) : Value :=
  document [("cluster_version", ofOption text i.cluster), ("server_version", ofOption text i.server)]

def CountStats.toRecord (s : CountStats) : Value :=
  document [("fail", whole s.fail), ("success", whole s.success)]

def LatencyStats.toRecord (s : LatencyStats) : Value :=
  document
    [("average", real s.average), ("current", real s.current), ("maximum", real s.maximum),
      ("minimum", real s.minimum), ("standard_deviation", real s.standardDeviation)]

def FollowerStats.toRecord (s : FollowerStats) : Value :=
  document [("counts", s.counts.toRecord), ("latency", s.latency.toRecord)]

def LeaderStats.toRecord (s : LeaderStats) : Value :=
  document
    [("leader", text s.leader),
      ("followers", document (s.followers.map fun entry => (entry.1, entry.2.toRecord)))]

def LeaderInfo.toRecord (i : LeaderInfo) : Value :=
  document [("id", text i.id), ("start_time", text i.startTime), ("uptime", text i.uptime)]

def SelfStats.toRecord (s : SelfStats) : Value :=
  document
    [("id", text s.id), ("name", text s.name), ("leader_info", s.leaderInfo.toRecord),
      ("received_append_request_count", whole s.receivedAppendRequests),
      ("received_bandwidth_rate", ofOption real s.receivedBandwidth),
      ("received_package_rate", ofOption real s.receivedPackages),
      ("sent_append_request_count", whole s.sentAppendRequests),
      ("sent_bandwidth_rate", ofOption real s.sentBandwidth),
      ("sent_package_rate", ofOption real s.sentPackages), ("start_time", text s.startTime),
      ("state", text s.state)]

def StoreStats.toRecord (s : StoreStats) : Value :=
  document
    [("compare_and_delete_fail", whole s.compareAndDeleteFail),
      ("compare_and_delete_success", whole s.compareAndDeleteSuccess),
      ("compare_and_swap_fail", whole s.compareAndSwapFail),
      ("compare_and_swap_success", whole s.compareAndSwapSuccess), ("create_fail", whole s.createFail),
      ("create_success", whole s.createSuccess), ("delete_fail", whole s.deleteFail),
      ("delete_success", whole s.deleteSuccess), ("expire_count", whole s.expireCount),
      ("get_fail", whole s.getFail), ("get_success", whole s.getSuccess), ("set_fail", whole s.setFail),
      ("set_success", whole s.setSuccess), ("update_fail", whole s.updateFail),
      ("update_success", whole s.updateSuccess), ("watchers", whole s.watchers)]

def AuthStatus.toRecord (s : AuthStatus) : Value := document [("enabled", flag s.enabled)]

def KvPermissions.toRecord (p : KvPermissions) : Value :=
  document [("read", texts p.read), ("write", texts p.write)]

def Permissions.toRecord (p : Permissions) : Value := document [("kv", p.kv.toRecord)]

def Role.toRecord (r : Role) : Value :=
  document
    [("name", text r.name), ("permissions", r.permissions.toRecord),
      ("kv_read_permissions", texts r.readable), ("kv_write_permissions", texts r.writable)]

def RoleList.toRecord (l : RoleList) : Value := document [("roles", list (l.roles.map Role.toRecord))]

def User.toRecord (u : User) : Value :=
  document [("name", text u.name), ("role_names", texts u.roleNames)]

def UserDetail.toRecord (u : UserDetail) : Value :=
  document
    [("name", text u.name), ("roles", list (u.roles.map Role.toRecord)),
      ("role_names", texts u.roleNames)]

def UserDetailList.toRecord (l : UserDetailList) : Value :=
  document [("users", list (l.users.map UserDetail.toRecord))]

def Enabling.toRecord (e : Enabling) : Value :=
  document [("value", text e.word), ("is_enabled", flag e.isEnabled)]

def Disabling.toRecord (d : Disabling) : Value :=
  document [("value", text d.word), ("is_disabled", flag d.isDisabled)]

/-- A payload as a record. -/
def Payload.toRecord : Payload → Value
  | nothing => null
  | value v => v
  | refusal r => r.toRecord
  | node n => n.toRecord
  | keyValue i => i.toRecord
  | member m => m.toRecord
  | memberList l => l.toRecord
  | members ms => list (ms.map Member.toRecord)
  | health h => h.toRecord
  | version i => i.toRecord
  | counts s => s.toRecord
  | latency s => s.toRecord
  | follower s => s.toRecord
  | leader s => s.toRecord
  | leaderInfo i => i.toRecord
  | self s => s.toRecord
  | store s => s.toRecord
  | authStatus s => s.toRecord
  | enabled b => flag b
  | enabling e => e.toRecord
  | disabling d => d.toRecord
  | kvPermissions p => p.toRecord
  | permissions p => p.toRecord
  | role r => r.toRecord
  | roleList l => l.toRecord
  | roles rs => list (rs.map Role.toRecord)
  | user u => u.toRecord
  | userDetail u => u.toRecord
  | userDetailList l => l.toRecord
  | users us => list (us.map UserDetail.toRecord)

end ClusterClient
