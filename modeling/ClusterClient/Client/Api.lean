import ClusterClient.Calls.Access
import ClusterClient.Calls.Members
import ClusterClient.Calls.Statistics
import ClusterClient.Client.Watch

/-!
# The calls of a client

All that a caller can ask of a cluster, in the words of the caller. A call takes one of four routes: members
are tried in turn, with progress of the caller or without it; a key is watched; or all members are asked at
once, and the caller takes so many of their responses at most.
-/

namespace ClusterClient

/-- What a caller asks. -/
inductive ApiCall where
  | key (call : KeyCall)
  | watch (w : Watch)
  | listMembers
  | addMember (peerUrls : List Value)
  | updateMember (id : Text) (peerUrls : List Value)
  | deleteMember (id : Text)
  | leaderStatistics
  | selfStatistics (limit : Option Nat)
  | storeStatistics (limit : Option Nat)
  | health (limit : Option Nat)
  | versions (limit : Option Nat)
  | accessStatus
  | enableAccess
  | disableAccess
  | getUsers
  | getUser (name : Text)
  | createUser (u : NewUser)
  | updateUser (u : UserUpdate)
  | deleteUser (name : Text)
  | getRoles
  | getRole (name : Text)
  | createRole (r : NewRole)
  | updateRole (r : RoleUpdate)
  | deleteRole (name : Text)
  | execute (spec : RequestSpec)
  | executeWith (spec : RequestSpec) (progress : Nat)
  | fanOut (spec : RequestSpec) (limit : Option Nat)

/-- How a call is made. -/
inductive Route where
  | inTurn (spec : RequestSpec)
  | inTurnWith (spec : RequestSpec) (progress : Nat)
  | watching (w : Watch)
  | atOnce (spec : RequestSpec) (limit : Option Nat)

/-- The route of a call, unless its arguments are refused before anything is done. -/
def ApiCall.route : ApiCall → Except Failure Route
  | key call => call.spec.map .inTurn
  | watch w => .ok (.watching w)
  | listMembers => .ok (.inTurn MemberCall.list)
  | addMember urls => .ok (.inTurn (MemberCall.add urls))
  | updateMember id urls => .ok (.inTurn (MemberCall.update id urls))
  | deleteMember id => .ok (.inTurn (MemberCall.delete id))
  | leaderStatistics => .ok (.inTurn StatisticsCall.leader)
  | selfStatistics limit => .ok (.atOnce StatisticsCall.self limit)
  | storeStatistics limit => .ok (.atOnce StatisticsCall.store limit)
  | health limit => .ok (.atOnce StatisticsCall.health limit)
  | versions limit => .ok (.atOnce StatisticsCall.versions limit)
  | accessStatus => .ok (.inTurn AccessCall.status)
  | enableAccess => .ok (.inTurn AccessCall.enable)
  | disableAccess => .ok (.inTurn AccessCall.disable)
  | getUsers => .ok (.inTurn AccessCall.getUsers)
  | getUser name => .ok (.inTurn (AccessCall.getUser name))
  | createUser u => .ok (.inTurn (AccessCall.createUser u))
  | updateUser u => .ok (.inTurn (AccessCall.updateUser u))
  | deleteUser name => .ok (.inTurn (AccessCall.deleteUser name))
  | getRoles => .ok (.inTurn AccessCall.getRoles)
  | getRole name => .ok (.inTurn (AccessCall.getRole name))
  | createRole r => .ok (.inTurn (AccessCall.createRole r))
  | updateRole r => .ok (.inTurn (AccessCall.updateRole r))
  | deleteRole name => .ok (.inTurn (AccessCall.deleteRole name))
  | execute spec => .ok (.inTurn spec)
  | executeWith spec progress => .ok (.inTurnWith spec progress)
  | fanOut spec limit => .ok (.atOnce spec limit)

/-- Whether a call asks all members at once. -/
def ApiCall.isAtOnce (call : ApiCall) : Bool :=
  match call.route with
  | .ok (.atOnce _ _) => true
  | _ => false

namespace Client

/-- What a call gives its caller: the responses that were taken, and how it has ended. A call that is taken no
further, or never ends, has no ending. -/
structure Given where
  responses : List Response
  ending : Option (Outcome Response)

/-- What a call has given that ends with its only response. -/
def Given.ofResult : Result → Given
  | some (.returned response) => ⟨[response], some (.returned response)⟩
  | ending => ⟨[], ending⟩

/-- Takes a route. -/
def takeRoute (route : Route) (timetable : Timetable) (c : Client) : Client × Given :=
  match route with
  | .inTurn spec => (c.perform spec timetable).map id .ofResult
  | .inTurnWith spec progress => (c.performWith spec progress timetable).map id .ofResult
  | .watching w => (c.watch w timetable).map id .ofResult
  | .atOnce spec limit => (c.gather spec limit timetable).map id fun g => ⟨g.responses, g.failure⟩

/-- Makes a call of the caller. -/
def serve (call : ApiCall) (timetable : Timetable) (c : Client) : Client × Given :=
  match call.route with
  | .error f => (c, ⟨[], some (.raised f)⟩)
  | .ok route => c.takeRoute route timetable

end Client

end ClusterClient
