import ClusterClient.Payload.Reading

/-!
# Statistics

Counts and rates that the leader and the members report.
-/

namespace ClusterClient

open Reading

/-- Requests to one follower. -/
structure CountStats where
  fail : Int
  success : Int
  deriving DecidableEq, Repr

def CountStats.ofJson : Reading CountStats :=
  objectOf fun members =>
    CountStats.mk <$> required members "fail" whole <*> required members "success" whole

/-- Latency to one follower, in seconds. -/
structure LatencyStats where
  average : Binary64
  current : Binary64
  maximum : Binary64
  minimum : Binary64
  standardDeviation : Binary64
  deriving DecidableEq, Repr

def LatencyStats.ofJson : Reading LatencyStats :=
  objectOf fun members =>
    LatencyStats.mk
      <$> required members "average" real
      <*> required members "current" real
      <*> required members "maximum" real
      <*> required members "minimum" real
      <*> required members ⟨"standardDeviation", "standard_deviation"⟩ real

structure FollowerStats where
  counts : CountStats
  latency : LatencyStats
  deriving DecidableEq, Repr

def FollowerStats.ofJson : Reading FollowerStats :=
  objectOf fun members =>
    FollowerStats.mk
      <$> required members "counts" CountStats.ofJson
      <*> required members "latency" LatencyStats.ofJson

/-- What the leader reports of its followers. -/
structure LeaderStats where
  leader : Text
  followers : List (Text × FollowerStats)
  deriving DecidableEq, Repr

def LeaderStats.ofJson : Reading LeaderStats :=
  objectOf fun members =>
    LeaderStats.mk
      <$> required members "leader" text
      <*> optional members "followers" [] (mappingOf FollowerStats.ofJson)

/-- What a member knows of the leader. -/
structure LeaderInfo where
  id : Text
  startTime : Text
  uptime : Text
  deriving DecidableEq, Repr

def LeaderInfo.ofJson : Reading LeaderInfo :=
  objectOf fun members =>
    LeaderInfo.mk
      <$> required members ⟨"leader", "id"⟩ text
      <*> required members ⟨"startTime", "start_time"⟩ text
      <*> required members "uptime" text

/-- What a member reports of itself. -/
structure SelfStats where
  id : Text
  name : Text
  leaderInfo : LeaderInfo
  receivedAppendRequests : Int
  receivedBandwidth : Option Binary64
  receivedPackages : Option Binary64
  sentAppendRequests : Int
  sentBandwidth : Option Binary64
  sentPackages : Option Binary64
  startTime : Text
  state : Text
  deriving DecidableEq, Repr

def SelfStats.ofJson : Reading SelfStats :=
  objectOf fun members =>
    SelfStats.mk
      <$> required members "id" text
      <*> required members "name" text
      <*> required members ⟨"leaderInfo", "leader_info"⟩ LeaderInfo.ofJson
      <*> required members ⟨"recvAppendRequestCnt", "received_append_request_count"⟩ whole
      <*> optional members ⟨"recvBandwidthRate", "received_bandwidth_rate"⟩ none (nullable real)
      <*> optional members ⟨"recvPkgRate", "received_package_rate"⟩ none (nullable real)
      <*> required members ⟨"sendAppendRequestCnt", "sent_append_request_count"⟩ whole
      <*> optional members ⟨"sendBandwidthRate", "sent_bandwidth_rate"⟩ none (nullable real)
      <*> optional members ⟨"sendPkgRate", "sent_package_rate"⟩ none (nullable real)
      <*> required members ⟨"startTime", "start_time"⟩ text
      <*> required members "state" text

/-- Operations that a member's store has handled. -/
structure StoreStats where
  compareAndDeleteFail : Int
  compareAndDeleteSuccess : Int
  compareAndSwapFail : Int
  compareAndSwapSuccess : Int
  createFail : Int
  createSuccess : Int
  deleteFail : Int
  deleteSuccess : Int
  expireCount : Int
  getFail : Int
  getSuccess : Int
  setFail : Int
  setSuccess : Int
  updateFail : Int
  updateSuccess : Int
  watchers : Int
  deriving DecidableEq, Repr

def StoreStats.ofJson : Reading StoreStats :=
  objectOf fun members =>
    StoreStats.mk
      <$> required members ⟨"compareAndDeleteFail", "compare_and_delete_fail"⟩ whole
      <*> required members ⟨"compareAndDeleteSuccess", "compare_and_delete_success"⟩ whole
      <*> required members ⟨"compareAndSwapFail", "compare_and_swap_fail"⟩ whole
      <*> required members ⟨"compareAndSwapSuccess", "compare_and_swap_success"⟩ whole
      <*> required members ⟨"createFail", "create_fail"⟩ whole
      <*> required members ⟨"createSuccess", "create_success"⟩ whole
      <*> required members ⟨"deleteFail", "delete_fail"⟩ whole
      <*> required members ⟨"deleteSuccess", "delete_success"⟩ whole
      <*> required members ⟨"expireCount", "expire_count"⟩ whole
      <*> required members ⟨"getsFail", "get_fail"⟩ whole
      <*> required members ⟨"getsSuccess", "get_success"⟩ whole
      <*> required members ⟨"setsFail", "set_fail"⟩ whole
      <*> required members ⟨"setsSuccess", "set_success"⟩ whole
      <*> required members ⟨"updateFail", "update_fail"⟩ whole
      <*> required members ⟨"updateSuccess", "update_success"⟩ whole
      <*> required members "watchers" whole

end ClusterClient
