import ClusterClient.Failure

/-!
# Events of a call

A call tells what happens to it: an attempt starts, and fails or succeeds; and at last, all members may
have failed.
-/

namespace ClusterClient

/-- What has happened. -/
inductive EventKind where
  | start
  | success (failedBefore : Nat)
  | fail (error : Failure)
  | exhausted (errors : List Failure)

/-- The name of a kind of event. -/
def EventKind.name : EventKind → Text
  | start => "attempt:start"
  | success _ => "attempt:success"
  | fail _ => "attempt:fail"
  | exhausted _ => "failover:exhausted"

/-- An event of a call. The number of the attempt counts from zero; when all members have failed, it is
the number of attempts, and there is no endpoint. -/
structure Event where
  kind : EventKind
  attempt : Nat
  endpoint : Option Endpoint

end ClusterClient
