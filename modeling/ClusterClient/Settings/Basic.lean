import ClusterClient.Credentials
import ClusterClient.Endpoint.Reader
import ClusterClient.Failure

/-!
# Settings

What a client is configured with, and the same with defaults applied. A timeout is given for all phases
of an exchange together, for each of them, or not at all; one number for all of them has to be positive.
Endpoints are read before timeouts are looked at.
-/

namespace ClusterClient

/-- Seconds allowed for connecting, reading and writing. -/
structure Timeouts where
  connect : Scalar
  read : Scalar
  write : Scalar
  deriving DecidableEq, Repr

namespace Timeouts

/-- Five seconds to connect, thirty to read, ten to write. -/
def standard : Timeouts :=
  ⟨.real (Binary64.ofInt 5), .real (Binary64.ofInt 30), .real (Binary64.ofInt 10)⟩

/-- The same number of seconds for each phase. -/
def uniform (seconds : Scalar) : Timeouts := ⟨seconds, seconds, seconds⟩

end Timeouts

/-- Whether a number of seconds is at most zero; one that is not a number is not. -/
def Scalar.isNonPositive : Scalar → Bool
  | .flag b => !b
  | .whole n => n ≤ 0
  | .real x => x.isNonPositive
  | _ => false

/-- A timeout as it is given. -/
inductive TimeoutSetting where
  | unset
  | seconds (n : Scalar)
  | each (timeouts : Timeouts)
  deriving DecidableEq, Repr

/-- The failure of a number of seconds that is not positive. It shows the number, and one that cannot be shown is
at fault itself. -/
def TimeoutSetting.refusal (n : Scalar) : Failure :=
  match n.whyUnshown? with
  | some e => .external e
  | none => .timeoutNotPositive n

/-- The timeouts that a setting means. -/
def TimeoutSetting.resolve : TimeoutSetting → Except Failure Timeouts
  | unset => .ok .standard
  -- what is no number is not below zero either, and passes
  | seconds n => if n.isNonPositive then .error (refusal n) else .ok (.uniform n)
  -- nobody looks at these
  | each timeouts => .ok timeouts

/-- The endpoint of a client that is given none. -/
def Endpoint.standard : Text := "http://127.0.0.1:2379"

/-- What a client is configured with. -/
structure Settings where
  endpoints : List Endpoint.Source
  credentials : Option Credentials
  timeout : TimeoutSetting
  headers : Headers
  verify : Option Bool
  trace : Option Bool

/-- The settings of a client that is configured with nothing. -/
def Settings.standard : Settings :=
  ⟨[.value (.text Endpoint.standard)], none, .unset, [], none, none⟩

/-- Settings with defaults applied. -/
structure ResolvedSettings where
  endpoints : List Endpoint
  credentials : Option Credentials
  timeouts : Timeouts
  headers : Headers
  verify : Bool
  trace : Bool

/-- Seconds allowed for each phase of an exchange, waiting for a free connection included. Without a limit
on reading, an answer may take as long as it needs. -/
structure PhaseLimits where
  connect : Scalar
  read : Option Scalar
  write : Scalar
  pool : Scalar
  deriving DecidableEq, Repr

namespace PhaseLimits

/-- Five seconds for every phase, as for connections that the client did not open itself. -/
def foreign : PhaseLimits :=
  let five := Scalar.real (Binary64.ofInt 5)
  ⟨five, some five, five, five⟩

end PhaseLimits

namespace ResolvedSettings

/-- The limits of an ordinary request. -/
def limits (s : ResolvedSettings) : PhaseLimits :=
  ⟨s.timeouts.connect, some s.timeouts.read, s.timeouts.write, s.timeouts.connect⟩

/-- The limits of a request whose answer may take as long as it needs. -/
def longPollLimits (s : ResolvedSettings) : PhaseLimits := { s.limits with read := none }

end ResolvedSettings

end ClusterClient
