import ClusterClient.Number.Decimal
import ClusterClient.Settings.Basic

/-!
# Settings from the environment

Some settings may come from environment variables: endpoints, credentials and the timeout when a client
is built from the environment, and the defaults for verification and tracing always.
-/

namespace ClusterClient

/-- Environment variables and their values. -/
abbrev Environment := List (Text × Text)

namespace Environment

/-- The value of a variable. -/
def get? (env : Environment) (name : Text) : Option Text :=
  (env.find? fun entry => entry.1 = name).map Prod.snd

/-- The value of a variable, empty if it is unset. -/
def get (env : Environment) (name : Text) : Text := (env.get? name).getD []

/-- Words that turn something on. -/
def onWords : List Text := ["1", "true", "yes", "on"]

/-- Whether tracing is turned on. -/
def traces (env : Environment) : Bool :=
  onWords.contains (Text.strip (env.get "ETCD_CLIENT_TRACE")).toLower

/-- Whether the verification of certificates is turned off. -/
def skipsVerification (env : Environment) : Bool :=
  env.get "NODE_TLS_REJECT_UNAUTHORIZED" = "0" || env.get "SSL_CERT_VERIFY" = "0"

/-- The endpoints that are listed, or the standard one. -/
def endpoints (env : Environment) : List Text :=
  let listed := ((Text.splitOn ',' (env.get "ETCD_ENDPOINTS")).map Text.strip).filter fun t => !t.isEmpty
  if listed.isEmpty then [Endpoint.standard] else listed

/-- The credentials, if there is a user name. -/
def credentials (env : Environment) : Option Credentials :=
  let username := env.get "ETCD_USERNAME"
  if username.isEmpty then none else some ⟨username, env.get "ETCD_PASSWORD"⟩

/-- The timeout in seconds, if there is one. -/
def timeout (env : Environment) : Except Failure (Option Binary64) :=
  let given := env.get "ETCD_TIMEOUT"
  if given.isEmpty then .ok none
  else
    match Binary64.read? given with
    | some x => .ok (some x)
    | none => .error (.timeoutNotNumber given)

/-- The settings of a client that is built from the environment. -/
def settings (env : Environment) : Except Failure Settings := do
  let seconds ← env.timeout
  return {
    endpoints := env.endpoints.map fun t => .value (.text t)
    credentials := env.credentials
    timeout := (seconds.map fun x => TimeoutSetting.seconds (.real x)).getD .unset
    headers := []
    verify := none
    trace := none }

end Environment

/-- Reads the endpoints of settings and applies defaults. -/
def Settings.resolve (room : Room) (settings : Settings) (env : Environment) :
    Except Failure ResolvedSettings := do
  -- of several faults that of the endpoints comes first
  let endpoints ← Endpoint.readAll room settings.endpoints
  let timeouts ← settings.timeout.resolve
  return {
    endpoints
    credentials := settings.credentials
    timeouts
    headers := settings.headers
    -- what is configured wins over the environment, off as well as on
    verify := settings.verify.getD !env.skipsVerification
    trace := settings.trace.getD env.traces }

end ClusterClient
