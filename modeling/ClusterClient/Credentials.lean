import ClusterClient.Headers
import ClusterClient.Text.Base64
import ClusterClient.Text.Quoted

/-!
# Credentials

A user name and a password, sent as one header. Shown in a message, the password is masked.
-/

namespace ClusterClient

/-- A user name and a password. -/
structure Credentials where
  username : Text
  password : Text
  deriving DecidableEq, Repr

namespace Credentials

/-- Name and password, joined by a colon. -/
def joined (c : Credentials) : Text := c.username ++ ":" ++ c.password

/-- The value of the header that carries the credentials. -/
def header (c : Credentials) : Except Unencodable Text :=
  match c.joined.encode .utf8 with
  | .ok octets => .ok ("Basic " ++ Base64.encode octets)
  | .error e => .error e

/-- The form of credentials inside a message. -/
def quoted (c : Credentials) : Text :=
  "BasicAuth(username=" ++ c.username.quoted ++ ", password=" ++
    (Mask.sensitive 0 (some c.password)).quoted ++ ")"

end Credentials

end ClusterClient
