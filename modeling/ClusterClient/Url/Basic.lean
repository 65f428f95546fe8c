import ClusterClient.External
import ClusterClient.Text.Quoted
import ClusterClient.Text.Utf8

/-!
# URLs

A URL is kept in its parts, each in its written form. `Url.toText` puts them together: a part that is
empty leaves no trace, except that a query or fragment may be present and empty.
-/

namespace ClusterClient

/-- A URL taken apart. The host of an IPv6 address stands without its brackets. -/
structure Url where
  scheme : Text
  userinfo : Text
  host : Text
  port : Option Int
  path : Text
  query : Option Text
  fragment : Option Text
  deriving DecidableEq, Repr

/-- Why a text is no URL. -/
inductive UrlFault where
  | tooLong
  | componentTooLong (name : Text)
  | control (c : CodePoint) (position : Nat)
  | ipv4 (host : Text)
  | ipv6 (host : Text)
  | hostname (host : Text)
  | port (written : Text)
  | pathAfterAuthority
  | pathDoubleSlash
  | pathColon
  | unencodable (why : Unencodable)
  /-- A parameter has no text. -/
  | parameter (why : External)
  deriving DecidableEq, Repr

namespace UrlFault

/-- The message of a fault. -/
def message : UrlFault → Text
  | tooLong => "URL too long"
  | componentTooLong name => "URL component '" ++ name ++ "' too long"
  | control c position =>
    "Invalid non-printable ASCII character in URL, " ++ Text.quoted [c] ++ " at position " ++
      Text.ofNat position ++ "."
  | ipv4 host => "Invalid IPv4 address: " ++ host.quoted
  | ipv6 host => "Invalid IPv6 address: " ++ host.quoted
  | hostname host => "Invalid IDNA hostname: " ++ host.quoted
  | port written => "Invalid port: " ++ written.quoted
  | pathAfterAuthority => "For absolute URLs, path must be empty or begin with '/'"
  | pathDoubleSlash => "Relative URLs cannot have a path starting with '//'"
  | pathColon => "Relative URLs cannot have a path starting with ':'"
  | unencodable why => why.message
  | parameter why => why.message

/-- The name of the kind of a fault. -/
def kindName : UrlFault → Text
  | unencodable _ => "UnicodeEncodeError"
  | parameter why => why.kind.name
  | _ => "InvalidURL"

end UrlFault

namespace Url

/-- A part with the marks around it, and nothing for an empty part. -/
def marked (front part back : Text) : Text := if part.isEmpty then [] else front ++ part ++ back

/-- A part after its mark, if it is present. -/
def following (mark : Text) (part : Option Text) : Text := (part.map (mark ++ ·)).getD []

/-- A host as it stands in an authority: one with a colon stands between brackets. -/
def writtenHost (host : Text) : Text :=
  if host.contains (CodePoint.ofChar ':') then "[" ++ host ++ "]" else host

/-- User information, host and port. -/
def authority (u : Url) : Text :=
  marked [] u.userinfo "@" ++ writtenHost u.host ++ following ":" (u.port.map Whole.toText)

/-- The text of a URL. -/
def toText (u : Url) : Text :=
  marked [] u.scheme ":" ++ marked "//" u.authority [] ++ u.path ++ following "?" u.query ++
    following "#" u.fragment

end Url

end ClusterClient
