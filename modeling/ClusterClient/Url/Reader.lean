import ClusterClient.Form
import ClusterClient.Url.Host

/-!
# Reading URLs

A text is split at its marks, and each part is then checked and put into normal form: the scheme into
lower case, the host as `Host.normalize` says, the port as a number that is left out where the scheme
implies it, the path without its dot segments, and every part with its escapes. `Url.ofParts` takes the
split parts, so that a URL with a new query passes the same checks.
-/

namespace ClusterClient

/-- A URL split at its marks, before any part is checked. -/
structure UrlParts where
  scheme : Text
  authority : Text
  path : Text
  query : Option Text
  fragment : Option Text
  deriving DecidableEq, Repr

namespace UrlParts

/-- Code points that a scheme may have after its first letter. -/
def isSchemePart (c : CodePoint) : Bool :=
  c.isAsciiLetter || c.isAsciiDigit || c = '+' || c = '.' || c = '-'

/-- The scheme in front of a colon, which may be empty, and what follows the colon. -/
def splitScheme (t : Text) : Text × Text :=
  -- a text that begins with a digit or a colon has no scheme
  let startsWell := (t.head?.map fun c => c.isAsciiLetter).getD false
  let scheme := if startsWell then t.takeWhile isSchemePart else []
  match t.drop scheme.length with
  | c :: rest => if c = ':' then (scheme, rest) else ([], t)
  | [] => ([], t)

/-- The part after a mark, if the text begins with the mark. -/
def afterMark (mark : CodePoint) : Text → Option Text
  | [] => none
  | c :: rest => if c = mark then some rest else none

/-- Splits a text at its marks. Every text can be split. -/
def ofText (t : Text) : UrlParts :=
  let (scheme, rest) := splitScheme t
  let (authority, rest) :=
    match Text.dropStart? "//" rest with
    | some rest => Text.breakAt (fun c => c = '/' || c = '?' || c = '#') rest
    | none => ([], rest)
  -- everything up to the first mark is path, and what follows a mark may hold the same mark again
  let (path, rest) := Text.breakAt (fun c => c = '?' || c = '#') rest
  let (query, rest) :=
    match afterMark '?' rest with
    | some rest =>
      let (query, rest) := Text.breakAt (· = CodePoint.ofChar '#') rest
      (some query, rest)
    | none => (none, rest)
  ⟨scheme, authority, path, query, afterMark '#' rest⟩

end UrlParts

namespace Url

/-- A URL or a part of one that is longer than this is refused. -/
def maxLength : Nat := 65536

/-! ## What each part keeps -/

/-- Printable ASCII, the ordinary space included. -/
def isPrintableAscii (c : CodePoint) : Bool := 0x20 ≤ c.val && c.val ≤ 0x7E

/-- Printable ASCII but for some. -/
def keeps (except : Text) (c : CodePoint) : Bool := isPrintableAscii c && !except.contains c

def keptInUserinfo : CodePoint → Bool := keeps " \"#<>?`\x7b\x7d/;=@[\\]^|"

def keptInPath : CodePoint → Bool := keeps " \"#<>?`\x7b\x7d"

def keptInQuery : CodePoint → Bool := keeps " \"#<>"

def keptInFragment : CodePoint → Bool := keeps " \"<>`"

/-- A part with its escapes. -/
def escapePart (kept : CodePoint → Bool) (t : Text) : Except UrlFault Text :=
  match Percent.encodeEach kept t with
  | .ok t => .ok t
  | .error e => .error (.unencodable e)

/-! ## The authority -/

/-- User information, host and port as written. -/
structure Authority where
  userinfo : Text
  host : Text
  port : Text
  deriving DecidableEq, Repr

/-- Splits an authority: user information ends at the last `@`; a host that begins with a bracket ends
at the last closing bracket, and any other at the first colon. -/
def Authority.ofText (t : Text) : Authority :=
  -- a password may hold the mark that ends it
  let (userinfo, rest) := (t.splitLast? '@').getD ([], t)
  let (host, rest) :=
    match rest with
    | c :: _ =>
      if c = '[' then
        match rest.splitLast? ']' with
        | some (front, back) => (front ++ "]", back)
        | none => Text.breakAt (· = CodePoint.ofChar ':') rest
      else Text.breakAt (· = CodePoint.ofChar ':') rest
    | [] => ([], [])
  -- what follows a bracket without a colon is taken for a port, and refused as one later
  ⟨userinfo, host, (UrlParts.afterMark ':' rest).getD rest⟩

/-- The port that a scheme implies. -/
def defaultPort? (scheme : Text) : Option Int :=
  if scheme = "ftp" then some 21
  else if scheme = "http" || scheme = "ws" then some 80
  else if scheme = "https" || scheme = "wss" then some 443
  else none

/-- The port as a number, unless it is absent or implied by the scheme. -/
def normalizePort (scheme written : Text) : Except UrlFault (Option Int) :=
  if written.isEmpty then .ok none
  else
    match Whole.read? written with
    | none => .error (.port written)
    | some n => .ok (if defaultPort? scheme = some n then none else some n)

/-! ## The path -/

/-- One more segment: a dot segment leaves no trace, and two dots take away the last segment, but not
the empty one in front. The segments are kept in reverse. -/
def addSegment (done : List Text) (segment : Text) : List Text :=
  if segment = "." then done
  else if segment = ".." then
    match done with
    | [] => []
    | [only] => if only.isEmpty then [only] else []
    | _ :: rest => rest
  else segment :: done

/-- A path without dot segments. -/
def normalizePath (path : Text) : Text :=
  let segments := path.splitOn '/'
  -- a path without dot segments is not touched at all
  if segments.any fun segment => segment = "." || segment = ".." then
    Text.join "/" (segments.foldl addSegment []).reverse
  else path

/-- Which paths may follow what. -/
def checkPath (hasScheme hasAuthority : Bool) (path : Text) : Except UrlFault Unit :=
  let begins (start : Text) : Bool := start.isPrefixOf path
  if hasAuthority then
    if path.isEmpty || begins "/" then .ok () else .error .pathAfterAuthority
  else if hasScheme then .ok ()
  else if begins "//" then .error .pathDoubleSlash
  else if begins ":" then .error .pathColon
  else .ok ()

/-! ## Putting it together -/

/-- The URL with these parts. -/
def ofParts (parts : UrlParts) : Except UrlFault Url := do
  let authority := Authority.ofText parts.authority
  let scheme := parts.scheme.toAsciiLower
  let userinfo ← escapePart keptInUserinfo authority.userinfo
  let host ← Host.normalize authority.host
  -- the scheme is compared as it was written, in lower case or not
  let port ← normalizePort parts.scheme authority.port
  let hasScheme := !scheme.isEmpty
  -- a port that the scheme implies makes no authority by itself
  let hasAuthority := !userinfo.isEmpty || !host.isEmpty || port.isSome
  checkPath hasScheme hasAuthority parts.path
  let path ← escapePart keptInPath
    -- a relative path keeps its dots
    (if hasScheme || hasAuthority then normalizePath parts.path else parts.path)
  let query ← parts.query.mapM (escapePart keptInQuery)
  let fragment ← parts.fragment.mapM (escapePart keptInFragment)
  return { scheme, userinfo, host, port, path, query, fragment }

/-- The URL that a text writes. -/
def read (t : Text) : Except UrlFault Url :=
  if maxLength < t.length then .error .tooLong
  else
    match t.findIdx? CodePoint.isAsciiControl with
    | some i => .error (.control (t.getD i 0) i)
    | none => ofParts (UrlParts.ofText t)

/-- The parts of a URL, to be read again. -/
def toParts (u : Url) : UrlParts := ⟨u.scheme, u.authority, u.path, u.query, u.fragment⟩

/-- Refuses a part that is too long. -/
def checkLength (name : Text) (part : Text) : Except UrlFault Unit :=
  if maxLength < part.length then .error (.componentTooLong name) else .ok ()

/-- Refuses parts of which one is too long; of two the one that stands first. -/
def checkLengths (parts : UrlParts) : Except UrlFault Unit := do
  checkLength "scheme" parts.scheme
  checkLength "authority" parts.authority
  checkLength "path" parts.path
  checkLength "query" (parts.query.getD [])
  checkLength "fragment" (parts.fragment.getD [])

/-- The form in the query of a URL. -/
def queryForm (u : Url) : Form.Grouped := Form.Grouped.ofPairs (Form.read (u.query.getD []))

/-- A URL whose query has these parameters besides its own; a parameter that is there takes the new
value. -/
def withParameters (u : Url) (parameters : List (Text × Text)) : Except UrlFault Url := do
  -- the query that is there is read as a form and written anew
  let form := parameters.foldl (fun form p => Form.Grouped.put p.1 p.2 form) u.queryForm
  match Form.write form.pairs with
  | .error e => .error (.unencodable e)
  | .ok written =>
    let parts := { u.toParts with query := if form.isEmpty then none else some written }
    -- a part that is handed over is held to a length of its own, other than a text that is read
    checkLengths parts
    ofParts parts

end Url

end ClusterClient
