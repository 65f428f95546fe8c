import ClusterClient.Number.Numeral

/-!
# Errors from outside

The exchange of a request, the code of callers and the interpreter fail in ways that this library does not define.
Such an error has a kind and a message; its kind says whether it is an error of the network. A cancellation is
among the kinds because callers may record one like an error.
-/

namespace ClusterClient

/-- The kinds of errors from outside. -/
inductive ExternalKind where
  | connectError
  | connectTimeout
  | readTimeout
  | writeTimeout
  | poolTimeout
  | readError
  | writeError
  | closeError
  | proxyError
  | unsupportedProtocol
  | localProtocolError
  | remoteProtocolError
  | decodingError
  | tooManyRedirects
  | httpError
  | invalidUrl
  | cookieConflict
  | system
  | fileNotFound
  | permission
  | connectionRefused
  | connectionReset
  | connectionAborted
  | brokenPipe
  | timeout
  | blocking
  | childProcess
  | fileExists
  | isDirectory
  | notDirectory
  | interrupted
  | noProcess
  | value
  | key
  | runtime
  | type
  | recursion
  | overflow
  | plain
  | cancellation
  deriving DecidableEq, Repr

namespace ExternalKind

/-- The name of a kind in messages. -/
def name : ExternalKind → Text
  | connectError => "ConnectError"
  | connectTimeout => "ConnectTimeout"
  | readTimeout => "ReadTimeout"
  | writeTimeout => "WriteTimeout"
  | poolTimeout => "PoolTimeout"
  | readError => "ReadError"
  | writeError => "WriteError"
  | closeError => "CloseError"
  | proxyError => "ProxyError"
  | unsupportedProtocol => "UnsupportedProtocol"
  | localProtocolError => "LocalProtocolError"
  | remoteProtocolError => "RemoteProtocolError"
  | decodingError => "DecodingError"
  | tooManyRedirects => "TooManyRedirects"
  | httpError => "HTTPError"
  | invalidUrl => "InvalidURL"
  | cookieConflict => "CookieConflict"
  | system => "OSError"
  | fileNotFound => "FileNotFoundError"
  | permission => "PermissionError"
  | connectionRefused => "ConnectionRefusedError"
  | connectionReset => "ConnectionResetError"
  | connectionAborted => "ConnectionAbortedError"
  | brokenPipe => "BrokenPipeError"
  | timeout => "TimeoutError"
  | blocking => "BlockingIOError"
  | childProcess => "ChildProcessError"
  | fileExists => "FileExistsError"
  | isDirectory => "IsADirectoryError"
  | notDirectory => "NotADirectoryError"
  | interrupted => "InterruptedError"
  | noProcess => "ProcessLookupError"
  | value => "ValueError"
  | key => "KeyError"
  | runtime => "RuntimeError"
  | type => "TypeError"
  | recursion => "RecursionError"
  | overflow => "OverflowError"
  | plain => "Exception"
  | cancellation => "CancelledError"

def all : List ExternalKind :=
  [connectError, connectTimeout, readTimeout, writeTimeout, poolTimeout, readError, writeError,
    closeError, proxyError, unsupportedProtocol, localProtocolError, remoteProtocolError, decodingError,
    tooManyRedirects, httpError, invalidUrl, cookieConflict, system, fileNotFound, permission,
    connectionRefused, connectionReset, connectionAborted, brokenPipe, timeout, blocking, childProcess,
    fileExists, isDirectory, notDirectory, interrupted, noProcess, value, key, runtime, type, recursion,
    overflow, plain, cancellation]

/-- The kind of a name. -/
def ofName? (t : Text) : Option ExternalKind := all.find? fun kind => kind.name = t

/-- Whether an error of this kind means that no answer was read. -/
def isNetwork : ExternalKind → Bool
  | invalidUrl | cookieConflict | value | key | runtime | type | recursion | overflow | plain | cancellation => false
  | _ => true

/-- Whether an error of this kind is one about an argument. -/
def isAboutArgument : ExternalKind → Bool
  | value | type | invalidUrl => true
  | _ => false

/-- The kind of a system error by its number. -/
def ofErrno (n : Int) : ExternalKind :=
  if n = 1 || n = 13 then permission
  else if n = 2 then fileNotFound
  else if n = 3 then noProcess
  else if n = 4 then interrupted
  else if n = 10 then childProcess
  else if n = 11 || n = 114 || n = 115 then blocking
  else if n = 17 then fileExists
  else if n = 20 then notDirectory
  else if n = 21 then isDirectory
  else if n = 32 || n = 108 then brokenPipe
  else if n = 103 then connectionAborted
  else if n = 104 then connectionReset
  else if n = 110 then timeout
  else if n = 111 then connectionRefused
  else system

end ExternalKind

/-- An error from outside. -/
structure External where
  kind : ExternalKind
  message : Text
  deriving DecidableEq, Repr

namespace External

/-- The error of a whole number that has too many digits to be written. -/
def tooManyDigits : External :=
  ⟨.value, "Exceeds the limit (4300 digits) for integer string conversion; " ++
    "use sys.set_int_max_str_digits() to increase the limit"⟩

/-- The error of an interpreter whose stack has no room left for what it is doing. -/
def tooDeep (doing : Text) : External := ⟨.recursion, "maximum recursion depth exceeded while " ++ doing⟩

/-- The error of a whole number that is too large to be rounded to a number with a fraction. -/
def tooLarge : External := ⟨.overflow, "int too large to convert to float"⟩

/-- The error that stands for a deadline that has passed. -/
def timedOut : External := ⟨.timeout, []⟩

end External

end ClusterClient
