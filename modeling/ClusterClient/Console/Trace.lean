import ClusterClient.Console.BodyText
import ClusterClient.Console.Panel
import ClusterClient.Failure
import ClusterClient.Headers

/-!
# Traces of an exchange

A request, its answer, or the reason why there is none, as lines on a console. Credentials in the headers
of a request are masked. Methods, addresses and messages are taken as markup, so that one with a tag in
the wrong place cannot be shown; nor can a body for which there is no room. A trace is printed piece by piece, and what
stands in front of a piece that cannot be shown has been printed by then.
-/

namespace ClusterClient.Console

/-- Why a piece of a trace cannot be printed: it is no markup, or there is no room for the body in it. -/
inductive Unprintable where
  | markup (fault : MarkupFault)
  | body (error : External)
  deriving DecidableEq, Repr

/-- The failure of a request whose trace cannot be printed. -/
def Unprintable.failure : Unprintable → Failure
  | markup fault => .markup fault
  | body error => .external error

/-- What has been printed, and what has stopped it, if it has not been printed to the end. -/
structure Printed where
  lines : List Text
  stopped : Option Unprintable

namespace Printed

/-- Lines that can always be printed. -/
def plain (lines : List Text) : Printed := ⟨lines, none⟩

/-- Nothing can be printed for this reason. -/
def fault (why : Unprintable) : Printed := ⟨[], some why⟩

/-- A piece whose markup may be at fault. -/
def ofMarkup : Except MarkupFault (List Text) → Printed
  | .ok lines => plain lines
  | .error why => fault (.markup why)

/-- One piece after another, unless the first one stops. -/
def andThen (first second : Printed) : Printed :=
  match first.stopped with
  | some _ => first
  | none => ⟨first.lines ++ second.lines, second.stopped⟩

end Printed

end ClusterClient.Console

namespace ClusterClient.Console.Trace

/-- One header as it is shown. -/
def headerEntry (header : Text × Text) : Text := header.1.quoted ++ ": " ++ header.2.quoted

/-- Headers in one line. -/
def headersInline (headers : Headers) : Text :=
  "\x7b" ++ Text.join ", " (List.map headerEntry headers) ++ "\x7d"

/-- Lines with a comma at the end of all but the last. -/
def withCommas : List Text → List Text
  | [] => []
  | [line] => [line]
  | line :: rest => (line ++ ",") :: withCommas rest

/-- Headers with a line for each. -/
def headersApart (headers : Headers) : List Text :=
  Text.ofString "\x7b" ::
    withCommas (List.map (fun header => Text.ofString "    " ++ headerEntry header) headers) ++
    [Text.ofString "\x7d"]

/-- Headers in one line if that fits, and otherwise with a line for each. -/
def headerLines (width : Nat) (headers : Headers) : List Text :=
  let inline := headersInline headers
  -- even an empty pair of braces is wrapped where the console is too narrow for it
  if headers.isEmpty || cells inline ≤ width then wrap width inline
  else (headersApart headers).flatMap (wrap width)

/-- The headers below their heading. -/
def headerSection (width : Nat) (headers : Headers) : List Text :=
  wrap width "Headers:" ++ headerLines width headers

/-- A panel with a body, if there is one. -/
def bodyPanel (room : Room) (width : Nat) (title : Text) (body : Octets) : Printed :=
  if body.isEmpty then .plain []
  else
    match BodyText.ofOctets room body with
    | .error why => .fault (.body why)
    | .ok t => .ofMarkup (listingPanel width title t)

/-- The trace of a request. -/
def request (room : Room) (width : Nat) (method url : Text) (headers : Headers) (body : Octets) : Printed :=
  let head := Printed.ofMarkup (markupPanel width "[bold blue]Request[/bold blue]"
    ("[bold cyan]" ++ method ++ "[/bold cyan] " ++ url))
  -- the headers of a request are masked, those of an answer are not
  (head.andThen (.plain (headerSection width (Mask.headers headers)))).andThen
    (bodyPanel room width "[bold]Request Body[/bold]" body)

/-- The trace of an answer. -/
def response (room : Room) (width : Nat) (url : Text) (status : Int) (headers : Headers) (body : Octets) :
    Printed :=
  let head := Printed.ofMarkup (markupPanel width ("[bold blue]Response[/bold blue] (" ++ url ++ ")")
    ("[bold]" ++ Whole.toText status ++ "[/bold]"))
  (head.andThen (.plain (headerSection width headers))).andThen
    (bodyPanel room width ("[bold]Response Body[/bold] (URL: " ++ url ++ ")") body)

/-- The trace of an error in place of an answer. -/
def error (width : Nat) (method url kindName message : Text) : Printed :=
  .ofMarkup (markupPanel width ("[bold red]Transport error[/bold red] (" ++ method ++ " " ++ url ++ ")")
    ("[bold red]" ++ kindName ++ "[/bold red] " ++ message))

end ClusterClient.Console.Trace
