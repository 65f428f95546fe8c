import ClusterClient.Console.EmojiNames
import ClusterClient.Console.Literal.Parser
import ClusterClient.Console.Style

/-!
# Markup

Text for the console may hold tags between brackets, which style what follows them and leave no trace
of their own. A tag begins with a lower-case letter, `#`, `/` or `@`; a backslash in front of its bracket
takes its meaning away. A closing tag has to match a tag that is open. A tag that begins with `@` is an
action; its parameters, if it is closed, have to write a literal. The name of an emoji between colons gives
the emoji.
-/

namespace ClusterClient.Console

/-- Why marked-up text cannot be shown: a closing tag that closes nothing, and where it stands; parameters of
an action that write no literal; or a style that cannot be read. -/
inductive MarkupFault where
  | unmatched (tag : Text) (position : Nat)
  | nothingOpen (position : Nat)
  | parameters (all literal : Text) (reason : Literal.Fault)
  | style (reason : StyleFault)
  deriving DecidableEq, Repr

namespace MarkupFault

def message : MarkupFault → Text
  | unmatched tag position =>
    "closing tag '" ++ tag ++ "' at position " ++ Text.ofNat position ++ " doesn't match any open tag"
  | nothingOpen position =>
    "closing tag '[/]' at position " ++ Text.ofNat position ++ " has nothing to close"
  | parameters all literal reason =>
    "error parsing " ++ (if reason.isSyntactic then literal.quoted ++ " in " ++ all.quoted else all.quoted) ++
      "; " ++ reason.message
  | style reason => reason.message

/-- The name of the kind of a fault. -/
def kindName : MarkupFault → Text
  | style _ => "ValueError"
  | _ => "MarkupError"

end MarkupFault

namespace Markup

/-- Code points that a tag may begin with. -/
def beginsTag (c : CodePoint) : Bool := c.isAsciiLower || c = '#' || c = '/' || c = '@'

/-- The inside of a tag whose bracket has just been opened, and what follows the tag: the tag ends at
the first closing bracket, with no opening bracket before it. -/
def tag? (t : Text) : Option (Text × Text) :=
  match t with
  | [] => none
  | c :: rest =>
    if beginsTag c then
      match Text.breakAt (fun d => d = '[' || d = ']') rest with
      -- an opening bracket inside may begin a tag of its own, and what stands in front of it is plain text
      | (inside, d :: rest) => if d = ']' then some (c :: inside, rest) else none
      | (_, []) => none
    else none

/-- A piece of marked-up text, with the position at which it begins. -/
inductive Piece where
  | plain (t : Text)
  | tag (position : Nat) (inside : Text)
  deriving DecidableEq, Repr

/-- A plain text without the backslashes that stand right in front of a bracket. -/
def unescapeBrackets (t : Text) : Text :=
  (t.zip (t.drop 1 ++ [0])).filterMap fun (c, next) =>
    if c = '\\' && next = CodePoint.ofChar '[' then none else some c

/-- The pieces of a text from a position on. Backslashes and plain text in front are kept in reverse;
`patience` bounds the number of steps, each of which takes up at least one code point. -/
def piecesFrom : Nat → Nat → Nat → Text → Text → List Piece → List Piece
  | 0, _, _, plain, _, done => (.plain plain.reverse :: done).reverse
  | _ + 1, _, slashes, plain, [], done =>
    (.plain (List.replicate slashes (CodePoint.ofChar '\\') ++ plain).reverse :: done).reverse
  | patience + 1, position, slashes, plain, c :: rest, done =>
    if c = '\\' then piecesFrom patience (position + 1) (slashes + 1) plain rest done
    else
      let kept := List.replicate slashes (CodePoint.ofChar '\\') ++ plain
      match if c = '[' then tag? rest else none with
      | none => piecesFrom patience (position + 1) 0 (c :: kept) rest done
      | some (inside, rest') =>
        let after := position + inside.length + 2
        let half := List.replicate (slashes / 2) (CodePoint.ofChar '\\')
        if slashes % 2 = 1 then
          piecesFrom patience after 0 []
            rest' (.plain ("[" ++ inside ++ "]") :: .plain half :: .plain plain.reverse :: done)
        else
          piecesFrom patience after 0 [] rest'
            (.tag position inside :: .plain half :: .plain plain.reverse :: done)

/-- The pieces of a text. -/
def pieces (t : Text) : List Piece := piecesFrom (t.length + 1) 0 0 [] t []

/-- A tag by its name, and what stands behind an equals sign. -/
structure Tag where
  name : Text
  parameters : Option Text
  deriving DecidableEq, Repr

namespace Tag

/-- The tag with this inside. -/
def ofInside (inside : Text) : Tag :=
  match Text.breakAt (· = CodePoint.ofChar '=') inside with
  | (name, []) => ⟨name, none⟩
  | (name, _ :: parameters) => ⟨name, some parameters⟩

def isClosing (tag : Tag) : Bool := tag.name.head? = some (CodePoint.ofChar '/')

def isAction (tag : Tag) : Bool := tag.name.head? = some (CodePoint.ofChar '@')

/-- The definition of the style of a tag. -/
def definition (tag : Tag) : Text :=
  match tag.parameters with
  | none => tag.name
  | some parameters => tag.name ++ " " ++ parameters

end Tag

/-- The literal in the parameters of an action: the arguments, if they are a call or just a name. -/
def literalOf (parameters : Text) : Text :=
  let parameters := parameters.strip
  let arguments : Text := parameters.dropWhile fun c => c.isWordPart || c = CodePoint.ofChar '.'
  if arguments.isEmpty then "()"
  else if arguments.head? = some (CodePoint.ofChar '(') && arguments.getLast? = some (CodePoint.ofChar ')') &&
      !arguments.contains (CodePoint.ofChar '\n') then
    arguments
  else parameters

/-- Checks the parameters of an action. -/
def checkAction (tag : Tag) : Except MarkupFault Unit :=
  match tag.parameters with
  | none | some [] => .ok ()
  | some all =>
    match Literal.check (literalOf all) with
    | .ok () => .ok ()
    | .error reason => .error (.parameters all (literalOf all) reason)

/-- The name by which a tag is closed. -/
def normalName (name : Text) : Except MarkupFault Text :=
  match Style.normalName name with
  | .ok name => .ok name
  | .error reason => .error (.style reason)

/-- The last of the open tags that has a name, and the others. -/
def close? (name : Text) : List Tag → Option (Tag × List Tag)
  | [] => none
  | tag :: rest =>
    if tag.name = name then some (tag, rest)
    else (close? name rest).map fun (found, others) => (found, tag :: others)

/-- The variation selectors of emoji, each with the ending of a name that calls for it. -/
def emojiVariants : List (Text × CodePoint) := [("-emoji", 0xFE0F), ("-text", 0xFE0E)]

/-- What stands for a name between colons: its emoji, with a variation selector if the name asks for one. A
name that no emoji has stays as it is, with its colons. -/
def emojiFor (inside : Text) : Text :=
  let form? :=
    match emojiVariants.find? fun (ending, _) => ending.isSuffixOf inside with
    | some (ending, selector) =>
      (emoji? (inside.take (inside.length - ending.length))).map (· ++ [selector])
    | none => emoji? inside
  form?.getD (":" ++ inside ++ ":")

/-- A text with emoji in place of their names. A name stands between two colons and holds no blanks. -/
def withEmoji (t : Text) : Text :=
  match t with
  | [] => []
  | c :: rest =>
    let part := Text.breakAt (fun d => d = ':' || d.isBlank) rest
    if c = ':' && part.2.head? = some (CodePoint.ofChar ':') then
      emojiFor part.1 ++ withEmoji part.2.tail
    else c :: withEmoji rest
termination_by t.length
decreasing_by
  · have := Text.length_breakAt_snd_le (fun d => d = ':' || d.isBlank) rest
    simp only [List.length_tail, List.length_cons]
    omega
  · simp

/-- Closes an action or any other tag. -/
def closeTag (tag : Tag) : Except MarkupFault Unit :=
  if tag.isAction then checkAction tag else .ok ()

/-- The plain text of the pieces, and the tags. Given are the open tags, innermost first, and the text and
the tags so far, the last first. -/
def plainFrom : List Piece → List Tag → List Tag → List Text → Except MarkupFault (Text × List Tag)
  | [], _, tags, done => .ok (done.reverse.flatten, tags)
  | .plain t :: rest, open_, tags, done =>
    plainFrom rest open_ tags (withEmoji (unescapeBrackets t) :: done)
  | .tag position inside :: rest, open_, tags, done => do
    let tag := Tag.ofInside inside
    if tag.isClosing then
      let name := Text.strip tag.name.tail
      if name.isEmpty then
        match open_ with
        | [] => throw (MarkupFault.nothingOpen position)
        | closed :: outer =>
          closeTag closed
          plainFrom rest outer tags done
      else
        match close? (← normalName name) open_ with
        | none => throw (MarkupFault.unmatched ("[" ++ inside ++ "]") position)
        | some (closed, outer) =>
          closeTag closed
          plainFrom rest outer tags done
    else
      let tag : Tag := ⟨← normalName tag.name, tag.parameters⟩
      plainFrom rest (tag :: open_) (tag :: tags) done

/-- Code points that the console leaves out: bell, backspace, vertical tab, form feed and carriage
return. -/
def isLeftOut (c : CodePoint) : Bool := [7, 8, 11, 12, 13].contains c.val

/-- Whether the style of a tag can be read. -/
def checkStyle (tag : Tag) : Except MarkupFault Unit :=
  match Style.read tag.definition with
  | .ok _ => .ok ()
  | .error reason => .error (.style reason)

/-- The text that remains of marked-up text. -/
def plain (t : Text) : Except MarkupFault Text := do
  let (text, tags) ← plainFrom (pieces t) [] [] []
  tags.reverse.forM checkStyle
  return List.filter (fun c => !isLeftOut c) text

end Markup

end ClusterClient.Console
