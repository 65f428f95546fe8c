import ClusterClient.Console.Literal.Fault
import ClusterClient.Text.Category
import ClusterClient.Text.Blank

/-!
# Tokens of an expression

A text is cut into names, numbers, strings and symbols. Blanks separate them, a line end is a token of its
own outside brackets, and brackets have to match. Where no token begins, scanning stops; what it then
means depends on whether the rest is wrong (`Stop.broken`) or only missing (`Stop.short`).
-/

namespace ClusterClient.Console.Literal

inductive TokenKind where
  | name
  | number
  | string
  | symbol
  | lineEnd
  | indent
  | ending
  deriving DecidableEq, Repr

/-- A token, with the number of brackets that are open behind it and its line. -/
structure Token where
  kind : TokenKind
  text : Text
  level : Nat
  line : Nat
  deriving DecidableEq, Repr

/-- How scanning ends. -/
inductive Stop where
  /-- At the end of the text, which is a token too. -/
  | complete
  /-- At something that is no token. -/
  | broken (fault : Fault)
  /-- At the end of a text that should go on, or of a line that should end. The fault is that of a reader
  who gets there; the bracket is the last one that is still open, with its line. -/
  | short (fault : Fault) (opened : Option (CodePoint × Nat))
  deriving DecidableEq, Repr

/-- The tokens of a text and what stands behind them. `touchesEnd` says that the end of the text is what
ends the last token. -/
structure Scan where
  tokens : Array Token
  stop : Stop
  touchesEnd : Bool
  deriving Repr

/-! ## Numbers

Each function takes what follows the part of a number that has been read, and gives what follows the whole
number. -/

/-- Code points of which names consist. Beyond ASCII that is looked at later. -/
def isNamePart (c : CodePoint) : Bool :=
  c.isAsciiLetter || c.isAsciiDigit || c = CodePoint.ofChar '_' || !c.isAscii

def isNameStart (c : CodePoint) : Bool := isNamePart c && !c.isAsciiDigit

/-- Words that may stand right behind a number. -/
def wordsAfterNumber : List Text := ["and", "else", "for", "or", "not"]

/-- What words that may stand right behind a number begin with. -/
def startsAfterNumber : List Text := ["if", "in", "is"]

/-- A number ends here: among the names of ASCII, only some words may begin at once. -/
def endNumber (kind rest : Text) : Except Fault Text :=
  let isLetterOrDigit (c : CodePoint) : Bool := c.isAscii && isNamePart c
  if (rest.head?.map isLetterOrDigit).getD false &&
      !wordsAfterNumber.contains (rest.takeWhile isNamePart) &&
      !startsAfterNumber.any (·.isPrefixOf rest) then
    .error (.numeral kind)
  else .ok rest

/-- The rest of a run of digits in which single underscores stand between digits. -/
def digitsEnd (kind : Text) (isDigit : CodePoint → Bool) (between : Bool) : Text → Except Fault Text
  | [] => if between then .error (.numeral kind) else .ok []
  | c :: rest =>
    if isDigit c then digitsEnd kind isDigit false rest
    else if between then .error (.numeral kind)
    else if c = CodePoint.ofChar '_' then digitsEnd kind isDigit true rest
    else .ok (c :: rest)

/-- What follows the decimal digits of a number. -/
def decimalEnd (rest : Text) : Except Fault Text :=
  digitsEnd "decimal" CodePoint.isAsciiDigit false rest

def startsDigit (t : Text) : Bool := (t.head?.map CodePoint.isAsciiDigit).getD false

/-- Whether a text begins with a letter, small or capital. -/
def startsLetter (letter : Char) (t : Text) : Bool :=
  t.head?.map CodePoint.toAsciiLower = some (CodePoint.ofChar letter)

/-- Behind all digits, a number may be marked as imaginary. -/
def suffixEnd (rest : Text) : Except Fault Text :=
  if startsLetter 'j' rest then endNumber "imaginary" rest.tail else endNumber "decimal" rest

/-- Behind the digits and the fraction, a number may have an exponent. -/
def exponentEnd (rest : Text) : Except Fault Text :=
  if startsLetter 'e' rest then
    let signed :=
      rest.tail.head? = some (CodePoint.ofChar '+') || rest.tail.head? = some (CodePoint.ofChar '-')
    let digits := if signed then rest.tail.tail else rest.tail
    if startsDigit digits then (decimalEnd digits).bind suffixEnd
    -- a sign promises digits; without one the letter may belong to a word behind the number
    else if signed then .error (.numeral "decimal")
    else (endNumber "decimal" rest).map fun _ => rest
  else suffixEnd rest

/-- Behind the point of a number, there may be digits. -/
def fractionEnd (rest : Text) : Except Fault Text :=
  if startsDigit rest then (decimalEnd rest).bind exponentEnd else exponentEnd rest

/-- Behind the whole digits of a number, there may be a fraction. -/
def wholeEnd (rest : Text) : Except Fault Text :=
  if rest.head? = some (CodePoint.ofChar '.') then fractionEnd rest.tail else exponentEnd rest

/-- The digits of a number in another base. A decimal digit that the base lacks is named. -/
def baseEnd (kind : Text) (isDigit : CodePoint → Bool) : Bool → Text → Except Fault Text
  | true, [] => .error (.numeral kind)
  | false, [] => .ok []
  | needed, c :: rest =>
    if isDigit c then baseEnd kind isDigit false rest
    -- a digit of another base is worth a message of its own
    else if c.isAsciiDigit then .error (.digit c kind)
    else if needed then .error (.numeral kind)
    else if c = CodePoint.ofChar '_' then baseEnd kind isDigit true rest
    else endNumber kind (c :: rest)

/-- A number in another base, behind the letter of the base. -/
def baseNumberEnd (kind : Text) (isDigit : CodePoint → Bool) (rest : Text) : Except Fault Text :=
  baseEnd kind isDigit true (if rest.head? = some (CodePoint.ofChar '_') then rest.tail else rest)

/-- A number that begins with zero, behind that zero. -/
def zeroEnd (rest : Text) : Except Fault Text :=
  if startsLetter 'x' rest then baseNumberEnd "hexadecimal" (fun c => c.hexValue?.isSome) rest.tail
  else if startsLetter 'o' rest then
    baseNumberEnd "octal" (fun c => 0x30 ≤ c.val && c.val < 0x38) rest.tail
  else if startsLetter 'b' rest then
    baseNumberEnd "binary" (fun c => c.val = 0x30 || c.val = 0x31) rest.tail
  else
    match decimalEnd rest with
    | .error fault => .error fault
    | .ok after =>
      let digits := rest.take (rest.length - after.length)
      -- zeros in front are let pass in front of zeros, of a fraction and of an exponent
      let isZero := digits.all fun c => c = CodePoint.ofChar '0' || c = CodePoint.ofChar '_'
      if isZero || after.head? = some (CodePoint.ofChar '.') || startsLetter 'e' after ||
          startsLetter 'j' after then
        wholeEnd after
      else .error .leadingZeros

/-- What follows the number that begins with this digit. -/
def numberEnd (c : CodePoint) (rest : Text) : Except Fault Text :=
  if c = CodePoint.ofChar '0' then zeroEnd rest else (decimalEnd rest).bind wholeEnd

/-! ## Strings -/

/-- What follows a string in single quotes whose quote has been read, and the lines that it takes up. -/
def shortStringEnd (quote : CodePoint) (line : Nat) : Text → Except Fault (Text × Nat)
  | [] => .error (.openString line)
  | c :: rest =>
    if c = quote then .ok (rest, line)
    else if c = CodePoint.ofChar '\n' then .error (.openString line)
    else if c = CodePoint.ofChar '\\' then
      match rest with
      | [] => .error (.openString line)
      | d :: rest => shortStringEnd quote (if d = CodePoint.ofChar '\n' then line + 1 else line) rest
    else shortStringEnd quote line rest

/-- What follows a string in three quotes, of which `seen` have just been read. -/
def longStringEnd (quote : CodePoint) (line seen : Nat) : Text → Except Fault (Text × Nat)
  | [] => .error (.openLongString line)
  | c :: rest =>
    if c = quote then
      -- the third quote in a row ends the string
      if seen = 2 then .ok (rest, line) else longStringEnd quote line (seen + 1) rest
    else if c = CodePoint.ofChar '\\' then
      match rest with
      | [] => .error (.openLongString line)
      | d :: rest => longStringEnd quote (if d = CodePoint.ofChar '\n' then line + 1 else line) 0 rest
    else longStringEnd quote (if c = CodePoint.ofChar '\n' then line + 1 else line) 0 rest

/-- What follows a string behind its first quote, and the line on which it ends. -/
def stringEnd (quote : CodePoint) (line : Nat) (rest : Text) : Except Fault (Text × Nat) :=
  match rest with
  | c :: d :: more =>
    if c = quote && d = quote then longStringEnd quote line 0 more
    else if c = quote then .ok (d :: more, line)
    else shortStringEnd quote line rest
  | _ => shortStringEnd quote line rest

/-- The words that may stand in front of a string. -/
def stringPrefixes : List Text := ["b", "br", "rb", "u", "r", "f", "fr", "rf"]

/-! ## Scanning -/

/-- Symbols of more than one code point, the longest first. -/
def longSymbols : List Text :=
  ["...", "**=", "//=", ">>=", "<<=", "==", "!=", "<=", ">=", "<>", "->", "+=", "-=", "*=", "/=", "%=",
   "&=", "|=", "^=", "@=", "**", "//", "<<", ">>", ":="]

def isOpening (c : CodePoint) : Bool := c = '(' || c = '[' || c = '\x7b'

def isClosing (c : CodePoint) : Bool := c = ')' || c = ']' || c = '\x7d'

/-- The bracket that closes another one. -/
def closingOf (c : CodePoint) : CodePoint := if c = '(' then ')' else if c = '[' then ']' else '\x7d'

/-- No more brackets than this may be open. -/
def maxOpenBrackets : Nat := 200

/-- Blanks within a line. -/
def isGap (c : CodePoint) : Bool := c = ' ' || c = '\t' || c.val = 0x0C

/-- Where a scan stands: the open brackets with their lines, the innermost first, the line, the tokens so
far, the last one first, and whether what comes next ends the last token. -/
structure Scanner where
  brackets : List (CodePoint × Nat)
  line : Nat
  tokens : List Token
  touches : Bool

namespace Scanner

/-- Whether a token says itself where it ends. A string of two quotes might be the beginning of a longer
one. -/
def endsItself (kind : TokenKind) (text : Text) : Bool :=
  kind = .string && 2 < (text.dropWhile CodePoint.isAsciiLetter).length

/-- One more token, which begins on a line. -/
def push (s : Scanner) (kind : TokenKind) (text : Text) (line : Nat) : Scanner :=
  { s with tokens := ⟨kind, text, s.brackets.length, line⟩ :: s.tokens, touches := !endsItself kind text }

/-- Something that is no token stands behind the last one. -/
def leave (s : Scanner) : Scanner := { s with touches := false }

/-- The scan when it stops here. -/
def stop (s : Scanner) (reason : Stop) : Scan := ⟨s.tokens.reverse.toArray, reason, false⟩

/-- The scan at the end of the text. -/
def finish (s : Scanner) : Scan :=
  match s.brackets with
  | [] => (s.push .ending [] s.line).stop .complete
  | (opening, line) :: _ =>
    { s.stop (.short (.neverClosed opening) (some (opening, line))) with touchesEnd := s.touches }

/-- What follows a backslash that takes its line on, if the line ends behind it and is not the last one; and
the scan if that is not so. -/
def nextLine (s : Scanner) : Text → Scan ⊕ Text
  | [] => .inl (s.stop (.short .afterBackslash s.brackets.head?))
  | c :: rest =>
    if c ≠ CodePoint.ofChar '\n' then .inl (s.stop (.short .afterBackslash s.brackets.head?))
    else if rest.isEmpty then
      .inl (s.stop (.short ((s.brackets.head?.map fun b => .neverClosed b.1).getD .unexpectedEnd)
        s.brackets.head?))
    else .inr rest

/-- Takes up a symbol. -/
def symbol (s : Scanner) (text : Text) : Except Fault Scanner :=
  match text with
  | [c] =>
    if isOpening c then
      if maxOpenBrackets ≤ s.brackets.length then .error .tooManyBrackets
      else .ok ({ s with brackets := (c, s.line) :: s.brackets }.push .symbol text s.line)
    else if isClosing c then
      match s.brackets with
      | [] => .error (.unmatchedBracket c)
      | (opening, line) :: outer =>
        if closingOf opening = c then .ok ({ s with brackets := outer }.push .symbol text s.line)
        else .error (.otherBracket c opening (if line = s.line then none else some line))
    else if !c.isPrintable then .error (.character c)
    else .ok (s.push .symbol text s.line)
  | _ => .ok (s.push .symbol text s.line)

/-- The first code point of a name that an identifier cannot have there. -/
def strayInName? (name : Text) : Option CodePoint :=
  match name with
  | [] => none
  | c :: rest =>
    if c.beginsIdentifier then rest.find? fun d => !d.continuesIdentifier else some c

end Scanner

/-- Scans a text from where a scanner stands; `fresh` says that a line begins. Each step takes up at least
one code point, so that the length of the text is `patience` enough. -/
def scanFrom : Nat → Bool → Text → Scanner → Scan
  | 0, _, _, s => s.finish
  | patience + 1, true, t, s =>
    let body := t.dropWhile isGap
    let isEmpty := body.head? = some (CodePoint.ofChar '\n') || body.head? = some (CodePoint.ofChar '#')
    if isEmpty then
      match body.dropWhile (· ≠ CodePoint.ofChar '\n') with
      | [] => s.finish
      | _ :: rest => scanFrom patience true rest { s with line := s.line + 1 }
    else if body.head? = some (CodePoint.ofChar '\\') then
      match s.nextLine body.tail with
      | .inl done => done
      | .inr rest => scanFrom patience true rest { s with line := s.line + 1 }
    -- a line that is indented, where nothing is open that it could go on with
    else if s.brackets.isEmpty && body.length < t.length then
      scanFrom patience false body (s.push .indent [] s.line)
    else scanFrom patience false body s
  | _ + 1, false, [], s => s.finish
  | patience + 1, false, c :: rest, s =>
    let number (result : Except Fault Text) : Scan :=
      match result with
      | .error fault => s.stop (.broken fault)
      | .ok after =>
        scanFrom patience false after
          (s.push .number ((c :: rest).take (rest.length + 1 - after.length)) s.line)
    let string (before quoted : Text) : Scan :=
      match quoted with
      | [] => s.finish
      | quote :: inside =>
        match stringEnd quote s.line inside with
        | .error fault => s.stop (.broken fault)
        | .ok (after, line) =>
          let text := before ++ quoted.take (quoted.length - after.length)
          scanFrom patience false after { s.push .string text s.line with line := line }
    let isQuote (d : CodePoint) : Bool := d = '\'' || d = '"'
    if isGap c then scanFrom patience false rest s.leave
    else if c = '#' then
      scanFrom patience false (rest.dropWhile (· ≠ CodePoint.ofChar '\n')) s.leave
    else if c = '\n' then
      scanFrom patience true rest
        { (if s.brackets.isEmpty then s.push .lineEnd [] s.line else s.leave) with line := s.line + 1 }
    else if isNameStart c then
      let name := (c :: rest).takeWhile isNamePart
      let after := (c :: rest).dropWhile isNamePart
      -- what looks like a name is the prefix of a string
      if (after.head?.map isQuote).getD false && stringPrefixes.contains (Text.toAsciiLower name) then
        string name after
      else
        match Scanner.strayInName? name with
        | some stray => s.stop (.broken (.character stray))
        | none => scanFrom patience false after (s.push .name name s.line)
    else if c = '.' && startsDigit rest then number (fractionEnd rest)
    else if c.isAsciiDigit then number (numberEnd c rest)
    else if isQuote c then string [] (c :: rest)
    else if c = '\\' then
      match s.nextLine rest with
      | .inl done => done
      | .inr rest => scanFrom patience false rest { s with line := s.line + 1 }
    else
      let text := (longSymbols.find? (·.isPrefixOf (c :: rest))).getD [c]
      match s.symbol text with
      | .error fault => s.stop (.broken fault)
      | .ok s => scanFrom patience false ((c :: rest).drop text.length) s

/-- The tokens of a text that begins on a line. -/
def scan (line : Nat) (t : Text) : Scan := scanFrom (2 * t.length + 2) true t ⟨[], line, [], false⟩

end ClusterClient.Console.Literal
