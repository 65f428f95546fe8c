import ClusterClient.Console.Literal.Expression

/-!
# Strings in an expression

What a string token holds is looked at once the token is known: its escapes have to be right, and in a
string with fields each field has to hold an expression.
-/

namespace ClusterClient.Console.Literal

/-! ## Escapes -/

/-- How many places a code point takes up where positions in a string are told. -/
def placesOf (c : CodePoint) : Nat := if c.isAscii then 1 else 10

def isHexDigit (c : CodePoint) : Bool := c.hexValue?.isSome

/-- The escapes that ask for hexadecimal digits: their letter, the number of digits, and what is said when
there are fewer. -/
def hexEscapes : List (CodePoint × Nat × Text) :=
  [('x', 2, "truncated \\xXX escape"), ('u', 4, "truncated \\uXXXX escape"),
   ('U', 8, "truncated \\UXXXXXXXX escape")]

/-- Whether a code point may have such a name: of at least two letters, digits, hyphens and blanks. -/
def mayBeName (name : Text) : Bool :=
  2 ≤ name.length && name.all fun c => c.isAsciiLetter || c.isAsciiDigit || c = ' ' || c = '-'

/-- Checks the escapes in the inside of a string from a position on. -/
def checkEscapes : Nat → Text → Except Fault Unit
  | _, [] => .ok ()
  | position, c :: rest =>
    if c ≠ CodePoint.ofChar '\\' then checkEscapes (position + placesOf c) rest
    else
      match rest with
      | [] => .ok ()
      | letter :: rest =>
        if letter = CodePoint.ofChar 'N' then
          match rest with
          | [] => .error (.escape position (position + 1) "malformed \\N character escape")
          | brace :: inside =>
            if brace ≠ '\x7b' then
              .error (.escape position (position + 1) "malformed \\N character escape")
            else if !inside.contains (CodePoint.ofChar '\x7d') then
              .error (.escape position (position + 2 + (inside.map placesOf).sum)
                "malformed \\N character escape")
            else if inside.head? = some (CodePoint.ofChar '\x7d') then
              .error (.escape position (position + 2) "malformed \\N character escape")
            else
              let name := inside.takeWhile (· ≠ CodePoint.ofChar '\x7d')
              if mayBeName name then checkEscapes (position + 3) inside
              else
                .error (.escape position (position + 3 + (name.map placesOf).sum)
                  "unknown Unicode character name")
        else
          match hexEscapes.find? fun entry => entry.1 = letter with
          | some (_, count, reason) =>
            let digits := (rest.take count).takeWhile isHexDigit
            let number : Nat := digits.foldl (fun n d => 16 * n + d.hexValue?.getD 0) 0
            if digits.length < count then
              .error (.escape position (position + 1 + digits.length) reason)
            else if 0x10FFFF < number then
              .error (.escape position (position + 1 + count) "illegal Unicode character")
            else checkEscapes (position + 2) rest
          | none =>
            checkEscapes (position + (if letter.isAscii then 2 else 16)) rest

/-- Checks the escapes in the inside of a string of octets from a position on. -/
def checkOctetEscapes : Nat → Text → Except Fault Unit
  | _, [] => .ok ()
  | position, c :: rest =>
    if c ≠ CodePoint.ofChar '\\' then checkOctetEscapes (position + 1) rest
    else
      match rest with
      | [] => .ok ()
      | letter :: rest =>
        if letter = CodePoint.ofChar 'x' && !((rest.take 2).all isHexDigit && 2 ≤ rest.length) then
          .error (.octetEscape position)
        else checkOctetEscapes (position + 2) rest

/-! ## Fields -/

/-- Where the plain part of a string with fields stands: behind a backslash, behind one with a capital N,
or in the name that follows in braces, things have another meaning. -/
inductive PlainState where
  | plain
  | escaped
  | named
  | name
  deriving DecidableEq

/-- The plain part that a text begins with, what follows it, and whether it ends with a doubled brace, which
stands for one. `done` is what has been read of it, in reverse. Only a part outside all fields has doubled
braces. -/
def plainPart (isRaw isOuter : Bool) : PlainState → Text → Text → Except Fault (Text × Text × Bool)
  | _, done, [] => .ok (done.reverse, [], false)
  | .named, done, c :: rest =>
    plainPart isRaw isOuter (if c = '\x7b' then .name else .plain) (c :: done) rest
  | .name, done, c :: rest =>
    plainPart isRaw isOuter (if c = '\x7d' then .plain else .name) (c :: done) rest
  | state, done, c :: rest =>
    if state = .plain && !isRaw && c = '\\' then plainPart isRaw isOuter .escaped (c :: done) rest
    else if state = .escaped && c = 'N' then plainPart isRaw isOuter .named (c :: done) rest
    else if c = '\x7b' || c = '\x7d' then
      if isOuter && rest.head? = some c then .ok ((c :: done).reverse, rest.tail, true)
      else if isOuter && c = '\x7d' then .error (.field .loneClosing)
      else .ok (done.reverse, c :: rest, false)
    else plainPart isRaw isOuter .plain (c :: done) rest

/-- How many code points of a text stand in a field before its expression ends. `quote` is the quote of the
string that the text begins in, if it does, and whether that is a long one; `open_` holds the brackets that
are open, the innermost first; `skips` code points belong to what has been read. -/
def expressionLength (quote : Option (CodePoint × Bool)) (open_ : List CodePoint) (skips : Nat) :
    Text → Except Fault Nat
  | [] =>
    match quote, open_ with
    | some _, _ => .error (.field .openString)
    | none, opening :: _ => .error (.field (.unmatchedBracket opening))
    | none, [] => .error (.field .open_)
  | c :: rest =>
    let go (quote : Option (CodePoint × Bool)) (open_ : List CodePoint) (skips : Nat) : Except Fault Nat :=
      (expressionLength quote open_ skips rest).map (· + 1)
    let isTriple := rest.head? = some c && rest[1]? = some c
    if 0 < skips then go quote open_ (skips - 1)
    else if c = '\\' then .error (.field .backslash)
    else
      match quote with
      | some (mark, isLong) =>
        if c ≠ mark then go quote open_ 0
        else if !isLong then go none open_ 0
        else if isTriple then go none open_ 2
        else go quote open_ 0
      | none =>
        if c = '\'' || c = '"' then go (some (c, isTriple)) open_ (if isTriple then 2 else 0)
        else if isOpening c then
          if maxOpenBrackets ≤ open_.length then .error (.field .tooManyBrackets)
          else go none (c :: open_) 0
        else if c = '#' then .error (.field .comment)
        else if open_.isEmpty && (['!', ':', '\x7d', '=', '<', '>'].map CodePoint.ofChar).contains c then
          if (['!', '=', '<', '>'].map CodePoint.ofChar).contains c && rest.head? = some (CodePoint.ofChar '=') then
            go none [] 1
          else if c = '<' || c = '>' then go none [] 0
          else .ok 0
        else if isClosing c then
          match open_ with
          | [] => .error (.field (.unmatchedBracket c))
          | opening :: outer =>
            if closingOf opening = c then go none outer 0
            else .error (.field (.otherBracket c opening))
        else go none open_ 0

/-- Reads the expression of a field, which begins on a line. -/
abbrev FieldReader := Nat → Text → Except Fault Unit

/-- Checks the expression of a field, which ends before a code point. -/
def checkExpression (read : FieldReader) (line : Nat) (expression : Text) (ending : CodePoint) :
    Except Fault Unit :=
  if expression.all fun c => isGap c || c = '\n' then
    .error (.field (if ending = '\x7d' then .empty else .emptyBefore ending))
  else read line ("(" ++ expression ++ ")")

/-- A field without the equals sign behind its expression, which asks for the expression's own text, and the
blanks behind that. -/
def dropEquals (t : Text) : Text :=
  if t.head? = some (CodePoint.ofChar '=') then
    t.tail.dropWhile fun c => isGap c || c = '\n' || c.val = 0x0B || c.val = 0x0D
  else t

/-- A field without the conversion behind its expression. -/
def dropConversion (t : Text) : Except Fault Text :=
  if t.head? ≠ some (CodePoint.ofChar '!') then .ok t
  else
    match t.tail with
    | [] => .error (.field .open_)
    | c :: rest => if c = 's' || c = 'r' || c = 'a' then .ok rest else .error (.field .conversion)

/-- No field stands in a field of a field. -/
def maxFieldDepth : Nat := 2

/-- Checks the parts of a string with fields that lies in so many fields, and gives what follows it: outside
all fields nothing, and in one at least its closing brace. `lastLine` is the line on which the string ends.
Each part takes up at least one code point, so that the length of the text is `patience` enough. -/
def checkParts (read : FieldReader) (isRaw : Bool) (lastLine : Nat) :
    (patience depth : Nat) → Text → Except Fault Text
  | 0, _, t => .ok t
  | patience + 1, depth, t => do
    let (part, rest, isDoubled) ← plainPart isRaw (depth = 0) .plain [] t
    if !isRaw then checkEscapes 0 part
    if isDoubled then checkParts read isRaw lastLine patience depth rest
    else
      match rest with
      | [] => return []
      | c :: inside =>
        if c = '\x7d' then return rest
        else if maxFieldDepth ≤ depth then throw (.field .tooDeep)
        else
          let size ← expressionLength none [] 0 inside
          let behind := inside.drop size
          let line := lastLine - rest.count (CodePoint.ofChar '\n')
          checkExpression read line (inside.take size) ((behind.head?).getD '\x7d')
          let behind ← dropConversion (dropEquals behind)
          let behind ←
            if behind.head? = some (CodePoint.ofChar ':') then
              checkParts read isRaw lastLine patience (depth + 1) behind.tail
            else .ok behind
          if behind.head? = some (CodePoint.ofChar '\x7d') then
            checkParts read isRaw lastLine patience depth behind.tail
          else throw (.field .open_)

/-! ## String tokens -/

/-- What a string token writes: a text, octets, or a text with expressions in it. -/
inductive StringKind where
  | text
  | octets
  | formatted
  deriving DecidableEq, Repr

/-- The inside of a string token and the letters in front of it, in lower case. -/
def splitString (token : Text) : Text × Text :=
  let quoted := token.dropWhile CodePoint.isAsciiLetter
  let size := if 6 ≤ quoted.length && quoted.head? = quoted[1]? && quoted.head? = quoted[2]? then 3 else 1
  (Text.toAsciiLower (token.takeWhile CodePoint.isAsciiLetter),
    (quoted.drop size).take (quoted.length - 2 * size))

/-- The kind of a string token, if what it holds is right. The fields of a string are looked at later. -/
def stringKind (token : Text) : Except Fault StringKind :=
  let (letters, inside) := splitString token
  let isRaw := letters.contains (CodePoint.ofChar 'r')
  if letters.contains (CodePoint.ofChar 'b') then
    if !inside.all CodePoint.isAscii then .error .octetsBeyondAscii
    else if isRaw then .ok .octets
    else (checkOctetEscapes 0 inside).map fun _ => .octets
  else if letters.contains (CodePoint.ofChar 'f') then .ok .formatted
  else if isRaw then .ok .text
  else (checkEscapes 0 inside).map fun _ => .text

/-- Checks a string token with fields. -/
def checkFields (read : FieldReader) (token : Token) : Except Fault Unit :=
  let (letters, inside) := splitString token.text
  let lastLine := token.line + token.text.count (CodePoint.ofChar '\n')
  (checkParts read (letters.contains (CodePoint.ofChar 'r')) lastLine (inside.length + 1) 0 inside).map
    fun _ => ()

/-- What strings one behind the other write. -/
def joinStrings (read : FieldReader) : Option StringKind → List Token → Except Fault Expression
  | some .text, [] => .ok (.constant .text)
  | some .octets, [] => .ok (.constant .octets)
  | some .formatted, [] => .ok (.other "f-string expression")
  | none, [] => .error .misplaced
  | known, token :: rest => do
    let kind ← stringKind token.text
    if known.isSome && decide (known = some .octets) != decide (kind = .octets) then throw .mixedStrings
    if kind = .formatted then checkFields read token
    joinStrings read (some (if known = some .formatted then .formatted else kind)) rest

end ClusterClient.Console.Literal
