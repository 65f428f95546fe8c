import ClusterClient.Json.Basic
import ClusterClient.Number.Decimal

/-!
# Tokens of a document

A document's text is read one code point at a time into tokens. A word is a longest run of letters,
digits, signs and points; it has to be one of the constants or a number. A string ends at the first quote
that is not escaped and is decoded as a whole.
-/

namespace ClusterClient.Json

/-- What a reader of documents admits beyond the standard, and where it stops. -/
structure Dialect where
  /-- An escaped surrogate without a partner is kept. -/
  keepsLoneSurrogates : Bool
  /-- The limit on digits holds for the whole part of every number, and its sign counts as a digit. -/
  limitsSpans : Bool
  /-- No container that is deeper than this has items. -/
  maxDepth : Option Nat
  deriving DecidableEq, Repr

/-- Reading of the answers of the cluster. -/
def Dialect.strict : Dialect := ⟨false, true, some 200⟩

/-- Reading of texts that are to be shown. -/
def Dialect.lenient : Dialect := ⟨true, false, none⟩

inductive Token where
  | openList
  | closeList
  | openObject
  | closeObject
  | comma
  | colon
  | null
  | flag (value : Bool)
  | whole (value : Int)
  | real (value : Binary64)
  | text (value : Text)
  deriving DecidableEq, Repr

namespace Token

/-- The document that a token is on its own. -/
def leaf? : Token → Option Json
  | null => some .null
  | flag b => some (.flag b)
  | whole n => some (.whole n)
  | real x => some (.real x)
  | text t => some (.text t)
  | _ => none

/-- The token of a single punctuation mark. -/
def punctuation? (c : CodePoint) : Option Token :=
  if c = '[' then some openList
  else if c = ']' then some closeList
  else if c = '\x7b' then some openObject
  else if c = '\x7d' then some closeObject
  else if c = ',' then some comma
  else if c = ':' then some colon
  else none

/-- Space, tab and the two line ends. -/
def isGap (c : CodePoint) : Bool := c = ' ' || c = '\t' || c = '\n' || c = '\r'

/-- Code points that words are made of. -/
def isWordPart (c : CodePoint) : Bool :=
  c.isAsciiLetter || c.isAsciiDigit || c = '-' || c = '+' || c = '.'

/-- The number with this sign, these digits, and what follows them. -/
def numberFrom? (dialect : Dialect) (negative : Bool) (digits : List Nat) (rest : Text) : Option Token :=
  -- one dialect counts what is written, the other the digits of the number
  let size := if dialect.limitsSpans && negative then digits.length + 1 else digits.length
  -- no number without digits, and none with a zero in front of others
  if digits.isEmpty || (digits.head? = some 0 && 1 < digits.length) then none
  else if rest.isEmpty then
    if Whole.maxDigits < size then none
    else
      let n : Int := Numeral.ofDigits digits
      some (whole (if negative then -n else n))
  else if dialect.limitsSpans && Whole.maxDigits < size then none
  else
    -- from here on it is a fraction or has an exponent, and its digits are rounded
    let pointed := rest.head? = some (CodePoint.ofChar '.')
    let (fraction, rest) := if pointed then Binary64.spanDigits rest.tail else ([], rest)
    if pointed && fraction.isEmpty then none
    else
      (Binary64.exponentPart? rest).map fun e =>
        real (Binary64.ofScientific negative ⟨digits ++ fraction, e - fraction.length⟩)

/-- The number that a word writes. -/
def number? (dialect : Dialect) (word : Text) : Option Token :=
  let negative := word.head? = some (CodePoint.ofChar '-')
  let (digits, rest) := Binary64.spanDigits (if negative then word.tail else word)
  numberFrom? dialect negative digits rest

/-- The constant or number that a word writes. -/
def ofWord? (dialect : Dialect) (word : Text) : Option Token :=
  if word = "null" then some null
  else if word = "true" then some (flag true)
  else if word = "false" then some (flag false)
  else if word = "NaN" then some (real Binary64.nan)
  else if word = "Infinity" then some (real (Binary64.infinity false))
  else if word = "-Infinity" then some (real (Binary64.infinity true))
  else number? dialect word

/-- The value of four hexadecimal digits. -/
def fourHex? (a b c d : CodePoint) : Option Nat := do
  let w ← a.hexValue?
  let x ← b.hexValue?
  let y ← c.hexValue?
  let z ← d.hexValue?
  some (((w * 16 + x) * 16 + y) * 16 + z)

/-- The code point of a one-letter escape. -/
def shortEscape? (c : CodePoint) : Option CodePoint :=
  if c = '"' || c = '\\' || c = '/' then some c
  else if c = 'b' then some 0x08
  else if c = 'f' then some 0x0C
  else if c = 'n' then some 0x0A
  else if c = 'r' then some 0x0D
  else if c = 't' then some 0x09
  else none

/-- The code point of an escaped high surrogate and the escaped low surrogate after it. -/
def joinSurrogates? (high : CodePoint) (low : Nat) : Option CodePoint :=
  if 0xD800 ≤ high.val && high.val ≤ 0xDBFF && 0xDC00 ≤ low && low ≤ 0xDFFF then
    some (CodePoint.ofNat (0x10000 + (high.val - 0xD800) * 0x400 + (low - 0xDC00)))
  else none

/-- Reads the inside of a string onto what has been read, which is kept in reverse. The flag says that
the last code point read was an escape that may join with the next one. -/
def decodeString (escaped : Bool) : Text → Text → Option Text
  | [], out => some out.reverse
  | c :: rest, out =>
    if c.val < 0x20 then none
    else if c = '\\' then
      match rest with
      | [] => none
      | e :: rest =>
        if e = 'u' then
          match rest with
          | p :: q :: r :: s :: rest =>
            match fourHex? p q r s with
            | none => none
            | some n =>
              match escaped, out with
              -- the escape may be the second half of the one before
              | true, high :: before =>
                match joinSurrogates? high n with
                | some joined => decodeString false rest (joined :: before)
                -- it is not, but may be the first half of one that follows
                | none => decodeString true rest (CodePoint.ofNat n :: out)
              | _, _ => decodeString true rest (CodePoint.ofNat n :: out)
          | _ => none
        else
          match shortEscape? e with
          | some x => decodeString false rest (x :: out)
          | none => none
    -- what is written plainly never joins, not even a surrogate
    else decodeString false rest (c :: out)

/-- The text that the inside of a string writes. -/
def ofString? (dialect : Dialect) (inside : Text) : Option Token :=
  match decodeString false inside [] with
  | some t =>
    if !dialect.keepsLoneSurrogates && t.any CodePoint.isSurrogate then none else some (text t)
  | none => none

/-- Where a scan stands. What it has read of a word or a string is kept in reverse. -/
inductive Scan where
  | between
  | word (read : Text)
  | string (escaped : Bool) (read : Text)

/-- The scan and the tokens after a code point that belongs to no word and no string. -/
def fromGap? (c : CodePoint) (tokens : List Token) : Option (Scan × List Token) :=
  if isGap c then some (.between, tokens)
  else if c = '"' then some (.string false [], tokens)
  -- whether the word is one is settled where it ends
  else if isWordPart c then some (.word [c], tokens)
  else (punctuation? c).map fun token => (.between, token :: tokens)

/-- The scan and the tokens, newest first, after one more code point. -/
def step? (dialect : Dialect) (c : CodePoint) (tokens : List Token) :
    Scan → Option (Scan × List Token)
  | .between => fromGap? c tokens
  | .word read =>
    if isWordPart c then some (.word (c :: read), tokens)
    else
      match ofWord? dialect read.reverse with
      -- the code point that ends a word stands for itself
      | some token => fromGap? c (token :: tokens)
      | none => none
  -- the code point behind a backslash does not end the string
  | .string true read => some (.string false (c :: read), tokens)
  | .string false read =>
    if c = '"' then (ofString? dialect read.reverse).map fun token => (.between, token :: tokens)
    else some (.string (c = '\\') (c :: read), tokens)

/-- The tokens when the text ends here. -/
def finish? (dialect : Dialect) (tokens : List Token) : Scan → Option (List Token)
  | .between => some tokens.reverse
  | .word read => (ofWord? dialect read.reverse).map fun token => (token :: tokens).reverse
  | .string _ _ => none

/-- Scans a text from where a scan stands. -/
def scanFrom? (dialect : Dialect) : Text → Scan → List Token → Option (List Token)
  | [], scan, tokens => finish? dialect tokens scan
  | c :: rest, scan, tokens =>
    match step? dialect c tokens scan with
    | some (scan, tokens) => scanFrom? dialect rest scan tokens
    | none => none

/-- The tokens of a text. -/
def scan? (dialect : Dialect) (t : Text) : Option (List Token) := scanFrom? dialect t .between []

/-- The tokens that are found from where a scan stands, before the first fault. -/
def foundFrom (dialect : Dialect) : Text → Scan → List Token → List Token
  | [], scan, tokens => (finish? dialect tokens scan).getD tokens.reverse
  | c :: rest, scan, tokens =>
    match step? dialect c tokens scan with
    | some (scan, tokens) => foundFrom dialect rest scan tokens
    | none => tokens.reverse

/-- The tokens in front of the first fault of a text. -/
def found (dialect : Dialect) (t : Text) : List Token := foundFrom dialect t .between []

end Token

end ClusterClient.Json
