import ClusterClient.Text.Category
import ClusterClient.Text.Lowercase
import ClusterClient.Text.Normal
import ClusterClient.Text.Quoted
import ClusterClient.Text.Utf8
import ClusterClient.Url.Domain.Direction
import ClusterClient.Url.Domain.Joining
import ClusterClient.Url.Punycode

/-!
# Internationalised domain names

A label is checked for its normal form, its hyphens, its first code point, each code point in its
context, and its direction, in this order; the first check that fails is the fault of the name. A label
beyond ASCII is written as `xn--` and its Punycode.
-/

namespace ClusterClient

/-- Why a domain name or a label of it is refused. Positions count from one. -/
inductive DomainFault where
  | domainTooLong
  | emptyDomain
  | labelTooLong
  | emptyLabel
  | notComposed
  | innerHyphens
  | outerHyphen
  | leadingMark
  | besideJoiner (c : CodePoint) (position : Nat) (label : Text)
  | joiner (c : CodePoint) (position : Nat) (label : Text)
  | context (c : CodePoint) (position : Nat) (label : Text)
  | codePoint (c : CodePoint) (position : Nat) (label : Text)
  | unknownDirection (label : Text) (position : Nat)
  | firstDirection (label : Text)
  | directionInRight (position : Nat)
  | directionInLeft (position : Nat)
  | mixedNumerals
  | lastDirection
  | nothingEncoded
  | encodedHyphen
  | encodedLabel
  | otherEncoding
  deriving DecidableEq, Repr

namespace DomainFault

/-- The message of a fault. -/
def message : DomainFault → Text
  | domainTooLong => "Domain too long"
  | emptyDomain => "Empty domain"
  | labelTooLong => "Label too long"
  | emptyLabel => "Empty Label"
  | notComposed => "Label must be in Normalization Form C"
  | innerHyphens => "Label has disallowed hyphens in 3rd and 4th position"
  | outerHyphen => "Label must not start or end with a hyphen"
  | leadingMark => "Label begins with an illegal combining character"
  | besideJoiner c position label =>
    "Unknown codepoint adjacent to joiner " ++ c.numberName ++ " at position " ++
      Text.ofNat position ++ " in " ++ label.quoted
  | joiner c position label =>
    "Joiner " ++ c.numberName ++ " not allowed at position " ++ Text.ofNat position ++ " in " ++
      label.quoted
  | context c position label =>
    "Codepoint " ++ c.numberName ++ " not allowed at position " ++ Text.ofNat position ++ " in " ++
      label.quoted
  | codePoint c position label =>
    "Codepoint " ++ c.numberName ++ " at position " ++ Text.ofNat position ++ " of " ++
      label.quoted ++ " not allowed"
  | unknownDirection label position =>
    "Unknown directionality in label " ++ label.quoted ++ " at position " ++ Text.ofNat position
  | firstDirection label =>
    "First codepoint in label " ++ label.quoted ++ " must be directionality L, R or AL"
  | directionInRight position =>
    "Invalid direction for codepoint at position " ++ Text.ofNat position ++ " in a right-to-left label"
  | directionInLeft position =>
    "Invalid direction for codepoint at position " ++ Text.ofNat position ++ " in a left-to-right label"
  | mixedNumerals => "Can not mix numeral types in a right-to-left label"
  | lastDirection => "Label ends with illegal codepoint directionality"
  | nothingEncoded => "Malformed A-label, no Punycode eligible content found"
  | encodedHyphen => "A-label must not end with a hyphen"
  | encodedLabel => "Invalid A-label"
  | otherEncoding => "A-label is not the canonical Punycode encoding of its U-label"

/-- The name of the kind of a fault. -/
def kindName : DomainFault → Text
  | joiner .. | context .. => "InvalidCodepointContext"
  | codePoint .. => "InvalidCodepoint"
  | unknownDirection .. | firstDirection .. | directionInRight .. | directionInLeft ..
  | mixedNumerals | lastDirection => "IDNABidiError"
  | _ => "IDNAError"

end DomainFault

namespace Domain

/-! ## Contexts -/

/-- Whether a permitted code point has no name in the table of names. -/
def isNameless (c : CodePoint) : Bool := unknown.contains c || namedByRule.contains c

/-- Whether the nearest letter of a list joins, past the marks that joining passes through. -/
def nearestJoins (side : Ranges) (t : Text) : Bool :=
  match t.dropWhile joinsThrough.contains with
  | [] => false
  | c :: _ => side.contains c || joinsBoth.contains c

/-- Whether a joiner may stand between what precedes it, nearest first, and what follows it. -/
def joinerAllowed (c : CodePoint) (before after : Text) : Bool :=
  let followsVirama :=
    match before with
    | [] => false
    | d :: _ => viramas.contains d
  if c.val = 0x200C then
    -- without a virama the letters on both sides have to join
    followsVirama || (nearestJoins joinsAfter before && nearestJoins joinsBefore after)
  else followsVirama

/-- Whether a code point of a context may stand between what precedes it, nearest first, and what
follows it. -/
def contextAllowed (c : CodePoint) (before after : Text) : Bool :=
  let whole := before ++ c :: after
  -- the middle dot, the Greek numeral sign, the two Hebrew marks, the Katakana dot, and digits of the two
  -- Arabic kinds, which do not mix
  if c.val = 0xB7 then before.head? = some (CodePoint.ofChar 'l') && after.head? = some (CodePoint.ofChar 'l')
  else if c.val = 0x375 then (after.head?.map greek.contains).getD false
  else if c.val = 0x5F3 || c.val = 0x5F4 then (before.head?.map hebrew.contains).getD false
  else if c.val = 0x30FB then
    whole.any fun d => d.val ≠ 0x30FB && (hiragana.contains d || katakana.contains d || han.contains d)
  else if 0x660 ≤ c.val && c.val ≤ 0x669 then !whole.any fun d => 0x6F0 ≤ d.val && d.val ≤ 0x6F9
  else if 0x6F0 ≤ c.val && c.val ≤ 0x6F9 then !whole.any fun d => 0x660 ≤ d.val && d.val ≤ 0x669
  else false

/-- Checks the code points of a label from a position on. -/
def checkCodePoints (label : Text) : Text → Text → Nat → Except DomainFault Unit
  | _, [], _ => .ok ()
  | before, c :: after, position =>
    if permitted.contains c then checkCodePoints label (c :: before) after (position + 1)
    else if joiners.contains c then
      if (before.head?.map isNameless).getD false then .error (.besideJoiner c position label)
      else if joinerAllowed c before after then
        checkCodePoints label (c :: before) after (position + 1)
      else .error (.joiner c position label)
    else if contextual.contains c then
      if contextAllowed c before after then checkCodePoints label (c :: before) after (position + 1)
      else .error (.context c position label)
    else .error (.codePoint c position label)

/-! ## Direction -/

/-- Whether a direction marks a label as one that is written from right to left. -/
def Direction.isRight : Direction → Bool
  | right | arabicLetter | arabicNumber => true
  | _ => false

/-- Checks a label that begins from right to left. -/
def checkRight : List Direction → Nat → Option Direction → Bool → Except DomainFault Unit
  | [], _, _, ends => if ends then .ok () else .error .lastDirection
  | d :: rest, position, numeral, ends =>
    if d = .left || d = .unknown then .error (.directionInRight position)
    else
      let ends :=
        -- marks at the end are passed over
        if d.isRight || d = .europeanNumber then true else if d = .mark then ends else false
      if d = .arabicNumber || d = .europeanNumber then
        match numeral with
        | none => checkRight rest (position + 1) (some d) ends
        | some n =>
          if n = d then checkRight rest (position + 1) numeral ends else .error .mixedNumerals
      else checkRight rest (position + 1) numeral ends

/-- Checks a label that begins from left to right. -/
def checkLeft : List Direction → Nat → Bool → Except DomainFault Unit
  | [], _, ends => if ends then .ok () else .error .lastDirection
  | d :: rest, position, ends =>
    if d.isRight || d = .unknown then .error (.directionInLeft position)
    else
      checkLeft rest (position + 1)
        (if d = .left || d = .europeanNumber then true else if d = .mark then ends else false)

/-- Checks the directions of a label that holds something written from right to left. -/
def checkDirections (label : Text) : Except DomainFault Unit :=
  let directions := label.map Direction.ofCodePoint
  match directions.findIdx? (· = .unknown) with
  | some i => .error (.unknownDirection label (i + 1))
  | none =>
    if directions.any Direction.isRight then
      match directions.head? with
      -- a number may stand in a label of either kind, but does not begin one
      | some .right | some .arabicLetter => checkRight directions 1 none false
      | some .left => checkLeft directions 1 false
      | _ => .error (.firstDirection label)
    else .ok ()

/-! ## Labels and names -/

/-- Checks a label. -/
def checkLabel (label : Text) : Except DomainFault Unit := do
  -- the length is looked at twice: before anything costly, and for what fits into a name
  if label.length > 1024 then throw .labelTooLong
  if label.isEmpty then throw .emptyLabel
  if label.length > 254 then throw .labelTooLong
  if !label.isComposed then throw .notComposed
  if (label.drop 2).take 2 = "--" then throw .innerHyphens
  if label.head? = some (CodePoint.ofChar '-') || label.getLast? = some (CodePoint.ofChar '-') then
    throw .outerHyphen
  if (label.head?.map CodePoint.markRanges.contains).getD false then throw .leadingMark
  checkCodePoints label [] label 1
  checkDirections label

/-- What an encoded label begins with. -/
def encodedStart : Text := "xn--"

/-- The label that an ASCII label stands for. -/
def decodeLabel (label : Text) : Except DomainFault Text := do
  if label.length > 1024 then throw .labelTooLong
  -- only capital letters of ASCII are lowered
  let label := label.toAsciiLower
  match Text.dropStart? encodedStart label with
  | none =>
    checkLabel label
    return label
  | some encoded =>
    if encoded.isEmpty then throw .nothingEncoded
    if encoded.getLast? = some (CodePoint.ofChar '-') then throw .encodedHyphen
    match Punycode.decode? encoded with
    | none => throw .encodedLabel
    | some decoded =>
      checkLabel decoded
      -- more than one text decodes to a label, and only one is its encoding
      if Punycode.encode decoded ≠ encoded then throw .otherEncoding
      return decoded

/-- The ASCII form of a label. -/
def encodeLabel (label : Text) : Except DomainFault Text := do
  if label.length > 1024 then throw .labelTooLong
  if label.isAscii then
    let _ ← decodeLabel label
    if label.length > 63 then throw .labelTooLong
    return label
  else
    checkLabel label
    let encoded := encodedStart ++ Punycode.encode label
    if encoded.length > 63 then throw .labelTooLong
    return encoded

/-- The full stops that separate labels. -/
def isDot (c : CodePoint) : Bool := c = '.' || c.val = 0x3002 || c.val = 0xFF0E || c.val = 0xFF61

/-- The labels of a name, and whether a full stop follows the last one. -/
def labels (name : Text) : Except DomainFault (List Text × Bool) :=
  -- other full stops count as full stops here, and become ordinary ones
  let parts := Text.splitOn '.' (name.map fun c => if isDot c then CodePoint.ofChar '.' else c)
  if parts = [[]] then .error .emptyDomain
  else if parts.getLast? = some [] then .ok (parts.dropLast, true)
  else .ok (parts, false)

/-- The labels of a name, each changed, put together again. -/
def mapLabels (change : Text → Except DomainFault Text) (name : Text) :
    Except DomainFault (Text × Bool) := do
  if name.length > 254 then throw .domainTooLong
  let (parts, trailing) ← labels name
  let changed ← parts.mapM change
  return (Text.join "." (if trailing then changed ++ [[]] else changed), trailing)

/-- The ASCII form of a name. -/
def encode (name : Text) : Except DomainFault Text := do
  let (encoded, trailing) ← mapLabels encodeLabel name
  if encoded.length > (if trailing then 254 else 253) then throw .domainTooLong
  return encoded

/-- The name that an ASCII form stands for. -/
def decode (name : Text) : Except DomainFault Text := do
  let (decoded, _) ← mapLabels decodeLabel name
  return decoded

end Domain

end ClusterClient
