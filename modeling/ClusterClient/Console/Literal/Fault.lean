import ClusterClient.Number.Numeral
import ClusterClient.Text.Quoted
import ClusterClient.Text.Utf8

/-!
# What is wrong with a literal

A text that should write a literal may break off inside a token, may be no expression, or may be an
expression without a value of its own.
-/

namespace ClusterClient.Console.Literal

/-- What is wrong with a field, the part of a string that holds an expression in braces. -/
inductive FieldFault where
  | loneClosing
  | empty
  | emptyBefore (ending : CodePoint)
  | open_
  | conversion
  | tooDeep
  | tooManyBrackets
  | unmatchedBracket (c : CodePoint)
  | otherBracket (closing opening : CodePoint)
  | openString
  | backslash
  | comment
  deriving DecidableEq, Repr

/-- Why a text writes no literal. Lines count from one. -/
inductive Fault where
  -- Code points
  | unencodable (reason : Unencodable)
  | null
  -- Tokens
  | unmatchedBracket (closing : CodePoint)
  | otherBracket (closing opening : CodePoint) (openedOn : Option Nat)
  | neverClosed (opening : CodePoint)
  | tooManyBrackets
  | openString (line : Nat)
  | openLongString (line : Nat)
  | numeral (kind : Text)
  | digit (c : CodePoint) (kind : Text)
  | leadingZeros
  | character (c : CodePoint)
  | afterBackslash
  | unexpectedEnd
  | tooManyDigits (count : Nat)
  -- Strings
  | octetsBeyondAscii
  | mixedStrings
  | escape (first last : Nat) (reason : Text)
  | octetEscape (position : Nat)
  | field (reason : FieldFault)
  /-- The expression in a field is wrong. -/
  | inField (reason : Fault)
  -- Expressions
  | misplaced
  | indented
  | missingComma
  | missingElse
  | loneStar
  | parameters (reason : Text)
  | equalsSign
  | equalsInArgument
  | missingCallBrackets (name : Text)
  | assignment (target : Text)
  | assignmentHere (target : Text)
  | assignmentExpression (target : Text)
  | bareGenerator
  | positionalAfterNamed
  | positionalAfterUnpacking
  | iterableAfterUnpacking
  | unpackingInComprehension
  | entryUnpackingInComprehension
  | bareComprehensionTarget
  | starredInBrackets
  | doubleStarredInBrackets
  | missingColon
  | missingValue
  | starredValue
  -- Values
  | noValue
  | noKey
  | unhashable (kind : Text)
  deriving DecidableEq, Repr

/-- What is told of a wrong field. -/
def FieldFault.message : FieldFault → Text
  | loneClosing => "f-string: single '\x7d' is not allowed"
  | empty => "f-string: empty expression not allowed"
  | emptyBefore ending => "f-string: expression required before '" ++ [ending] ++ "'"
  | open_ => "f-string: expecting '\x7d'"
  | conversion => "f-string: invalid conversion character: expected 's', 'r', or 'a'"
  | tooDeep => "f-string: expressions nested too deeply"
  | tooManyBrackets => "f-string: too many nested parenthesis"
  | unmatchedBracket c => "f-string: unmatched '" ++ [c] ++ "'"
  | otherBracket closing opening =>
    "f-string: closing parenthesis '" ++ [closing] ++ "' does not match opening parenthesis '" ++
      [opening] ++ "'"
  | openString => "f-string: unterminated string"
  | backslash => "f-string expression part cannot include a backslash"
  | comment => "f-string expression part cannot include '#'"

namespace Fault

/-- Whether a single token is wrong, whatever stands around it. -/
def isOfToken : Fault → Bool
  | unmatchedBracket _ | otherBracket .. | tooManyBrackets | openString _ | openLongString _ | numeral _
  | digit .. | leadingZeros | character _ => true
  | _ => false

/-- A fault of the expression in a field. Where a token or a field within it is wrong, that is told as it
is. -/
def ofField (reason : Fault) : Fault :=
  match reason with
  | inField reason => inField reason
  | reason => if reason.isOfToken then reason else inField reason

/-- Whether the text is no expression at all. -/
def isSyntactic : Fault → Bool
  | unencodable _ | null | noValue | noKey | unhashable _ => false
  | _ => true

/-- The advice where a single equals sign stands in place of another. -/
def equalsAdvice : Text := "Maybe you meant '==' or ':=' instead of '='?"

def message : Fault → Text
  | unencodable reason => reason.message
  | null => "source code string cannot contain null bytes"
  | unmatchedBracket closing => "unmatched '" ++ [closing] ++ "'"
  | otherBracket closing opening openedOn =>
    "closing parenthesis '" ++ [closing] ++ "' does not match opening parenthesis '" ++ [opening] ++ "'" ++
      match openedOn with
      | some line => " on line " ++ Text.ofNat line
      | none => []
  | neverClosed opening => "'" ++ [opening] ++ "' was never closed"
  | tooManyBrackets => "too many nested parentheses"
  | openString line => "unterminated string literal (detected at line " ++ Text.ofNat line ++ ")"
  | openLongString line =>
    "unterminated triple-quoted string literal (detected at line " ++ Text.ofNat line ++ ")"
  | numeral kind => "invalid " ++ kind ++ " literal"
  | digit c kind => "invalid digit '" ++ [c] ++ "' in " ++ kind ++ " literal"
  | leadingZeros =>
    "leading zeros in decimal integer literals are not permitted; use an 0o prefix for octal integers"
  | character c =>
    if c.isPrintable then "invalid character '" ++ [c] ++ "' (" ++ c.numberName ++ ")"
    else "invalid non-printable character " ++ c.numberName
  | afterBackslash => "unexpected character after line continuation character"
  | unexpectedEnd => "unexpected EOF while parsing"
  | tooManyDigits count =>
    "Exceeds the limit (" ++ Text.ofNat Whole.maxDigits ++
      " digits) for integer string conversion: value has " ++ Text.ofNat count ++
      " digits; use sys.set_int_max_str_digits() to increase the limit - Consider hexadecimal for huge " ++
      "integer literals to avoid decimal conversion limits."
  | octetsBeyondAscii => "bytes can only contain ASCII literal characters"
  | mixedStrings => "cannot mix bytes and nonbytes literals"
  | escape first last reason =>
    "(unicode error) 'unicodeescape' codec can't decode bytes in position " ++ Text.ofNat first ++ "-" ++
      Text.ofNat last ++ ": " ++ reason
  | octetEscape position => "(value error) invalid \\x escape at position " ++ Text.ofNat position
  | field reason => reason.message
  | inField reason => "f-string: " ++ reason.message
  | misplaced => "invalid syntax"
  | indented => "unexpected indent"
  | missingComma => "invalid syntax. Perhaps you forgot a comma?"
  | missingElse => "expected 'else' after 'if' expression"
  | loneStar => "Invalid star expression"
  | parameters reason => reason
  | equalsSign => "invalid syntax. " ++ equalsAdvice
  | equalsInArgument => "expression cannot contain assignment, perhaps you meant \"==\"?"
  | missingCallBrackets name =>
    "Missing parentheses in call to '" ++ name ++ "'. Did you mean " ++ name ++ "(...)?"
  | assignment target => "cannot assign to " ++ target
  | assignmentHere target =>
    "cannot assign to " ++ target ++ " here. Maybe you meant '==' instead of '='?"
  | assignmentExpression target => "cannot use assignment expressions with " ++ target
  | bareGenerator => "Generator expression must be parenthesized"
  | positionalAfterNamed => "positional argument follows keyword argument"
  | positionalAfterUnpacking => "positional argument follows keyword argument unpacking"
  | iterableAfterUnpacking => "iterable argument unpacking follows keyword argument unpacking"
  | unpackingInComprehension => "iterable unpacking cannot be used in comprehension"
  | entryUnpackingInComprehension => "dict unpacking cannot be used in dict comprehension"
  | bareComprehensionTarget => "did you forget parentheses around the comprehension target?"
  | starredInBrackets => "cannot use starred expression here"
  | doubleStarredInBrackets => "cannot use double starred expression here"
  | missingColon => "':' expected after dictionary key"
  | missingValue => "expression expected after dictionary key and ':'"
  | starredValue => "cannot use a starred expression in a dictionary value"
  | noValue => "malformed node or string"
  | noKey => "malformed node or string: None"
  | unhashable kind => "unhashable type: '" ++ kind ++ "'"

end Fault

end ClusterClient.Console.Literal
