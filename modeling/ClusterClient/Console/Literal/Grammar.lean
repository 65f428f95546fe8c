import ClusterClient.Console.Literal.Strings

/-!
# The grammar of expressions

Each rule has alternatives that are tried in order; the first that matches decides. Diagnostic rules match
what is often written by mistake and give it a message of its own; most of them are left out when a text is
read for the first time. Square brackets do not occur, because no tag can hold them.
-/

namespace ClusterClient.Console.Literal

inductive Rule where
  | whole
  | expressions
  | expression
  | yieldExpression
  | starExpressions
  | starExpression
  | starNamedExpressions
  | starNamedExpression
  | assignmentExpression
  | namedExpression
  | disjunction
  | conjunction
  | inversion
  | comparison
  | comparisonPair
  | bitOr
  | bitXor
  | bitAnd
  | shift
  | sum
  | term
  | factor
  | power
  | awaited
  | primary
  | suffix
  | atom
  | group
  | lambda
  | parameters
  | parametersBeforeSlash
  | defaultsBeforeSlash
  | starParameters
  | doubleStarParameter
  | plainParameter
  | defaultParameter
  | anyParameter
  | defaultValue
  | strings
  | tuple
  | set
  | mapping
  | entries
  | entry
  | pair
  | clauses
  | clause
  | setComprehension
  | generator
  | mappingComprehension
  | arguments
  | positional
  | named
  | starredExpression
  | namedOrStarred
  | namedOrDoubleStarred
  | starTargets
  | starTargetsTuple
  | starTarget
  | targetOrStarAtom
  | starAtom
  | targetPrimary
  | targetContinues
  | plainExpression
  | invalidArguments
  | invalidNamed
  | invalidOldCall
  | invalidExpression
  | invalidNamedExpression
  | invalidComprehension
  | invalidMappingComprehension
  | invalidTarget
  | invalidGroup
  | invalidEntries
  | invalidPair
  | invalidParameters
  | invalidDefaults
  | invalidStarParameters
  | invalidDoubleStarParameter
  | invalidDefaultValue
  deriving DecidableEq, Repr

namespace Rule

/-- Rules for what is written by mistake that are left out when a text is read for the first time. Those for
the entries of a mapping are not. -/
def isDiagnostic : Rule → Bool
  | invalidArguments | invalidNamed | invalidOldCall | invalidExpression | invalidNamedExpression
  | invalidComprehension | invalidMappingComprehension | invalidTarget | invalidGroup | invalidParameters
  | invalidStarParameters | invalidDoubleStarParameter | invalidDefaultValue => true
  | _ => false

/-- Rules that are matched once at each position; what came of it is remembered. -/
def isRemembered : Rule → Bool
  | expression | starExpression | disjunction | conjunction | inversion | bitOr | bitXor | bitAnd | shift
  | sum | term | factor | awaited | primary | strings | arguments | starTarget | targetOrStarAtom
  | targetPrimary | invalidNamedExpression => true
  | _ => false

end Rule

/-- What one token may be. -/
inductive Symbol where
  | name
  | softWord
  | word (text : Text)
  | symbol (text : Text)
  | number
  | string
  | lineEnd
  | ending
  deriving DecidableEq, Repr

/-- Words that are no names. -/
def reservedWords : List Text :=
  ["False None True and as assert async await break class continue def del elif else except finally",
    "for from global if import in is lambda nonlocal not or pass raise return try while with yield"].flatMap
    fun line => Text.words (Text.ofString line)

/-- Names that are words in some places. -/
def softWords : List Text := ["_", "case", "match"]

def Symbol.matches (s : Symbol) (t : Token) : Bool :=
  match s with
  | name => t.kind = .name && !reservedWords.contains t.text
  | softWord => t.kind = .name && softWords.contains t.text
  | word text => t.kind = .name && t.text = text && reservedWords.contains text
  | symbol text => t.kind = .symbol && t.text = text
  | number => t.kind = .number
  | string => t.kind = .string
  | lineEnd => t.kind = .lineEnd
  | ending => t.kind = .ending

/-- What the tokens from a position on are matched with. -/
inductive Pattern where
  | token (s : Symbol)
  | rule (r : Rule)
  | both (a b : Pattern)
  | either (a b : Pattern)
  | maybe (a : Pattern)
  | many (a : Pattern)
  /-- Matches without taking anything up. -/
  | ahead (a : Pattern)
  | notAhead (a : Pattern)
  /-- After `a`, `b` has to match; only where `a` does not, `c` is tried. -/
  | commit (a b c : Pattern)
  | nothing

/-- What a rule makes of what it has matched. -/
inductive Item where
  | token (t : Token)
  | expression (e : Expression)
  | expressions (es : List Expression)
  | entries (es : List (Option Expression × Expression))
  /-- Arguments of a call: the number of positional ones, and whether named ones are unpacked. -/
  | arguments (positional : Nat) (unpacks : Bool)
  | attributeSuffix
  | callSuffix (isBare : Bool)
  | nothing
  deriving Repr

/-- The outcome of an alternative that has matched. -/
inductive Answer where
  | item (i : Item)
  | fault (f : Fault)
  /-- The whole rule does not match. -/
  | refusal

/-- What an alternative has matched, how many brackets are open behind it, and how the fields of strings in
it are read. -/
structure Match where
  items : List Item
  level : Nat
  readField : FieldReader

namespace Match

def expressions (m : Match) : List Expression :=
  m.items.flatMap fun
    | .expression e => [e]
    | .expressions es => es
    | _ => []

def entries (m : Match) : List (Option Expression × Expression) :=
  m.items.flatMap fun
    | .entries es => es
    | _ => []

/-- The text of the first token. -/
def word (m : Match) : Text :=
  match m.items with
  | .token t :: _ => t.text
  | _ => []

/-- The kind of the first expression; of a name that stands in its place, the name's. -/
def kind (m : Match) : Text := (m.expressions.head?.map Expression.kind).getD "name"

end Match

/-- One way to match a rule. -/
structure Alternative where
  pattern : Pattern
  answer : Match → Answer

namespace Grammar

/-! ## Patterns -/

def word (text : String) : Pattern := .token (.word (Text.ofString text))

def sign (text : String) : Pattern := .token (.symbol (Text.ofString text))

def seq : List Pattern → Pattern
  | [] => .nothing
  | [p] => p
  | p :: rest => .both p (seq rest)

def oneOf : List Pattern → Pattern
  | [] => .notAhead .nothing
  | [p] => p
  | p :: rest => .either p (oneOf rest)

def some1 (p : Pattern) : Pattern := .both p (.many p)

/-- Items with commas between them. -/
def listed (p : Pattern) : Pattern := .both p (.many (.both (sign ",") p))

/-! ## Answers -/

/-- The only item that matters: the first expression, or else the first item that is no token. -/
def pass (m : Match) : Answer :=
  match m.items.find? fun | .token _ => false | _ => true with
  | some i => .item i
  | none => .item .nothing

def expression (make : List Expression → Expression) (m : Match) : Answer :=
  .item (.expression (make m.expressions))

def other (kind : String) : Match → Answer := expression fun _ => .other (Text.ofString kind)

def tuple : Match → Answer := expression .tuple

def ignore (_ : Match) : Answer := .item .nothing

def fail (fault : Fault) (_ : Match) : Answer := .fault fault

/-- An operator between operands; one operand alone is taken as it is. -/
def operation (m : Match) : Answer :=
  match m.expressions with
  | [e] => .item (.expression e)
  | _ => .item (.expression (.other "expression"))

/-- Operands with plus or minus signs between them. -/
def addition : List Expression → Expression
  | [] => .other "expression"
  | e :: rest => rest.foldl .sum e

/-- What follows an atom makes an attribute or a call of it. -/
def applySuffixes (m : Match) : Answer :=
  match m.items with
  | .expression e :: rest =>
    .item (.expression (rest.foldl (fun e i =>
      match i with
      | .attributeSuffix => .other "attribute"
      | .callSuffix isBare => .call e isBare
      | _ => e) e))
  | _ => .refusal

/-- Whether a number is written in decimal digits alone. -/
def isDecimal (text : Text) : Bool :=
  text.all fun c => c.isAsciiDigit || c = CodePoint.ofChar '_'

def numberAnswer (m : Match) : Answer :=
  let text := m.word
  let count := (text.filter CodePoint.isAsciiDigit).length
  if isDecimal text && Whole.maxDigits < count then .fault (.tooManyDigits count)
  else if text.getLast?.map CodePoint.toAsciiLower = some (CodePoint.ofChar 'j') then
    .item (.expression (.constant .imaginary))
  else .item (.expression (.constant .real))

def stringsAnswer (m : Match) : Answer :=
  match joinStrings m.readField none (m.items.filterMap fun | .token t => some t | _ => none) with
  | .ok e => .item (.expression e)
  | .error fault => .fault fault

/-- The arguments that a list of items stands for: each expression is a positional one. -/
def countArguments (m : Match) : Answer :=
  .item (m.items.foldl (fun total i =>
    match total, i with
    | .arguments n unpacks, .expression _ => .arguments (n + 1) unpacks
    | .arguments n unpacks, .arguments k more => .arguments (n + k) (unpacks || more)
    | _, _ => total) (.arguments 0 false))

def comparisonAnswer (m : Match) : Answer :=
  match m.items with
  | .expression left :: .token _ :: _ => .item (.expression (.comparison true left))
  | .expression left :: _ => .item (.expression (.comparison false left))
  | _ => .refusal

/-- Calls that were once written without brackets. -/
def oldCalls : List Text := ["print", "exec"]

def isOldCall : Expression → Bool
  | .name text => oldCalls.contains text
  | _ => false

def missingCommaAnswer (m : Match) : Answer :=
  if (m.expressions.head?.map isOldCall).getD false || m.level = 0 then .refusal
  else .fault .missingComma

def targetAnswer (m : Match) : Answer :=
  match m.expressions.head?.bind Expression.notAssignable? with
  | some e => .fault (.assignment e.kind)
  | none => .refusal

def positionalAnswer (m : Match) : Answer :=
  match m.items with
  | .arguments _ true :: _ => .fault .positionalAfterUnpacking
  | _ => .fault .positionalAfterNamed

def bareGeneratorAnswer (m : Match) : Answer :=
  match m.items with
  | .arguments n _ :: _ => if n ≤ 1 then .refusal else .fault .bareGenerator
  | _ => .refusal

/-! ## Rules -/

/-- `{` and `}`, which code in strings may not hold. -/
def openBrace : Pattern := .token (.symbol [CodePoint.ofChar '\x7b'])

def closeBrace : Pattern := .token (.symbol [CodePoint.ofChar '\x7d'])

/-- An expression with a loop behind it is no assignment. -/
def looped : Pattern :=
  oneOf [.rule .assignmentExpression, seq [.rule .expression, .notAhead (sign ":=")]]

/-- Neither of the two signs of assignment follows. -/
def noAssignmentAhead : Pattern := .notAhead (oneOf [sign "=", sign ":="])

def conditional : Pattern :=
  seq [.rule .disjunction, word "if", .rule .disjunction, word "else", .rule .expression]

/-- Operands of one rule with signs between them. -/
def chain (operand : Rule) (signs : List String) : List Alternative :=
  [⟨seq [.rule operand, .many (seq [oneOf (signs.map sign), .rule operand])], operation⟩]

/-- Operands of one rule with a word between them. -/
def wordChain (operand : Rule) (between : String) : List Alternative :=
  [⟨seq [.rule operand, .many (seq [word between, .rule operand])], operation⟩]

/-- A parameter ends with a comma or in front of the colon. -/
def parameterEnd : Pattern := oneOf [sign ",", .ahead (sign ":")]

/-- A mistake among parameters. -/
def failParameters (reason : String) : Match → Answer := fail (.parameters (Text.ofString reason))

/-- The alternatives of a rule. -/
def alternatives : Rule → List Alternative
  | .whole => [⟨seq [.rule .expressions, .many (.token .lineEnd), .token .ending], pass⟩]
  | .expressions =>
    [⟨seq [.rule .expression, some1 (seq [sign ",", .rule .expression]), .maybe (sign ",")], tuple⟩,
     ⟨seq [.rule .expression, sign ","], tuple⟩,
     ⟨.rule .expression, pass⟩]
  | .expression =>
    [⟨.rule .invalidExpression, pass⟩,
     ⟨.rule .invalidOldCall, pass⟩,
     ⟨conditional, other "conditional expression"⟩,
     ⟨.rule .disjunction, pass⟩,
     ⟨.rule .lambda, pass⟩]
  | .yieldExpression =>
    [⟨seq [word "yield", word "from", .rule .expression], other "yield expression"⟩,
     ⟨seq [word "yield", .maybe (.rule .starExpressions)], other "yield expression"⟩]
  | .starExpressions =>
    [⟨seq [.rule .starExpression, some1 (seq [sign ",", .rule .starExpression]), .maybe (sign ",")],
      tuple⟩,
     ⟨seq [.rule .starExpression, sign ","], tuple⟩,
     ⟨.rule .starExpression, pass⟩]
  | .starExpression =>
    [⟨seq [sign "*", .rule .bitOr], expression fun es => .starred (es.headD (.other "starred"))⟩,
     ⟨.rule .expression, pass⟩]
  | .starNamedExpressions =>
    [⟨seq [listed (.rule .starNamedExpression), .maybe (sign ",")],
      fun m => .item (.expressions m.expressions)⟩]
  | .starNamedExpression =>
    [⟨seq [sign "*", .rule .bitOr], expression fun es => .starred (es.headD (.other "starred"))⟩,
     ⟨.rule .namedExpression, pass⟩]
  | .assignmentExpression =>
    [⟨.commit (seq [.token .name, sign ":="]) (.rule .expression) (.notAhead .nothing),
      other "named expression"⟩]
  | .namedExpression =>
    [⟨.rule .assignmentExpression, pass⟩,
     ⟨.rule .invalidNamedExpression, pass⟩,
     ⟨seq [.rule .expression, .notAhead (sign ":=")], pass⟩]
  | .disjunction => wordChain .conjunction "or"
  | .conjunction => wordChain .inversion "and"
  | .inversion =>
    [⟨seq [word "not", .rule .inversion], other "expression"⟩, ⟨.rule .comparison, pass⟩]
  | .comparison =>
    [⟨seq [.rule .bitOr, some1 (.rule .comparisonPair)], comparisonAnswer⟩, ⟨.rule .bitOr, pass⟩]
  | .comparisonPair =>
    (["==", "!=", "<=", "<", ">=", ">"].map fun s => ⟨seq [sign s, .rule .bitOr], ignore⟩) ++
    [⟨seq [word "not", word "in", .rule .bitOr], ignore⟩,
     ⟨seq [word "in", .rule .bitOr], fun m => .item (m.items.headD .nothing)⟩,
     ⟨seq [word "is", word "not", .rule .bitOr], ignore⟩,
     ⟨seq [word "is", .rule .bitOr], ignore⟩]
  | .bitOr => chain .bitXor ["|"]
  | .bitXor => chain .bitAnd ["^"]
  | .bitAnd => chain .shift ["&"]
  | .shift => chain .sum ["<<", ">>"]
  | .sum =>
    [⟨seq [.rule .term, .many (seq [oneOf [sign "+", sign "-"], .rule .term])], expression addition⟩]
  | .term => chain .factor ["*", "/", "//", "%", "@"]
  | .factor =>
    [⟨seq [sign "+", .rule .factor], expression fun es => .signed (es.headD (.other "expression"))⟩,
     ⟨seq [sign "-", .rule .factor], expression fun es => .signed (es.headD (.other "expression"))⟩,
     ⟨seq [sign "~", .rule .factor], other "expression"⟩,
     ⟨.rule .power, pass⟩]
  | .power =>
    [⟨seq [.rule .awaited, sign "**", .rule .factor], other "expression"⟩, ⟨.rule .awaited, pass⟩]
  | .awaited =>
    [⟨seq [word "await", .rule .primary], other "await expression"⟩, ⟨.rule .primary, pass⟩]
  | .primary => [⟨seq [.rule .atom, .many (.rule .suffix)], applySuffixes⟩]
  | .suffix =>
    [⟨seq [sign ".", .token .name], fun _ => .item .attributeSuffix⟩,
     ⟨.rule .generator, fun _ => .item (.callSuffix false)⟩,
     ⟨seq [sign "(", .maybe (.rule .arguments), sign ")"],
      fun m => .item (.callSuffix (m.items.length = 2))⟩]
  | .atom =>
    [⟨.token .name, fun m => .item (.expression (.name m.word))⟩,
     ⟨word "True", expression fun _ => .constant (.truth true)⟩,
     ⟨word "False", expression fun _ => .constant (.truth false)⟩,
     ⟨word "None", expression fun _ => .constant .nothing⟩,
     ⟨seq [.ahead (.token .string), .rule .strings], pass⟩,
     ⟨.token .number, numberAnswer⟩,
     ⟨seq [.ahead (sign "("), oneOf [.rule .tuple, .rule .group, .rule .generator]], pass⟩,
     ⟨seq [.ahead openBrace, oneOf
        [.rule .mapping, .rule .set, .rule .mappingComprehension, .rule .setComprehension]], pass⟩,
     ⟨sign "...", expression fun _ => .constant .ellipsis⟩]
  | .group =>
    [⟨seq [sign "(", oneOf [.rule .yieldExpression, .rule .namedExpression], sign ")"], pass⟩,
     ⟨.rule .invalidGroup, pass⟩]
  | .lambda =>
    [⟨seq [word "lambda", .maybe (oneOf [.rule .invalidParameters, .rule .parameters]), sign ":",
        .rule .expression], other "lambda"⟩]
  | .parameters =>
    [⟨seq [.rule .parametersBeforeSlash, .many (.rule .plainParameter), .many (.rule .defaultParameter),
        .maybe (.rule .starParameters)], ignore⟩,
     ⟨seq [.rule .defaultsBeforeSlash, .many (.rule .defaultParameter), .maybe (.rule .starParameters)],
      ignore⟩,
     ⟨seq [some1 (.rule .plainParameter), .many (.rule .defaultParameter),
        .maybe (.rule .starParameters)], ignore⟩,
     ⟨seq [some1 (.rule .defaultParameter), .maybe (.rule .starParameters)], ignore⟩,
     ⟨.rule .starParameters, ignore⟩]
  | .parametersBeforeSlash =>
    [⟨seq [some1 (.rule .plainParameter), sign "/", parameterEnd], ignore⟩]
  | .defaultsBeforeSlash =>
    [⟨seq [.many (.rule .plainParameter), some1 (.rule .defaultParameter), sign "/", parameterEnd],
      ignore⟩]
  | .starParameters =>
    [⟨.rule .invalidStarParameters, pass⟩,
     ⟨seq [sign "*", .rule .plainParameter, .many (.rule .anyParameter),
        .maybe (.rule .doubleStarParameter)], ignore⟩,
     ⟨seq [sign "*", sign ",", some1 (.rule .anyParameter), .maybe (.rule .doubleStarParameter)],
      ignore⟩,
     ⟨.rule .doubleStarParameter, ignore⟩]
  | .doubleStarParameter =>
    [⟨.rule .invalidDoubleStarParameter, pass⟩,
     ⟨seq [sign "**", .rule .plainParameter], ignore⟩]
  | .plainParameter => [⟨seq [.token .name, parameterEnd], ignore⟩]
  | .defaultParameter => [⟨seq [.token .name, .rule .defaultValue, parameterEnd], ignore⟩]
  | .anyParameter => [⟨seq [.token .name, .maybe (.rule .defaultValue), parameterEnd], ignore⟩]
  | .defaultValue =>
    [⟨seq [sign "=", .rule .expression], ignore⟩, ⟨.rule .invalidDefaultValue, pass⟩]
  | .strings => [⟨some1 (.token .string), stringsAnswer⟩]
  | .tuple =>
    [⟨seq [sign "(", .maybe (seq [.rule .starNamedExpression, sign ",",
        .maybe (.rule .starNamedExpressions)]), sign ")"], tuple⟩]
  | .set => [⟨seq [openBrace, .rule .starNamedExpressions, closeBrace], expression .set⟩]
  | .mapping =>
    [⟨seq [openBrace, .maybe (.rule .entries), closeBrace],
      fun m => .item (.expression (.mapping m.entries))⟩,
     ⟨seq [openBrace, .rule .invalidEntries, closeBrace], ignore⟩]
  | .entries =>
    [⟨seq [listed (.rule .entry), .maybe (sign ",")], fun m => .item (.entries m.entries)⟩]
  | .entry =>
    [⟨seq [sign "**", .rule .bitOr],
      fun m => .item (.entries (m.expressions.map fun e => (none, e)))⟩,
     ⟨.rule .pair, pass⟩]
  | .pair =>
    [⟨seq [.rule .expression, sign ":", .rule .expression], fun m =>
      match m.expressions with
      | [key, value] => .item (.entries [(some key, value)])
      | _ => .refusal⟩]
  | .clauses => [⟨some1 (.rule .clause), ignore⟩]
  | .clause =>
    [⟨.commit (seq [.maybe (word "async"), word "for", .rule .starTargets, word "in"])
        (seq [.rule .disjunction, .many (seq [word "if", .rule .disjunction])])
        (.rule .invalidTarget), ignore⟩]
  | .setComprehension =>
    [⟨seq [openBrace, .rule .namedExpression, .rule .clauses, closeBrace], other "set comprehension"⟩,
     ⟨.rule .invalidComprehension, pass⟩]
  | .generator =>
    [⟨seq [sign "(", looped, .rule .clauses, sign ")"], other "generator expression"⟩,
     ⟨.rule .invalidComprehension, pass⟩]
  | .mappingComprehension =>
    [⟨seq [openBrace, .rule .pair, .rule .clauses, closeBrace], other "dict comprehension"⟩,
     ⟨.rule .invalidMappingComprehension, pass⟩]
  | .arguments =>
    [⟨seq [.rule .positional, .maybe (sign ","), .ahead (sign ")")], pass⟩,
     ⟨.rule .invalidArguments, pass⟩]
  | .positional =>
    [⟨seq [listed (oneOf [.rule .starredExpression, seq [looped, .notAhead (sign "=")]]),
        .maybe (seq [sign ",", .rule .named])], countArguments⟩,
     ⟨.rule .named, pass⟩]
  | .named =>
    [⟨seq [listed (.rule .namedOrStarred), sign ",", listed (.rule .namedOrDoubleStarred)],
      countArguments⟩,
     ⟨listed (.rule .namedOrStarred), countArguments⟩,
     ⟨listed (.rule .namedOrDoubleStarred), countArguments⟩]
  | .starredExpression =>
    [⟨seq [sign "*", .rule .expression], expression fun es => .starred (es.headD (.other "starred"))⟩,
     ⟨sign "*", fail .loneStar⟩]
  | .namedOrStarred =>
    [⟨.rule .invalidNamed, pass⟩,
     ⟨seq [.token .name, sign "=", .rule .expression], ignore⟩,
     ⟨.rule .starredExpression, pass⟩]
  | .namedOrDoubleStarred =>
    [⟨.rule .invalidNamed, pass⟩,
     ⟨seq [.token .name, sign "=", .rule .expression], ignore⟩,
     ⟨seq [sign "**", .rule .expression], fun _ => .item (.arguments 0 true)⟩]
  | .starTargets =>
    [⟨seq [.rule .starTarget, .notAhead (sign ",")], ignore⟩,
     ⟨seq [listed (.rule .starTarget), .maybe (sign ",")], ignore⟩]
  | .starTargetsTuple =>
    [⟨seq [.rule .starTarget, some1 (seq [sign ",", .rule .starTarget]), .maybe (sign ",")], ignore⟩,
     ⟨seq [.rule .starTarget, sign ","], ignore⟩]
  | .starTarget =>
    [⟨seq [sign "*", .notAhead (sign "*"), .rule .starTarget], ignore⟩,
     ⟨.rule .targetOrStarAtom, ignore⟩]
  | .targetOrStarAtom =>
    [⟨seq [.rule .targetPrimary, sign ".", .token .name, .notAhead (.rule .targetContinues)], ignore⟩,
     ⟨.rule .starAtom, ignore⟩]
  | .starAtom =>
    [⟨.token .name, ignore⟩,
     ⟨seq [sign "(", .rule .targetOrStarAtom, sign ")"], ignore⟩,
     ⟨seq [sign "(", .maybe (.rule .starTargetsTuple), sign ")"], ignore⟩]
  | .targetPrimary =>
    [⟨seq [.rule .atom, .ahead (.rule .targetContinues),
        .many (seq [.rule .suffix, .ahead (.rule .targetContinues)])], ignore⟩]
  | .targetContinues => [⟨oneOf [sign "(", sign "["], ignore⟩, ⟨sign ".", ignore⟩]
  | .plainExpression =>
    [⟨conditional, other "conditional expression"⟩,
     ⟨.rule .disjunction, pass⟩,
     ⟨.rule .lambda, pass⟩]
  | .invalidArguments =>
    [⟨seq [.rule .positional, sign ",", .rule .starredExpression], fail .iterableAfterUnpacking⟩,
     ⟨seq [.rule .expression, .rule .clauses, sign ",",
        .maybe (oneOf [.rule .positional, seq [.rule .expression, .rule .clauses]])], fail .bareGenerator⟩,
     ⟨seq [.token .name, sign "=", .rule .expression, .rule .clauses], fail .equalsSign⟩,
     ⟨seq [.rule .positional, .rule .clauses], bareGeneratorAnswer⟩,
     ⟨seq [.rule .positional, sign ",", .rule .expression, .rule .clauses], fail .bareGenerator⟩,
     ⟨seq [.rule .positional, sign ",", .rule .positional], positionalAnswer⟩]
  | .invalidNamed =>
    [⟨seq [oneOf [word "True", word "False", word "None"], sign "="],
      fun m => .fault (.assignment m.word)⟩,
     ⟨seq [.token .name, sign "=", .rule .expression, .rule .clauses], fail .equalsSign⟩,
     ⟨seq [.notAhead (seq [.token .name, sign "="]), .rule .expression, sign "="],
      fail .equalsInArgument⟩]
  | .invalidOldCall =>
    [⟨seq [.token .name, .notAhead (sign "("), .rule .starExpressions], fun m =>
      if oldCalls.contains m.word then .fault (.missingCallBrackets m.word) else .refusal⟩]
  | .invalidExpression =>
    [⟨seq [.notAhead (oneOf [seq [.token .name, .token .string], .token .softWord]), .rule .disjunction,
        .rule .plainExpression], missingCommaAnswer⟩,
     ⟨seq [.rule .disjunction, word "if", .rule .disjunction,
        .notAhead (oneOf [word "else", sign ":"])], fail .missingElse⟩]
  | .invalidNamedExpression =>
    [⟨seq [.rule .expression, sign ":=", .rule .expression],
      fun m => .fault (.assignmentExpression m.kind)⟩,
     ⟨seq [.token .name, sign "=", .rule .bitOr, noAssignmentAhead], fail .equalsSign⟩,
     ⟨seq [.notAhead (oneOf [.rule .tuple, .rule .generator, word "True", word "None", word "False"]),
        .rule .bitOr, sign "=", .rule .bitOr, noAssignmentAhead],
      fun m => .fault (.assignmentHere m.kind)⟩]
  | .invalidComprehension =>
    [⟨seq [oneOf [sign "(", openBrace], .rule .starredExpression, .rule .clauses],
      fail .unpackingInComprehension⟩,
     ⟨seq [openBrace, .rule .starNamedExpression, sign ",", .rule .starNamedExpressions, .rule .clauses],
      fail .bareComprehensionTarget⟩,
     ⟨seq [openBrace, .rule .starNamedExpression, sign ",", .rule .clauses],
      fail .bareComprehensionTarget⟩]
  | .invalidMappingComprehension =>
    [⟨seq [openBrace, sign "**", .rule .bitOr, .rule .clauses, closeBrace],
      fail .entryUnpackingInComprehension⟩]
  | .invalidTarget =>
    [⟨seq [.maybe (word "async"), word "for", .rule .starExpressions], targetAnswer⟩]
  | .invalidGroup =>
    [⟨seq [sign "(", .rule .starredExpression, sign ")"], fail .starredInBrackets⟩,
     ⟨seq [sign "(", sign "**", .rule .expression, sign ")"], fail .doubleStarredInBrackets⟩]
  | .invalidEntries =>
    [⟨seq [listed (.rule .entry), sign ",", .rule .invalidPair], ignore⟩,
     ⟨seq [.rule .expression, sign ":", sign "*", .rule .bitOr], fail .starredValue⟩,
     ⟨seq [.rule .expression, sign ":", .ahead (oneOf [closeBrace, sign ","])], fail .missingValue⟩]
  | .invalidPair =>
    [⟨seq [.rule .expression, .notAhead (sign ":")], fail .missingColon⟩,
     ⟨seq [.rule .expression, sign ":", sign "*", .rule .bitOr], fail .starredValue⟩,
     ⟨seq [.rule .expression, sign ":", .ahead (oneOf [closeBrace, sign ","])], fail .missingValue⟩]
  | .invalidParameters =>
    [⟨seq [.many (.rule .plainParameter), .rule .invalidDefaults, .rule .plainParameter],
      failParameters "non-default argument follows default argument"⟩,
     ⟨seq [.many (.rule .plainParameter), sign "(", listed (.token .name), .maybe (sign ","), sign ")"],
      failParameters "Lambda expression parameters cannot be parenthesized"⟩,
     ⟨seq [sign "/", sign ","], failParameters "at least one argument must precede /"⟩,
     ⟨seq [oneOf [.rule .parametersBeforeSlash, .rule .defaultsBeforeSlash], .many (.rule .anyParameter),
        sign "/"], failParameters "/ may appear only once"⟩,
     ⟨seq [.maybe (oneOf [.rule .parametersBeforeSlash, .rule .defaultsBeforeSlash]),
        .many (.rule .anyParameter), sign "*", oneOf [sign ",", .rule .plainParameter],
        .many (.rule .anyParameter), sign "/"], failParameters "/ must be ahead of *"⟩,
     ⟨seq [some1 (.rule .anyParameter), sign "/", sign "*"],
      failParameters "expected comma between / and *"⟩]
  | .invalidDefaults =>
    [⟨.rule .defaultsBeforeSlash, ignore⟩, ⟨some1 (.rule .defaultParameter), ignore⟩]
  | .invalidStarParameters =>
    [⟨seq [sign "*", oneOf [sign ":", seq [sign ",", oneOf [sign ":", sign "**"]]]],
      failParameters "named arguments must follow bare *"⟩,
     ⟨seq [sign "*", .token .name, sign "="],
      failParameters "var-positional argument cannot have default value"⟩,
     ⟨seq [sign "*", oneOf [.rule .plainParameter, sign ","], .many (.rule .anyParameter), sign "*",
        oneOf [.rule .plainParameter, sign ","]], failParameters "* argument may appear only once"⟩]
  | .invalidDoubleStarParameter =>
    [⟨seq [sign "**", .token .name, sign "="],
      failParameters "var-keyword argument cannot have default value"⟩,
     ⟨seq [sign "**", .token .name, sign ",", .token .name],
      failParameters "arguments cannot follow var-keyword argument"⟩,
     ⟨seq [sign "**", .token .name, sign ",", oneOf [sign "*", sign "**", sign "/"]],
      failParameters "arguments cannot follow var-keyword argument"⟩]
  | .invalidDefaultValue =>
    [⟨seq [sign "=", .ahead (oneOf [sign ")", sign ","])],
      failParameters "expected default value expression"⟩]

end Grammar

end ClusterClient.Console.Literal
