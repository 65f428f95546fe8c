import ClusterClient.Console.Literal.Grammar

/-!
# Reading literals

The tokens of a text are matched with the grammar. Where they do not match, they are matched once more with
the diagnostic rules. A token that is wrong is told before anything that comes of the grammar; a bracket
that is never closed only where the grammar gets to the end of the text.
-/

namespace ClusterClient.Console.Literal

/-- What comes of matching at a position: the position behind the match and its items, or nothing, or a
fault that ends all matching. -/
inductive Outcome where
  | matched (next : Nat) (items : List Item)
  | unmatched
  | fault (f : Fault)

/-- What is known while matching: the tokens looked at, and what became of rules by position. -/
structure Progress where
  looked : Nat
  known : Array (List (Rule × Outcome))

namespace Progress

def start (scan : Scan) : Progress := ⟨0, Array.replicate (scan.tokens.size + 1) []⟩

/-- What became of a rule at a position. -/
def known? (s : Progress) (r : Rule) (position : Nat) : Option Outcome :=
  ((s.known[position]?.getD []).find? fun entry => entry.1 = r).map (·.2)

def remember (s : Progress) (r : Rule) (position : Nat) (o : Outcome) : Progress :=
  { s with known := s.known.modify position ((r, o) :: ·) }

def look (s : Progress) (position : Nat) : Progress := { s with looked := max s.looked (position + 1) }

end Progress

namespace Scan

/-- The token at a position, or what is wrong there. -/
def token (scan : Scan) (position : Nat) : Except Fault Token :=
  match scan.tokens[position]? with
  | some t => .ok t
  | none =>
    match scan.stop with
    | .complete => .error .misplaced
    | .broken fault | .short fault _ => .error fault

/-- The number of brackets that are open in front of a position. -/
def levelBefore (scan : Scan) (position : Nat) : Nat :=
  ((scan.tokens[position - 1]?).map Token.level).getD 0

end Scan

/-- Tries alternatives in order. -/
def firstMatch (scan : Scan) (readField : FieldReader) (run : Pattern → Progress → Outcome × Progress) :
    List Alternative → Progress → Outcome × Progress
  | [], s => (.unmatched, s)
  | alternative :: rest, s =>
    match run alternative.pattern s with
    | (.unmatched, s) => firstMatch scan readField run rest s
    | (.fault f, s) => (.fault f, s)
    | (.matched next items, s) =>
      match alternative.answer ⟨items, scan.levelBefore next, readField⟩ with
      | .item i => (.matched next [i], s)
      | .fault f => (.fault f, s)
      | .refusal => (.unmatched, s)

/-- Matches a pattern from a position on, with the diagnostic rules or without. `patience` bounds the depth
of the match. -/
def run (scan : Scan) (readField : FieldReader) : Nat → Bool → Pattern → Nat → Progress → Outcome × Progress
  | 0, _, _, _, s => (.unmatched, s)
  | patience + 1, diagnoses, pattern, position, s =>
    match pattern with
    | .nothing => (.matched position [], s)
    | .token symbol =>
      match scan.token position with
      | .error f => (.fault f, s.look position)
      | .ok t =>
        (if symbol.matches t then .matched (position + 1) [.token t] else .unmatched, s.look position)
    | .rule r =>
      if r.isDiagnostic && !diagnoses then (.unmatched, s)
      else
        match if r.isRemembered then s.known? r position else none with
        | some o => (o, s)
        | none =>
          let diagnoses := diagnoses && r ≠ .plainExpression
          let (o, s) := firstMatch scan readField (fun p s => run scan readField patience diagnoses p position s)
            (Grammar.alternatives r) s
          (o, if r.isRemembered then s.remember r position o else s)
    | .both a b =>
      match run scan readField patience diagnoses a position s with
      | (.matched next items, s) =>
        match run scan readField patience diagnoses b next s with
        | (.matched last more, s) => (.matched last (items ++ more), s)
        | other => other
      | other => other
    | .either a b =>
      match run scan readField patience diagnoses a position s with
      | (.unmatched, s) => run scan readField patience diagnoses b position s
      | other => other
    | .maybe a =>
      match run scan readField patience diagnoses a position s with
      | (.unmatched, s) => (.matched position [], s)
      | other => other
    | .many a =>
      match run scan readField patience diagnoses a position s with
      | (.unmatched, s) => (.matched position [], s)
      | (.fault f, s) => (.fault f, s)
      | (.matched next items, s) =>
        match run scan readField patience diagnoses (.many a) next s with
        | (.matched last more, s) => (.matched last (items ++ more), s)
        | other => other
    | .ahead a =>
      match run scan readField patience diagnoses a position s with
      | (.matched _ _, s) => (.matched position [], s)
      | other => other
    | .notAhead a =>
      match run scan readField patience diagnoses a position s with
      | (.matched _ _, s) => (.unmatched, s)
      | (.unmatched, s) => (.matched position [], s)
      | (.fault f, s) => (.fault f, s)
    | .commit a b c =>
      match run scan readField patience diagnoses a position s with
      | (.unmatched, s) => run scan readField patience diagnoses c position s
      | (.fault f, s) => (.fault f, s)
      | (.matched next items, s) =>
        match run scan readField patience diagnoses b next s with
        | (.matched last more, s) => (.matched last (items ++ more), s)
        | other => other

/-- Matches a rule from the first token on. -/
def runRule (scan : Scan) (readField : FieldReader) (r : Rule) (diagnoses : Bool) : Outcome × Progress :=
  run scan readField (400 * (scan.tokens.size + 4)) diagnoses (.rule r) 0 (.start scan)

/-- What is told of a text in place of a fault that is found after looking at so many tokens. -/
def Scan.precedence (scan : Scan) (looked : Nat) (fault : Fault) : Fault :=
  match scan.stop with
  | .complete => fault
  | .broken first => first
  | .short _ none => fault
  | .short _ (some (opening, openedOn)) =>
    if scan.tokens.size < looked then fault
    else if openedOn < ((scan.tokens[looked - 1]?).map Token.line).getD 1 then .neverClosed opening
    else fault

/-- What is told of a text in place of a fault of some rule, which stands when the end of the text has been
seen. -/
def Scan.precedenceOfRule (scan : Scan) (looked : Nat) (fault : Fault) : Fault :=
  if scan.touchesEnd && looked = scan.tokens.size then fault else scan.precedence looked fault

/-- The expression that the tokens of a text write. -/
def readTokens (readField : FieldReader) (r : Rule) (s : Scan) : Except Fault Expression :=
  match runRule s readField r false with
  | (.matched _ (.expression e :: _), _) => .ok e
  | (.fault fault, p) => .error (s.precedenceOfRule p.looked fault)
  | (_, p) =>
    match runRule s readField r true with
    | (.fault fault, q) => .error (s.precedenceOfRule (max p.looked q.looked) fault)
    | (_, q) =>
      let last := (s.tokens[p.looked - 1]?).map Token.kind
      if last = some .indent then .error .indented
      else .error (s.precedence (max p.looked q.looked) .misplaced)

/-- Reads the expression of a field that begins on a line. A field can hold strings with fields of their
own, which are shorter than it, so that its length is `depth` enough. -/
def readField : (depth : Nat) → FieldReader
  | 0, _, _ => .ok ()
  | depth + 1, line, t =>
    match readTokens (readField depth) .starExpressions (scan line t) with
    | .ok _ => .ok ()
    | .error fault => .error fault.ofField

/-- The expression that a text writes. -/
def read (t : Text) : Except Fault Expression := readTokens (readField t.length) .whole (scan 1 t)

/-- Checks that a text writes a literal. -/
def check (t : Text) : Except Fault Unit :=
  match t.encode .utf8 with
  | .error reason => .error (.unencodable reason)
  | .ok _ =>
    if t.contains 0 then .error .null
    else
      match read (Text.unifyLineEnds t) with
      | .error fault => .error fault
      | .ok e => e.value.map fun _ => ()

end ClusterClient.Console.Literal
