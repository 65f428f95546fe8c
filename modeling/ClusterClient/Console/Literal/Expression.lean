import ClusterClient.Console.Literal.Token

/-!
# Expressions

What tokens add up to. Of an expression that is no literal only the kind is kept, because messages name it.
`Expression.value` tells whether an expression is a literal: sets and mappings take no member that cannot
be looked up in them.
-/

namespace ClusterClient.Console.Literal

inductive Constant where
  | truth (value : Bool)
  | nothing
  | ellipsis
  | real
  | imaginary
  | text
  | octets
  deriving DecidableEq, Repr

inductive Expression where
  | name (text : Text)
  | constant (c : Constant)
  | tuple (items : List Expression)
  | set (items : List Expression)
  /-- An entry without a key takes in another mapping. -/
  | mapping (entries : List (Option Expression × Expression))
  | call (callee : Expression) (isBare : Bool)
  | starred (of : Expression)
  | signed (of : Expression)
  | sum (left right : Expression)
  | comparison (isMembership : Bool) (left : Expression)
  | other (kind : Text)
  deriving Repr

namespace Expression

/-- What messages call an expression. -/
def kind : Expression → Text
  | name _ => "name"
  | constant (.truth true) => "True"
  | constant (.truth false) => "False"
  | constant .nothing => "None"
  | constant .ellipsis => "ellipsis"
  | constant _ => "literal"
  | tuple _ => "tuple"
  | set _ => "set display"
  | mapping _ => "dict literal"
  | call .. => "function call"
  | starred _ => "starred"
  | signed _ | sum .. => "expression"
  | comparison .. => "comparison"
  | other kind => kind

mutual

/-- The part of an expression that nothing can be assigned to. -/
def notAssignable? : Expression → Option Expression
  | tuple items => notAssignableIn? items
  | starred e => e.notAssignable?
  | comparison true left => left.notAssignable?
  | comparison false _ | name _ => none
  | other kind => if kind = "attribute" then none else some (other kind)
  | e => some e

def notAssignableIn? : List Expression → Option Expression
  | [] => none
  | e :: rest => (e.notAssignable?).or (notAssignableIn? rest)

end

/-! ## Values -/

/-- What is known of the value of a literal. -/
inductive Shape where
  | real
  | imaginary
  | plain
  | unhashable (kind : Text)
  deriving DecidableEq, Repr

/-- The value of a number. -/
def number? : Expression → Option Shape
  | constant .real => some .real
  | constant .imaginary => some .imaginary
  | _ => none

/-- The value of a number that may have a sign. -/
def signedNumber? : Expression → Option Shape
  | signed e => e.number?
  | e => e.number?

mutual

/-- The value of a literal. -/
def value : Expression → Except Fault Shape
  | constant .real => .ok .real
  | constant .imaginary => .ok .imaginary
  | constant _ => .ok .plain
  | tuple items => tupleValue .plain items
  | set items => setValue items
  | mapping entries => mappingValue entries
  | call (name callee) true => if callee = "set" then .ok (.unhashable "set") else .error .noValue
  | signed e =>
    match e.number? with
    | some shape => .ok shape
    | none => .error .noValue
  | sum left right =>
    if left.signedNumber? = some .real && right.number? = some .imaginary then .ok .imaginary
    else .error .noValue
  | _ => .error .noValue

/-- A tuple is as unhashable as the first of its items that is. -/
def tupleValue (known : Shape) : List Expression → Except Fault Shape
  | [] => .ok known
  | e :: rest =>
    match e.value with
    | .error fault => .error fault
    | .ok shape =>
      match known, shape with
      | .plain, .unhashable kind => tupleValue (.unhashable kind) rest
      | _, _ => tupleValue known rest

def setValue : List Expression → Except Fault Shape
  | [] => .ok (.unhashable "set")
  | e :: rest =>
    match e.value with
    | .error fault => .error fault
    | .ok (.unhashable kind) => .error (.unhashable kind)
    | .ok _ => setValue rest

def mappingValue : List (Option Expression × Expression) → Except Fault Shape
  | [] => .ok (.unhashable "dict")
  | (none, _) :: _ => .error .noKey
  | (some key, e) :: rest =>
    match key.value with
    | .error fault => .error fault
    | .ok shape =>
      match e.value with
      | .error fault => .error fault
      | .ok _ =>
        match shape with
        | .unhashable kind => .error (.unhashable kind)
        | _ => mappingValue rest

end

end Expression

end ClusterClient.Console.Literal
