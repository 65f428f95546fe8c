import ClusterClient.Text.Basic

/-!
# Located issues

Reading a payload either gives its value or the issues that were found, each with the path to its place.
Parts are read side by side: the issues of all of them are collected, in the order of the parts.
-/

namespace ClusterClient

/-- One step of the path to a place in a document. -/
inductive Step where
  | key (name : Text)
  | index (position : Nat)
  deriving DecidableEq, Repr

/-- What is wrong at a place. -/
inductive IssueKind where
  | notJson
  | missing
  | notObject
  | notText
  | notChoice
  | notWhole
  | unreadableWhole
  | wholeOutOfRange
  | fraction
  | notFinite
  | notFlag
  | unreadableFlag
  | notReal
  | unreadableReal
  | notList
  | notMapping
  deriving DecidableEq, Repr

/-- The name under which an issue is reported. -/
def IssueKind.name : IssueKind → Text
  | notJson => "json_invalid"
  | missing => "missing"
  | notObject => "model_type"
  | notText => "string_type"
  | notChoice => "enum"
  | notWhole => "int_type"
  | unreadableWhole => "int_parsing"
  | wholeOutOfRange => "int_parsing_size"
  | fraction => "int_from_float"
  | notFinite => "finite_number"
  | notFlag => "bool_type"
  | unreadableFlag => "bool_parsing"
  | notReal => "float_type"
  | unreadableReal => "float_parsing"
  | notList => "list_type"
  | notMapping => "dict_type"

/-- An issue and the path to its place, outermost step first. -/
structure Issue where
  path : List Step
  kind : IssueKind
  deriving DecidableEq, Repr

/-- A value, or the issues that kept it from being read. -/
inductive Checked (α : Type) where
  | ok (value : α)
  | refused (issues : List Issue)
  deriving DecidableEq, Repr

namespace Checked

/-- An issue at the place that is being read. -/
def fail {α : Type} (kind : IssueKind) : Checked α := refused [⟨[], kind⟩]

def map {α β : Type} (f : α → β) : Checked α → Checked β
  | ok a => ok (f a)
  | refused issues => refused issues

/-- Two parts side by side: the issues of the first stand before those of the second. -/
def ap {α β : Type} : Checked (α → β) → Checked α → Checked β
  | ok f, ok a => ok (f a)
  | ok _, refused issues => refused issues
  | refused issues, ok _ => refused issues
  | refused issues, refused more => refused (issues ++ more)

instance : Applicative Checked where
  pure := ok
  map f x := x.map f
  seq f x := f.ap (x ())

/-- The issues of a part, seen from the whole that the part is one step into. -/
def within {α : Type} (step : Step) : Checked α → Checked α
  | ok a => ok a
  | refused issues => refused (issues.map fun issue => { issue with path := step :: issue.path })

/-- A function and its argument are both read, or nothing is; the issues of both are collected if not. -/
theorem ap_eq_ok {α β : Type} {f : Checked (α → β)} {x : Checked α} {b : β} :
    f.ap x = ok b ↔ ∃ g a, f = ok g ∧ x = ok a ∧ g a = b := by
  cases f <;> cases x <;> simp [ap]

theorem within_eq_ok {α : Type} {step : Step} {x : Checked α} {a : α} :
    x.within step = ok a ↔ x = ok a := by
  cases x <;> simp [within]

end Checked

end ClusterClient
