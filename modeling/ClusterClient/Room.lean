import ClusterClient.Value

/-!
# Room on the stack

Values and documents are walked one level deeper for each container inside another, and every level takes some of
the stack of the running program. A program that has come far already has less of it left. A walk that finds no room
fails with an error of its own, and nobody sees what lies further down.

A whole number with too many digits has no text either, and neither has an object whose own code fails to give one.
-/

namespace ClusterClient

/-- How deep the stack lets each walk go, where a client is used. -/
structure Room where
  /-- Values inside a value that is shown as a text. -/
  shown : Nat
  /-- Containers inside one another in a document that is sent. -/
  sent : Nat
  /-- Containers inside one another in a text that is read as a document. -/
  read : Nat
  /-- Levels of a document that is laid out in lines. -/
  laidOut : Nat
  /-- The documents of the library's own calls go no deeper than this. -/
  enough : 8 ≤ sent

/-- The room of a program near the bottom of a stack of a thousand levels. -/
def Room.usual : Room := ⟨950, 950, 950, 950, by decide⟩

/-- Why a scalar cannot be shown as a text. -/
def Scalar.whyUnshown? : Scalar → Option External
  | whole n => if n.natAbs < Nat.pow 10 Whole.maxDigits then none else some .tooManyDigits
  | foreign fault => fault
  | _ => none

namespace Value

/-- The error of a value that is nested too deep to be shown. -/
def tooDeepToShow : External := .tooDeep "getting the repr of an object"

mutual

/-- Why a value cannot be shown as a text: of all that keeps it from being shown, what stands first in it. -/
def whyUnshown? : Nat → Value → Option External
  | _, scalar s => s.whyUnshown?
  | room, list items => whyItemsUnshown? room items
  | room, mapping entries => whyEntriesUnshown? room entries

/-- Why the items of a list cannot be shown. -/
def whyItemsUnshown? : Nat → List Value → Option External
  -- nothing to walk into takes no room
  | _, [] => none
  -- the container itself has been entered, and its items are one level further down
  | 0, _ :: _ => some tooDeepToShow
  | room + 1, item :: rest => (item.whyUnshown? room).or (whyItemsUnshown? (room + 1) rest)

/-- Why the entries of a mapping cannot be shown. -/
def whyEntriesUnshown? : Nat → List (Scalar × Value) → Option External
  | _, [] => none
  | 0, _ :: _ => some tooDeepToShow
  | room + 1, (key, value) :: rest =>
    -- a key is shown before its value, and a scalar takes no room
    key.whyUnshown?.or ((value.whyUnshown? room).or (whyEntriesUnshown? (room + 1) rest))

end

/-- The text of a value, if it can be shown. -/
def text? (room : Room) (v : Value) : Except External Text :=
  match v.whyUnshown? room.shown with
  | some e => .error e
  | none => .ok v.toText

/-- The text of a value as a query parameter, if it can be shown. -/
def queryText? (room : Room) (v : Value) : Except External Text :=
  match v.whyUnshown? room.shown with
  | some e => .error e
  | none => .ok v.toQueryText

variable {room : Room} {v : Value} {t : Text}

/-- A value is shown as its text or not at all. -/
theorem text?_eq_ok_iff : v.text? room = .ok t ↔ v.whyUnshown? room.shown = none ∧ t = v.toText := by
  unfold text?
  split
  · next e he => simp [he]
  · next hnone => simp [hnone, eq_comm]

/-- The same as a parameter of a query. -/
theorem queryText?_eq_ok_iff :
    v.queryText? room = .ok t ↔ v.whyUnshown? room.shown = none ∧ t = v.toQueryText := by
  unfold queryText?
  split
  · next e he => simp [he]
  · next hnone => simp [hnone, eq_comm]

/-- A whole number of too many digits is not shown, however much room there is. -/
theorem whyUnshown?_whole_of_le (room : Nat) {n : Int} (h : Nat.pow 10 Whole.maxDigits ≤ n.natAbs) :
    (whole n).whyUnshown? room = some .tooManyDigits := by
  rw [whole, whyUnshown?, Scalar.whyUnshown?, if_neg (Nat.not_lt.2 h)]

@[simp] theorem whyUnshown?_text (room : Nat) (t : Text) : (text t).whyUnshown? room = none := by
  rw [text, whyUnshown?]
  rfl

end Value

end ClusterClient
