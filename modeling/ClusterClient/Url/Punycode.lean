import ClusterClient.Text.Basic

/-!
# Punycode

A label with code points beyond ASCII is written as its ASCII code points, a hyphen, and a list of
numbers in base 36 that say where to insert the others. Numbers are written lowest digit first; a
threshold that adapts to the numbers written before tells their last digit.

`readNumber?_length` is why reading ends: each number takes at least one digit.
-/

namespace ClusterClient.Punycode

/-- The threshold of the digit with this index: from 1 to 26. -/
def threshold (bias index : Nat) : Nat := min 26 (max 1 (36 * (index + 1) - bias))

/-- A threshold is never zero, so that each digit divides by less than the base. -/
theorem one_le_threshold (bias index : Nat) : 1 ≤ threshold bias index := by
  unfold threshold; omega

/-- Divides by 35 until at most 455 is left, counting 36 for each division. -/
def shrink (delta count : Nat) : Nat × Nat :=
  if 455 < delta then shrink (delta / 35) (count + 36) else (delta, count)
termination_by delta
decreasing_by exact Nat.div_lt_self (by omega) (by omega)

/-- The bias after a number; `size` is the length of the text with the new code point in it. -/
def adapt (delta size : Nat) (first : Bool) : Nat :=
  let delta := if first then delta / 700 else delta / 2
  let (rest, count) := shrink (delta + delta / size) 0
  count + 36 * rest / (rest + 38)

/-! ## Writing -/

/-- A number, lowest digit first. -/
def writeNumber (bias index q : Nat) : Text :=
  let t := threshold bias index
  if q < t then [CodePoint.digit (if q < 26 then q + 10 else q - 26)]
  else
    let d := t + (q - t) % (36 - t)
    CodePoint.digit (if d < 26 then d + 10 else d - 26) ::
      writeNumber bias (index + 1) ((q - t) / (36 - t))
termination_by q
decreasing_by
  have h := one_le_threshold bias index
  have := Nat.div_le_self (q - threshold bias index) (36 - threshold bias index)
  omega

/-- Where writing stands: the number due, the bias, the code points done, and the digits in reverse
order of the numbers. -/
structure Writer where
  delta : Nat
  bias : Nat
  size : Nat
  out : List Text

/-- Looks at one code point of the text while those equal to `target` are being inserted. -/
def Writer.visit (basic target : Nat) (s : Writer) (c : CodePoint) : Writer :=
  if c.val < target then { s with delta := s.delta + 1 }
  else if c.val = target then
    { delta := 0, bias := adapt s.delta (s.size + 1) (s.size = basic), size := s.size + 1,
      out := writeNumber s.bias 0 s.delta :: s.out }
  else s

/-- Inserts into an ascending list without repetition. -/
def insertAscending (n : Nat) : List Nat → List Nat
  | [] => [n]
  | m :: rest => if n < m then n :: m :: rest else if n = m then m :: rest else m :: insertAscending n rest

/-- The numbers of the code points beyond ASCII, ascending. -/
def targets (t : Text) : List Nat :=
  (t.filter fun c => !c.isAscii).foldl (fun found c => insertAscending c.val found) []

/-- Inserts one target after the other; `next` is the lowest number not yet looked for. -/
def Writer.run (t : Text) (basic : Nat) : List Nat → Nat → Writer → Writer
  | [], _, s => s
  | target :: rest, next, s =>
    let s := { s with delta := s.delta + (target - next) * (s.size + 1) }
    let s := t.foldl (Writer.visit basic target) s
    run t basic rest (target + 1) { s with delta := s.delta + 1 }

/-- The written form of a label. -/
def encode (t : Text) : Text :=
  let basic := t.filter CodePoint.isAscii
  let s := Writer.run t basic.length (targets t) 0x80 ⟨0, 72, basic.length, []⟩
  let extended := s.out.reverse.flatten
  if basic.isEmpty then extended else basic ++ [CodePoint.ofChar '-'] ++ extended

/-! ## Reading -/

/-- The value of a digit: the letters in either case, then the ten digits. -/
def digitValue? (c : CodePoint) : Option Nat :=
  if c.isAsciiUpper then some (c.val - 0x41)
  else if c.isAsciiLower then some (c.val - 0x61)
  else if c.isAsciiDigit then some (c.val - 0x30 + 26)
  else none

/-- Reads a number and gives what follows it. -/
def readNumber? (bias index weight sum : Nat) : Text → Option (Nat × Text)
  | [] => none
  | c :: rest =>
    match digitValue? c with
    | none => none
    | some d =>
      let t := threshold bias index
      let sum := sum + d * weight
      if d < t then some (sum, rest) else readNumber? bias (index + 1) (weight * (36 - t)) sum rest

/-- Reading a number takes digits away, so that reading all of them comes to an end: at least one digit is read,
even for zero. -/
theorem readNumber?_length {bias index weight sum n : Nat} {t rest : Text}
    (h : readNumber? bias index weight sum t = some (n, rest)) : rest.length < t.length := by
  induction t generalizing index weight sum with
  | nil => simp [readNumber?] at h
  | cons c t ih =>
    unfold readNumber? at h
    split at h
    · simp at h
    · dsimp only at h
      split at h
      · simp only [Option.some.injEq, Prod.mk.injEq] at h
        obtain ⟨-, rfl⟩ := h
        simp
      · have := ih h
        simp only [List.length_cons]
        omega

/-- Inserts the code points that the numbers stand for. `position` is where the next insertion would be
at distance zero, and `char` the code point inserted there. -/
def insertAll? (bias position char : Nat) (first : Bool) (done t : Text) : Option Text :=
  if t.isEmpty then some done
  else
    match _h : readNumber? bias 0 1 0 t with
    | none => none
    | some (delta, rest) =>
      let size := done.length + 1
      let char := char + (position + delta) / size
      let place := (position + delta) % size
      match CodePoint.ofNat? char with
      | none => none
      | some c =>
        insertAll? (adapt delta size first) (place + 1) char false
          (done.take place ++ c :: done.drop place) rest
termination_by t.length
decreasing_by exact readNumber?_length _h

/-- The label that an ASCII text writes. -/
def decode? (t : Text) : Option Text :=
  match t.splitLast? '-' with
  | none => insertAll? 72 0 0x80 true [] t
  | some (basic, extended) => insertAll? 72 0 0x80 true basic extended

end ClusterClient.Punycode
