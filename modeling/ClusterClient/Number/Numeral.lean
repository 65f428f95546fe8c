import ClusterClient.Text.Blank
import ClusterClient.Text.Digit
import ClusterClient.Text.Utf8

/-!
# Numerals

A numeral may be surrounded by blanks, may carry a sign, and may be written in the decimal digits of
any script. Before it is read, each code point beyond ASCII is replaced by the ASCII digit or blank
that it stands for. A single underscore may separate two digits.
-/

namespace ClusterClient

/-- The ASCII code point that a numeral's code point stands for; a question mark if there is none. -/
def CodePoint.inNumeral (c : CodePoint) : CodePoint :=
  if c.isAscii then c
  else if c.isBlank then ' '
  else
    match c.decimalValue? with
    | some d => CodePoint.digit d
    | none => '?'

namespace Numeral

/-- A numeral in ASCII, without the blanks around it. -/
def trim (t : Text) : Text := Text.stripBy CodePoint.isAsciiBlank (t.map CodePoint.inNumeral)

/-- The sign in front (negative or not) and what follows it. -/
def splitSign : Text → Bool × Text
  | [] => (false, [])
  | c :: rest => if c = '-' then (true, rest) else if c = '+' then (false, rest) else (false, c :: rest)

/-- The values of a non-empty run of digits. -/
def digitRun? (t : Text) : Option (List Nat) :=
  if t.isEmpty then none
  else if t.all CodePoint.isAsciiDigit then some (t.map fun c => c.val - 0x30) else none

/-- The digits of a run in which single underscores may stand between digits. -/
def groupedDigits? (t : Text) : Option (List Nat) :=
  ((t.splitOn '_').mapM digitRun?).map List.flatten

/-- The number with these digits, the highest first. -/
def ofDigits (digits : List Nat) : Nat := digits.foldl (fun n d => 10 * n + d) 0

/-- A number is below the power of ten that its digits reach. The induction is over a number that the digits are
appended to, as `ofDigits` takes them from the left. -/
theorem ofDigits_lt {digits : List Nat} (h : ∀ d ∈ digits, d < 10) :
    ofDigits digits < Nat.pow 10 digits.length := by
  have hfold (n : Nat) : digits.foldl (fun n d => 10 * n + d) n < (n + 1) * Nat.pow 10 digits.length := by
    induction digits generalizing n with
    | nil => simp
    | cons d digits ih =>
      obtain ⟨hd, hrest⟩ := List.forall_mem_cons.1 h
      calc digits.foldl (fun n d => 10 * n + d) (10 * n + d)
          < (10 * n + d + 1) * Nat.pow 10 digits.length := ih hrest _
        _ ≤ ((n + 1) * 10) * Nat.pow 10 digits.length := Nat.mul_le_mul_right _ (by omega)
        _ = (n + 1) * Nat.pow 10 (digits.length + 1) := by
          show _ = (n + 1) * (Nat.pow 10 digits.length * 10)
          rw [Nat.mul_assoc, Nat.mul_comm 10]
  simpa [ofDigits] using hfold 0

/-- The digits of a run are digits. -/
theorem digitRun?_lt {t : Text} {digits : List Nat} (h : digitRun? t = some digits) :
    ∀ d ∈ digits, d < 10 := by
  unfold digitRun? at h
  split at h
  · cases h
  · split at h
    · next hall =>
      obtain rfl := Option.some.inj h
      intro d hd
      obtain ⟨c, hc, rfl⟩ := List.mem_map.1 hd
      have hdigit := List.all_eq_true.1 hall c hc
      simp only [CodePoint.isAsciiDigit, Bool.and_eq_true, decide_eq_true_eq] at hdigit
      omega
    · cases h

/-- So are the digits of a run with underscores, which is read part by part: each part is a run of digits, and
the digits of all parts are put one behind the other. -/
theorem groupedDigits?_lt {t : Text} {digits : List Nat} (h : groupedDigits? t = some digits) :
    ∀ d ∈ digits, d < 10 := by
  -- run by run, as the parts are read one after the other
  have hruns (parts : List Text) (runs : List (List Nat)) (hruns : parts.mapM digitRun? = some runs) :
      ∀ run ∈ runs, ∀ d ∈ run, d < 10 := by
    induction parts generalizing runs with
    | nil =>
      obtain rfl := Option.some.inj hruns
      exact fun run hrun => absurd hrun List.not_mem_nil
    | cons part parts ih =>
      rw [List.mapM_cons] at hruns
      obtain ⟨run, hrun, hruns⟩ := Option.bind_eq_some_iff.1 hruns
      obtain ⟨rest, hrest, heq⟩ := Option.bind_eq_some_iff.1 hruns
      obtain rfl := Option.some.inj heq
      exact List.forall_mem_cons.2 ⟨digitRun?_lt hrun, ih rest hrest⟩
  obtain ⟨runs, hall, rfl⟩ := Option.map_eq_some_iff.1 h
  intro d hd
  obtain ⟨run, hrun, hmem⟩ := List.mem_flatten.1 hd
  exact hruns _ runs hall run hrun d hmem

end Numeral

namespace Whole

/-- A whole number with more digits than this is not read. -/
def maxDigits : Nat := 4300

/-- The whole number that a numeral writes. -/
def read? (t : Text) : Option Int := do
  let (negative, body) := Numeral.splitSign (Numeral.trim t)
  let digits ← Numeral.groupedDigits? body
  -- zeros in front count as digits
  if digits.length > maxDigits then none
  else
    let n := Numeral.ofDigits digits
    some (if negative then -(n : Int) else n)

/-- A whole number in decimal digits, with a minus sign if it is negative. -/
def toText (n : Int) : Text :=
  if n < 0 then CodePoint.ofChar '-' :: Text.ofNat n.natAbs else Text.ofNat n.natAbs

/-! ## Whole numbers are read back

The digits of a number are read back, unless they are too many; no number is read whose digits are. -/

/-- The digits of a number as the standard library has them. -/
theorem ofNat_eq_map (n : Nat) : Text.ofNat n = (Nat.toDigits 10 n).map CodePoint.ofChar := by
  rw [Text.ofNat, Text.ofString, Nat.toString_eq_ofList_toDigits, String.toList_ofList]

/-- A number is written with digits alone. -/
theorem isAsciiDigit_of_mem_ofNat {n : Nat} {c : CodePoint} (h : c ∈ Text.ofNat n) :
    c.isAsciiDigit = true := by
  rw [ofNat_eq_map] at h
  obtain ⟨d, hd, rfl⟩ := List.mem_map.1 h
  have hdigit := Nat.isDigit_of_mem_toDigits (by omega) (by omega) hd
  simp only [Char.isDigit, Bool.and_eq_true, decide_eq_true_eq, ge_iff_le, UInt32.le_iff_toNat_le] at hdigit
  rw [CodePoint.isAsciiDigit, Bool.and_eq_true]
  exact ⟨decide_eq_true hdigit.1, decide_eq_true hdigit.2⟩

theorem ofNat_ne_nil (n : Nat) : Text.ofNat n ≠ [] := by
  rw [ofNat_eq_map]
  exact fun h => Nat.toDigits_ne_nil (List.map_eq_nil_iff.1 h)

/-- A whole number is written with something. -/
theorem toText_ne_nil (n : Int) : toText n ≠ [] := by
  unfold toText
  split
  · exact List.cons_ne_nil _ _
  · exact ofNat_ne_nil _

/-- The digits of a number, as a run without underscores. -/
theorem groupedDigits?_ofNat (n : Nat) :
    Numeral.groupedDigits? (Text.ofNat n) = some ((Text.ofNat n).map fun c => c.val - 0x30) := by
  have hsingle : (Text.ofNat n).splitOn '_' = [Text.ofNat n] :=
    Text.splitOn_of_not_mem fun h => absurd (isAsciiDigit_of_mem_ofNat h) (by decide)
  have hrun : Numeral.digitRun? (Text.ofNat n) = some ((Text.ofNat n).map fun c => c.val - 0x30) := by
    unfold Numeral.digitRun?
    rw [if_neg (by rw [List.isEmpty_iff]; exact ofNat_ne_nil n),
      if_pos (List.all_eq_true.2 fun c hc => isAsciiDigit_of_mem_ofNat hc)]
  unfold Numeral.groupedDigits?
  rw [hsingle, List.mapM_cons, hrun, List.mapM_nil]
  simp

/-- The digits of a number make up the number. -/
theorem ofDigits_ofNat (n : Nat) :
    Numeral.ofDigits ((Text.ofNat n).map fun c => c.val - 0x30) = n := by
  have h := Nat.ofDigitChars_ten_toDigits (n := n)
  rw [Nat.ofDigitChars_eq_foldl] at h
  rw [ofNat_eq_map, Numeral.ofDigits, List.map_map, List.foldl_map]
  exact h

/-- A whole number is written with digits and a minus sign. -/
theorem of_mem_toText {n : Int} {c : CodePoint} (h : c ∈ toText n) :
    c.isAsciiDigit = true ∨ c = CodePoint.ofChar '-' := by
  unfold toText at h
  split at h
  · rcases List.mem_cons.1 h with rfl | h
    · exact .inr rfl
    · exact .inl (isAsciiDigit_of_mem_ofNat h)
  · exact .inl (isAsciiDigit_of_mem_ofNat h)

/-- Nothing in a written number is a blank, or stands for another character, so nothing of it is trimmed. Its
digits and its sign are visible ASCII. -/
theorem trim_toText (n : Int) : Numeral.trim (toText n) = toText n := by
  -- ASCII stands for itself in a numeral
  have hascii : (toText n).map CodePoint.inNumeral = toText n := by
    refine (List.map_congr_left fun c hc => ?_).trans (List.map_id _)
    show c.inNumeral = c
    have hc : c.isAscii = true := by
      rcases of_mem_toText hc with hdigit | rfl
      · simp only [CodePoint.isAsciiDigit, Bool.and_eq_true, decide_eq_true_eq] at hdigit
        simp only [CodePoint.isAscii, decide_eq_true_eq]
        omega
      · decide
    rw [CodePoint.inNumeral, if_pos hc]
  rw [Numeral.trim, hascii]
  refine Text.stripBy_of_forall fun c hc => ?_
  rcases of_mem_toText hc with hdigit | rfl
  · simp only [CodePoint.isAsciiDigit, Bool.and_eq_true, decide_eq_true_eq] at hdigit
    simp only [CodePoint.isAsciiBlank, Bool.or_eq_false_iff, Bool.and_eq_false_iff, decide_eq_false_iff_not,
      beq_eq_false_iff_ne]
    omega
  · decide

/-- A written number is read back as its sign and its digits. Without a sign it begins with a digit, and that
there is one is where the number zero counts. -/
theorem splitSign_toText (n : Int) :
    Numeral.splitSign (Numeral.trim (toText n)) = (decide (n < 0), Text.ofNat n.natAbs) := by
  rw [trim_toText]
  unfold toText
  split
  · next hneg => simp [Numeral.splitSign, hneg]
  · next hneg =>
    rw [decide_eq_false hneg]
    cases hdigits : Text.ofNat n.natAbs with
    | nil => exact absurd hdigits (ofNat_ne_nil _)
    | cons c rest =>
      have hc := isAsciiDigit_of_mem_ofNat (hdigits ▸ List.mem_cons_self : c ∈ Text.ofNat n.natAbs)
      -- the first letter is a digit, so that no sign is read
      have hminus : c ≠ CodePoint.ofChar '-' := by
        rintro rfl
        exact absurd hc (by decide)
      have hplus : c ≠ CodePoint.ofChar '+' := by
        rintro rfl
        exact absurd hc (by decide)
      rw [Numeral.splitSign, if_neg hminus, if_neg hplus]

/-- How many digits a number is written with: no more than `k` if it is below the power of ten. -/
theorem length_ofNat_le_iff {n k : Nat} (hk : 0 < k) : (Text.ofNat n).length ≤ k ↔ n < Nat.pow 10 k := by
  rw [ofNat_eq_map, List.length_map]
  exact Nat.length_toDigits_le_iff (by decide) hk

/-- **A whole number is read as it was written.** The sign is cut off first, what is behind it are the digits of
the magnitude and nothing else, and there are not too many of them to be read. -/
theorem read?_toText {n : Int} (h : n.natAbs < Nat.pow 10 maxDigits) : read? (toText n) = some n := by
  have hlength : ¬((Text.ofNat n.natAbs).map fun c => c.val - 0x30).length > maxDigits := by
    rw [List.length_map, Nat.not_lt]
    exact (length_ofNat_le_iff (by decide)).2 h
  have hsign : (if decide (n < 0) = true then -(n.natAbs : Int) else (n.natAbs : Int)) = n := by
    split
    · next hneg =>
      rw [decide_eq_true_eq] at hneg
      omega
    · next hneg =>
      rw [decide_eq_true_eq] at hneg
      omega
  unfold read?
  rw [splitSign_toText]
  simp only [groupedDigits?_ofNat, Option.bind_eq_bind, Option.bind_some, if_neg hlength, ofDigits_ofNat, hsign]

/-- A number that was read can be read again: it is below what the digits that are admitted reach. The text has
no more digits than are admitted, though some of them may be zeros in front. -/
theorem natAbs_lt_of_read? {t : Text} {n : Int} (h : read? t = some n) :
    n.natAbs < Nat.pow 10 maxDigits := by
  unfold read? at h
  simp only [Option.bind_eq_bind, Option.bind_eq_some_iff] at h
  obtain ⟨digits, hdigits, h⟩ := h
  split at h
  · cases h
  · next hlength =>
    have hbelow := Numeral.ofDigits_lt (Numeral.groupedDigits?_lt hdigits)
    have hreach {count limit : Nat} (hcount : count ≤ limit) : Nat.pow 10 count ≤ Nat.pow 10 limit :=
      Nat.pow_le_pow_right (by decide) hcount
    -- the sign makes no difference to the size
    have habs : n.natAbs = Numeral.ofDigits digits := by
      obtain rfl := Option.some.inj h
      split
      · exact (Int.natAbs_neg _).trans (Int.natAbs_natCast _)
      · exact Int.natAbs_natCast _
    rw [habs]
    exact Nat.lt_of_lt_of_le hbelow (hreach (Nat.not_lt.1 hlength))

end Whole

end ClusterClient
