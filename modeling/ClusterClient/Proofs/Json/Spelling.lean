import ClusterClient.Proofs.Json.Tokens
import ClusterClient.Proofs.Number.Spelling
import Mathlib.Data.List.TakeDrop

/-!
# The texts of a document

A text writes a document if it consists of the tokens of the document with gaps around them, each token in one of
its spellings: marks and constants have one; numbers have a sign, digits, a fraction and an exponent; and each code
point of a string stands for itself or is escaped, in one of the ways there are.

Every such text is read as the document it writes, within what the dialect admits of depth, digits and surrogates.

## The architecture

* **`Token.Inside`**: how the inside of a string is written (`decodeString_of_inside`, `scanFrom?_string`).
* **`Token.IsFront`**, **`Token.IsFraction`**, **`Token.IsExponent`**: the parts of a number
  (`IsFront.numberFrom?_whole`, `IsFront.numberFrom?_real`).
* **`Token.Spells`**: the spellings of a token; **`Token.Lexes`**: a text that is made of tokens.
* **`Token.scan?_of_lexes`**: such a text is scanned to its tokens if every word among them is followed by a mark, as
  it is in documents (`apart_tokens`).
* **`Json.IsWrittenBy`**: a text that writes a document; **`Json.read?_of_isWrittenBy`** reads it.
-/

namespace ClusterClient.Json

/-! ## What a dialect admits -/

namespace Dialect

/-- The dialect keeps the surrogates that a text has, if it has any. -/
def Keeps (dialect : Dialect) (t : Text) : Prop :=
  dialect.keepsLoneSurrogates = true ∨ ∀ c ∈ t, c.isSurrogate = false

/-- The dialect counts no more digits in front of a fraction than it admits. -/
def Spans (dialect : Dialect) (negative : Bool) (digits : List Nat) : Prop :=
  (if dialect.limitsSpans && negative then digits.length + 1 else digits.length) ≤ Whole.maxDigits

end Dialect

namespace Token

/-! ## Strings -/

/-- The inside of a string goes on with the escape of a low surrogate. -/
def BeginsLow (inside : Text) : Prop :=
  ∃ p q r s rest n, inside = CodePoint.ofChar '\\' :: CodePoint.ofChar 'u' :: p :: q :: r :: s :: rest ∧
    fourHex? p q r s = some n ∧ 0xDC00 ≤ n ∧ n ≤ 0xDFFF

theorem not_beginsLow_nil : ¬BeginsLow [] := by
  rintro ⟨p, q, r, s, rest, n, h, -⟩
  cases h

/-- The inside of a string, and the text that it writes. The escapes of two surrogates that make up a pair stand for
one code point. -/
inductive Inside : Text → Text → Prop
  | nil : Inside [] []
  | plain {c : CodePoint} {inside t : Text} (hc : 0x20 ≤ c.val) (hquote : c ≠ CodePoint.ofChar '"')
    (hescape : c ≠ CodePoint.ofChar '\\') (h : Inside inside t) : Inside (c :: inside) (c :: t)
  | short {e c : CodePoint} {inside t : Text} (hc : shortEscape? e = some c) (h : Inside inside t) :
    Inside (CodePoint.ofChar '\\' :: e :: inside) (c :: t)
  | unit {p q r s : CodePoint} {n : Nat} {inside t : Text} (hn : fourHex? p q r s = some n)
    (halone : 0xD800 ≤ n → n ≤ 0xDBFF → ¬BeginsLow inside) (h : Inside inside t) :
    Inside (CodePoint.ofChar '\\' :: CodePoint.ofChar 'u' :: p :: q :: r :: s :: inside) (CodePoint.ofNat n :: t)
  | pair {p q r s p' q' r' s' : CodePoint} {high low : Nat} {inside t : Text} (hhigh : fourHex? p q r s = some high)
    (hfirst : 0xD800 ≤ high ∧ high ≤ 0xDBFF) (hlow : fourHex? p' q' r' s' = some low)
    (hsecond : 0xDC00 ≤ low ∧ low ≤ 0xDFFF) (h : Inside inside t) :
    Inside (CodePoint.ofChar '\\' :: CodePoint.ofChar 'u' :: p :: q :: r :: s ::
        CodePoint.ofChar '\\' :: CodePoint.ofChar 'u' :: p' :: q' :: r' :: s' :: inside)
      (CodePoint.ofNat (0x10000 + (high - 0xD800) * 0x400 + (low - 0xDC00)) :: t)

/-- A hexadecimal digit has a value below sixteen. -/
theorem hexValue?_lt {c : CodePoint} {n : Nat} (h : c.hexValue? = some n) : n < 16 := by
  simp only [CodePoint.hexValue?, CodePoint.isAsciiDigit, Bool.and_eq_true, decide_eq_true_eq] at h
  split at h
  · obtain rfl := Option.some.inj h
    omega
  · split at h
    · obtain rfl := Option.some.inj h
      omega
    · split at h
      · obtain rfl := Option.some.inj h
        omega
      · cases h

/-- Four hexadecimal digits make up a unit, and each of them is a digit. -/
theorem fourHex?_eq_some {p q r s : CodePoint} {n : Nat} (h : fourHex? p q r s = some n) :
    n < 0x10000 ∧ p.hexValue?.isSome = true ∧ q.hexValue?.isSome = true ∧ r.hexValue?.isSome = true ∧
      s.hexValue?.isSome = true := by
  obtain ⟨w, hw, h⟩ := Option.bind_eq_some_iff.1 h
  obtain ⟨x, hx, h⟩ := Option.bind_eq_some_iff.1 h
  obtain ⟨y, hy, h⟩ := Option.bind_eq_some_iff.1 h
  obtain ⟨z, hz, h⟩ := Option.bind_eq_some_iff.1 h
  obtain rfl := Option.some.inj h
  have hw' := hexValue?_lt hw
  have hx' := hexValue?_lt hx
  have hy' := hexValue?_lt hy
  have hz' := hexValue?_lt hz
  exact ⟨by omega, by rw [hw]; rfl, by rw [hx]; rfl, by rw [hy]; rfl, by rw [hz]; rfl⟩

/-- A unit is a code point, which keeps its number. -/
theorem val_ofNat_of_fourHex? {p q r s : CodePoint} {n : Nat} (h : fourHex? p q r s = some n) :
    (CodePoint.ofNat n).val = n :=
  CodePoint.val_ofNat (Nat.lt_trans (fourHex?_eq_some h).1 (by decide))

/-- A code point stands for itself and is not joined with. -/
theorem decodeString_plain {escaped : Bool} {c : CodePoint} {rest out : Text} (hc : 0x20 ≤ c.val)
    (hescape : c ≠ CodePoint.ofChar '\\') :
    decodeString escaped (c :: rest) out = decodeString false rest (c :: out) := by
  rw [decodeString.eq_def]
  exact (if_neg (Nat.not_lt.2 hc)).trans (if_neg hescape)

/-- A short escape stands for its code point and is not joined with. It is no escape by number, which begins
alike. -/
theorem decodeString_short {escaped : Bool} {e c : CodePoint} {rest out : Text} (hc : shortEscape? e = some c) :
    decodeString escaped (CodePoint.ofChar '\\' :: e :: rest) out = decodeString false rest (c :: out) := by
  have hshort : e ≠ CodePoint.ofChar 'u' := by
    rintro rfl
    cases hc
  rw [decodeString.eq_def]
  refine (if_neg (by decide)).trans ((if_pos rfl).trans ((if_neg hshort).trans ?_))
  rw [hc]

/-- **A unit joins with the one before it, or stands for itself.** Whether it may join is kept in `escaped`:
only a unit that was escaped as well, right before it, is joined with. -/
theorem decodeString_unit {escaped : Bool} {p q r s : CodePoint} {rest out : Text} {n : Nat}
    (hn : fourHex? p q r s = some n) :
    decodeString escaped (CodePoint.ofChar '\\' :: CodePoint.ofChar 'u' :: p :: q :: r :: s :: rest) out =
      match escaped, out with
      | true, high :: before =>
        match joinSurrogates? high n with
        | some joined => decodeString false rest (joined :: before)
        | none => decodeString true rest (CodePoint.ofNat n :: out)
      | _, _ => decodeString true rest (CodePoint.ofNat n :: out) := by
  rw [decodeString.eq_def]
  refine (if_neg (by decide)).trans ((if_pos rfl).trans ((if_pos rfl).trans ?_))
  dsimp only
  split
  · next hnone =>
    rw [hnone] at hn
    cases hn
  · next m hm =>
    obtain rfl : m = n := Option.some.inj (hm.symm.trans hn)
    rfl

theorem joinSurrogates?_of_not {high : CodePoint} {n : Nat}
    (h : ¬(0xD800 ≤ high.val ∧ high.val ≤ 0xDBFF ∧ 0xDC00 ≤ n ∧ n ≤ 0xDFFF)) : joinSurrogates? high n = none := by
  refine if_neg fun hjoin => h ?_
  simpa [Bool.and_eq_true, and_assoc] using hjoin

/-- A unit that joins with nothing before it stands for itself. What comes behind may still join with it, and so
the reader remembers that the last code point was escaped. -/
theorem decodeString_unit_alone {escaped : Bool} {p q r s : CodePoint} {rest out : Text} {n : Nat}
    (hn : fourHex? p q r s = some n)
    (halone : escaped = true → ∀ high before, out = high :: before → 0xD800 ≤ high.val → high.val ≤ 0xDBFF →
      ¬(0xDC00 ≤ n ∧ n ≤ 0xDFFF)) :
    decodeString escaped (CodePoint.ofChar '\\' :: CodePoint.ofChar 'u' :: p :: q :: r :: s :: rest) out =
      decodeString true rest (CodePoint.ofNat n :: out) := by
  rw [decodeString_unit hn]
  cases escaped with
  | false => rfl
  | true =>
    cases out with
    | nil => rfl
    | cons high before =>
      have hnone : joinSurrogates? high n = none :=
        joinSurrogates?_of_not fun ⟨hfirst, hlast, hlow⟩ => halone rfl high before rfl hfirst hlast hlow
      dsimp only
      rw [hnone]

/-- **The inside of a string is decoded to the text that it writes**, behind whatever was decoded before it and does
not join with its beginning. -/
theorem decodeString_of_inside {inside t : Text} (h : Inside inside t) (escaped : Bool) (out : Text)
    (hjoin : escaped = true → ∀ high before, out = high :: before → 0xD800 ≤ high.val → high.val ≤ 0xDBFF →
      ¬BeginsLow inside) :
    decodeString escaped inside out = some (out.reverse ++ t) := by
  -- what is decoded is kept in reverse
  have hmove (c : CodePoint) (t out : Text) : (c :: out).reverse ++ t = out.reverse ++ c :: t := by
    rw [List.reverse_cons, List.append_assoc, List.singleton_append]
  -- a low surrogate joins only a high one that was escaped as well and stands right before it
  induction h generalizing escaped out with
  | nil => rw [decodeString.eq_def, List.append_nil]
  | plain hc hquote hescape h ih => rw [decodeString_plain hc hescape, ih false _ nofun, hmove]
  | short hc h ih => rw [decodeString_short hc, ih false _ nofun, hmove]
  | @unit p q r s n inside t hn halone h ih =>
    have hval := val_ofNat_of_fourHex? hn
    rw [decodeString_unit_alone hn fun hescaped high before hout hfirst hlast hlow =>
      hjoin hescaped high before hout hfirst hlast ⟨p, q, r, s, inside, n, rfl, hn, hlow⟩, ih true _ ?_, hmove]
    rintro - high before heq hfirst hlast
    obtain ⟨rfl, rfl⟩ := List.cons.inj heq
    rw [hval] at hfirst hlast
    exact halone hfirst hlast
  | @pair p q r s p' q' r' s' high low inside t hhigh hfirst hlow hsecond h ih =>
    have hval := val_ofNat_of_fourHex? hhigh
    -- the high unit is decoded first, and taken back when the low one comes
    have hjoined : joinSurrogates? (CodePoint.ofNat high) low =
        some (CodePoint.ofNat (0x10000 + (high - 0xD800) * 0x400 + (low - 0xDC00))) := by
      rw [joinSurrogates?, hval]
      exact if_pos (by simp [hfirst, hsecond])
    rw [decodeString_unit_alone hhigh fun _ _ _ _ _ _ hlow => by omega, decodeString_unit hlow]
    dsimp only
    rw [hjoined]
    dsimp only
    rw [ih false _ nofun, hmove]

/-! ### Scanning a string -/

variable {dialect : Dialect}

/-- Inside a string a scan goes on over what is neither a quote nor the mark of an escape. -/
theorem scanFrom?_inside_plain {c : CodePoint} {rest read : Text} {done : List Token}
    (hquote : c ≠ CodePoint.ofChar '"') (hescape : c ≠ CodePoint.ofChar '\\') :
    scanFrom? dialect (c :: rest) (.string false read) done =
      scanFrom? dialect rest (.string false (c :: read)) done := by
  rw [scanFrom?, step?, if_neg hquote]
  simp [hescape]

/-- What stands behind the mark of an escape is passed over, also if it is a quote. -/
theorem scanFrom?_inside_escape {e : CodePoint} {rest read : Text} {done : List Token} :
    scanFrom? dialect (CodePoint.ofChar '\\' :: e :: rest) (.string false read) done =
      scanFrom? dialect rest (.string false (e :: CodePoint.ofChar '\\' :: read)) done := by
  rw [scanFrom?, step?, if_neg (by decide)]
  rfl

/-- An escape by number is passed over as a mark with a letter and four digits, none of which could end the
string. -/
theorem scanFrom?_inside_unit {p q r s : CodePoint} {n : Nat} (hn : fourHex? p q r s = some n) {rest read : Text}
    {done : List Token} :
    scanFrom? dialect (CodePoint.ofChar '\\' :: CodePoint.ofChar 'u' :: p :: q :: r :: s :: rest) (.string false read)
        done =
      scanFrom? dialect rest
        (.string false (s :: r :: q :: p :: CodePoint.ofChar 'u' :: CodePoint.ofChar '\\' :: read)) done := by
  have hplain {c : CodePoint} (hc : c.hexValue?.isSome = true) :
      c ≠ CodePoint.ofChar '"' ∧ c ≠ CodePoint.ofChar '\\' := by
    constructor <;> rintro rfl <;> cases hc
  obtain ⟨-, hp, hq, hr, hs⟩ := fourHex?_eq_some hn
  rw [scanFrom?_inside_escape, scanFrom?_inside_plain (hplain hp).1 (hplain hp).2,
    scanFrom?_inside_plain (hplain hq).1 (hplain hq).2, scanFrom?_inside_plain (hplain hr).1 (hplain hr).2,
    scanFrom?_inside_plain (hplain hs).1 (hplain hs).2]

/-- **The inside of a string holds no quote that would end it.** Scanning finds where a string ends before its
escapes are looked into, and this is why it finds the right end. -/
theorem scanFrom?_inside {inside t : Text} (h : Inside inside t) (rest read : Text) (done : List Token) :
    scanFrom? dialect (inside ++ rest) (.string false read) done =
      scanFrom? dialect rest (.string false (inside.reverse ++ read)) done := by
  induction h generalizing read with
  | nil => rfl
  | plain hc hquote hescape h ih =>
    rw [List.cons_append, scanFrom?_inside_plain hquote hescape, ih]
    simp
  | short hc h ih =>
    rw [List.cons_append, List.cons_append, scanFrom?_inside_escape, ih]
    simp
  | unit hn halone h ih =>
    simp only [List.cons_append]
    rw [scanFrom?_inside_unit hn, ih]
    simp
  | pair hhigh hfirst hlow hsecond h ih =>
    simp only [List.cons_append]
    rw [scanFrom?_inside_unit hhigh, scanFrom?_inside_unit hlow, ih]
    simp

/-- **A string is scanned to the text that it writes**: first its end is found, then what is inside is decoded.
-/
theorem scanFrom?_string {inside t : Text} (h : Inside inside t) (hkeeps : dialect.Keeps t) (rest : Text)
    (done : List Token) :
    scanFrom? dialect (CodePoint.ofChar '"' :: (inside ++ CodePoint.ofChar '"' :: rest)) .between done =
      scanFrom? dialect rest .between (.text t :: done) := by
  have hdecoded := decodeString_of_inside h false [] nofun
  have htoken : ofString? dialect inside = some (.text t) := by
    rw [ofString?, hdecoded]
    refine if_neg ?_
    rcases hkeeps with hkeeps | hplain
    · simp [hkeeps]
    · simpa using fun _ => hplain
  have hopen : step? dialect (CodePoint.ofChar '"') done .between = some (.string false [], done) := rfl
  rw [scanFrom?, hopen]
  dsimp only
  rw [scanFrom?_inside h, List.append_nil, scanFrom?, step?, if_pos rfl, List.reverse_reverse, htoken]
  rfl

/-! ## Numbers -/

/-- The fraction of a number, if it has one. -/
inductive IsFraction : Text → List Nat → Prop
  | absent : IsFraction [] []
  | point {run : Text} {values : List Nat} (h : Numeral.digitRun? run = some values) :
    IsFraction (CodePoint.ofChar '.' :: run) values

/-- The exponent of a number, if it has one. -/
inductive IsExponent : Text → Int → Prop
  | absent : IsExponent [] 0
  | marked {mark : CodePoint} {sign run : Text} {negative : Bool} {values : List Nat}
    (hmark : mark = CodePoint.ofChar 'e' ∨ mark = CodePoint.ofChar 'E') (hsign : Numeral.IsSign sign negative)
    (h : Numeral.digitRun? run = some values) : IsExponent (mark :: (sign ++ run)) (Whole.signed negative values)

/-- The sign of a negative number. -/
def minus (negative : Bool) : Text := if negative then "-" else []

/-- The digits in front of a fraction: a zero stands alone. -/
structure IsFront (run : Text) (values : List Nat) : Prop where
  digits : Numeral.digitRun? run = some values
  canonical : values.head? = some 0 → values.length = 1

/-- A run of digits is not empty, and its values are those of its digits. -/
theorem digitRun?_eq_some {run : Text} {values : List Nat} (h : Numeral.digitRun? run = some values) :
    run ≠ [] ∧ (∀ c ∈ run, c.isAsciiDigit = true) ∧ values = run.map fun c => c.val - 0x30 := by
  unfold Numeral.digitRun? at h
  split at h
  · cases h
  · next hempty =>
    split at h
    · next hall =>
      exact ⟨fun hnil => hempty (List.isEmpty_iff.2 hnil), List.all_eq_true.1 hall, (Option.some.inj h).symm⟩
    · cases h

/-- The digits at the beginning are taken up to the first code point that is none, if there is one. So a run of
digits is found as a whole, whatever stands behind it. -/
theorem spanDigits_append {run rest : Text} {values : List Nat} (h : Numeral.digitRun? run = some values)
    (hrest : ∀ c, rest.head? = some c → c.isAsciiDigit = false) :
    Binary64.spanDigits (run ++ rest) = (values, rest) := by
  obtain ⟨-, hdigits, rfl⟩ := digitRun?_eq_some h
  have htake : (run ++ rest).takeWhile CodePoint.isAsciiDigit = run := by
    rw [List.takeWhile_append_of_pos hdigits]
    cases rest with
    | nil => rw [List.takeWhile_nil, List.append_nil]
    | cons c rest => rw [List.takeWhile_cons, hrest c rfl, if_neg Bool.false_ne_true, List.append_nil]
  have hdrop : (run ++ rest).dropWhile CodePoint.isAsciiDigit = rest := by
    rw [List.dropWhile_append_of_pos hdigits]
    cases rest with
    | nil => rfl
    | cons c rest => rw [List.dropWhile_cons, hrest c rfl, if_neg Bool.false_ne_true]
  unfold Binary64.spanDigits
  rw [List.span_eq_takeWhile_dropWhile, htake, hdrop]

/-- An exponent is read to its value: the mark may be of either case, the sign may be left out. Behind the mark
there is a run of digits, so that a sign is not mistaken for one. -/
theorem exponentPart?_of_isExponent {t : Text} {e : Int} (h : IsExponent t e) : Binary64.exponentPart? t = some e := by
  cases h with
  | absent => rfl
  | @marked mark sign run negative values hmark hsign hrun =>
    obtain ⟨hne, hdigits, -⟩ := digitRun?_eq_some hrun
    -- the mark, then a sign with digits behind it
    have hlower : mark.toAsciiLower = CodePoint.ofChar 'e' := by
      rcases hmark with rfl | rfl <;> decide
    have hhead : ∃ c, run.head? = some c ∧ c.decimalValue?.isSome = true := by
      cases run with
      | nil => exact absurd rfl hne
      | cons c run =>
        have hdigit := hdigits c List.mem_cons_self
        rw [CodePoint.isAsciiDigit, Bool.and_eq_true, decide_eq_true_eq, decide_eq_true_eq] at hdigit
        have hascii : c.isAscii = true := by
          rw [CodePoint.isAscii, decide_eq_true_eq]
          omega
        refine ⟨c, rfl, ?_⟩
        rw [CodePoint.decimalValue?_of_isAscii hascii, if_pos (hdigits c List.mem_cons_self)]
        rfl
    rw [Binary64.exponentPart?, if_pos hlower, Numeral.splitSign_append hsign hhead]
    show (Numeral.digitRun? run).map _ = _
    rw [hrun]
    rfl

/-- An exponent begins with its mark. -/
theorem IsExponent.of_head? {t : Text} {e : Int} (h : IsExponent t e) {c : CodePoint} (hc : t.head? = some c) :
    c = CodePoint.ofChar 'e' ∨ c = CodePoint.ofChar 'E' := by
  cases h with
  | absent => cases hc
  | marked hmark =>
    obtain rfl := Option.some.inj hc
    exact hmark

/-- So digits in front of an exponent end there. -/
theorem IsExponent.head_not_digit {t : Text} {e : Int} (h : IsExponent t e) :
    ∀ c, t.head? = some c → c.isAsciiDigit = false := by
  intro c hc
  rcases h.of_head? hc with rfl | rfl <;> decide

/-- And it is not taken for a fraction. -/
theorem IsExponent.head?_ne_point {t : Text} {e : Int} (h : IsExponent t e) :
    t.head? ≠ some (CodePoint.ofChar '.') := by
  intro hc
  rcases h.of_head? hc with hpoint | hpoint <;> exact absurd hpoint (by decide)

/-- What stands behind the front of a number is no digit. -/
theorem IsFraction.head_not_digit {fraction exponent : Text} {values : List Nat} {e : Int}
    (h : IsFraction fraction values) (hexponent : IsExponent exponent e) :
    ∀ c, (fraction ++ exponent).head? = some c → c.isAsciiDigit = false := by
  cases h with
  | absent => exact hexponent.head_not_digit
  | point hrun =>
    intro c hc
    obtain rfl := Option.some.inj hc
    decide

namespace IsFront

variable {run rest : Text} {values : List Nat}

/-- The front of a number begins with a digit. -/
theorem exists_head (h : IsFront run values) : ∃ c run', run = c :: run' ∧ c.isAsciiDigit = true := by
  obtain ⟨hne, hdigits, -⟩ := digitRun?_eq_some h.digits
  cases run with
  | nil => exact absurd rfl hne
  | cons c run => exact ⟨c, run, rfl, hdigits c List.mem_cons_self⟩

theorem ne_nil (h : IsFront run values) : run ≠ [] := (digitRun?_eq_some h.digits).1

/-- A number is refused for its front if it has no digit or a zero in front of others. `IsFront` is made so that
neither is the case. -/
theorem not_refused (h : IsFront run values) :
    (values.isEmpty || (decide (values.head? = some 0) && decide (1 < values.length))) = false := by
  obtain ⟨c, run', rfl, -⟩ := h.exists_head
  obtain ⟨-, -, hvalues⟩ := digitRun?_eq_some h.digits
  have hempty : values.isEmpty = false := by
    rw [hvalues]
    rfl
  rw [hempty, Bool.false_or, Bool.and_eq_false_iff, decide_eq_false_iff_not, decide_eq_false_iff_not]
  by_cases hzero : values.head? = some 0
  · exact .inr (by rw [h.canonical hzero]; omega)
  · exact .inl hzero

/-- A word that begins with a sign and the digits of a number is read as one, whatever stands behind the digits.
-/
theorem number?_append (h : IsFront run values) (negative : Bool)
    (hrest : ∀ c, rest.head? = some c → c.isAsciiDigit = false) :
    number? dialect (minus negative ++ (run ++ rest)) = numberFrom? dialect negative values rest := by
  have hspan := spanDigits_append h.digits hrest
  cases negative with
  | true =>
    have hsign : (minus true ++ (run ++ rest)).head? = some (CodePoint.ofChar '-') := rfl
    have htail : (minus true ++ (run ++ rest)).tail = run ++ rest := rfl
    unfold number?
    dsimp only
    rw [if_pos hsign, htail, hspan, decide_eq_true hsign]
  | false =>
    obtain ⟨c, run', rfl, hdigit⟩ := h.exists_head
    have hsign : ¬(c :: run' ++ rest).head? = some (CodePoint.ofChar '-') := by
      intro hhead
      obtain rfl := Option.some.inj hhead
      exact absurd hdigit (by decide)
    show number? dialect (c :: run' ++ rest) = _
    unfold number?
    dsimp only
    rw [if_neg hsign, hspan, decide_eq_false hsign]

/-- **Digits alone are a whole number**, if the dialect admits that many. -/
theorem numberFrom?_whole (h : IsFront run values) {negative : Bool} (hspans : dialect.Spans negative values) :
    numberFrom? dialect negative values [] = some (.whole (Whole.signed negative values)) := by
  unfold numberFrom?
  rw [h.not_refused]
  exact (if_neg Bool.false_ne_true).trans ((if_pos rfl).trans (if_neg (Nat.not_lt.2 hspans)))

/-- **A fraction or an exponent makes a number of double precision**, which is the nearest one to the decimal
that all the digits make up. A dialect that counts spans counts the digits in front of the point here too. -/
theorem numberFrom?_real (h : IsFront run values) {negative : Bool} {fraction exponent : Text} {more : List Nat}
    {e : Int} (hfraction : IsFraction fraction more) (hexponent : IsExponent exponent e)
    (hreal : fraction ++ exponent ≠ []) (hspans : dialect.limitsSpans = true → dialect.Spans negative values) :
    numberFrom? dialect negative values (fraction ++ exponent) =
      some (.real (Binary64.ofScientific negative ⟨values ++ more, e - more.length⟩)) := by
  -- only the digits in front of the point are counted
  have hsize : ¬(dialect.limitsSpans && decide (Whole.maxDigits <
      if dialect.limitsSpans && negative then values.length + 1 else values.length)) = true := by
    rw [Bool.and_eq_true, decide_eq_true_eq]
    rintro ⟨hlimits, hlong⟩
    exact Nat.not_lt.2 (hspans hlimits) hlong
  unfold numberFrom?
  dsimp only
  rw [h.not_refused, if_neg Bool.false_ne_true, if_neg (fun hempty => hreal (List.isEmpty_iff.1 hempty)), if_neg hsize]
  -- the two places where digits behind the point may be missing are told apart by the point itself
  cases hfraction with
  | absent =>
    have hpoint : ¬([] ++ exponent : Text).head? = some (CodePoint.ofChar '.') := hexponent.head?_ne_point
    rw [if_neg hpoint, decide_eq_false hpoint]
    dsimp only
    rw [Bool.false_and, if_neg Bool.false_ne_true, List.nil_append, exponentPart?_of_isExponent hexponent]
    rfl
  | @point run' _ hrun =>
    have hpoint : (CodePoint.ofChar '.' :: run' ++ exponent).head? = some (CodePoint.ofChar '.') := rfl
    have hmore : more.isEmpty = false := by
      obtain ⟨hne, -, rfl⟩ := digitRun?_eq_some hrun
      rwa [List.isEmpty_eq_false_iff, Ne, List.map_eq_nil_iff]
    rw [if_pos hpoint, decide_eq_true hpoint, List.cons_append, List.tail_cons,
      spanDigits_append hrun hexponent.head_not_digit]
    dsimp only
    rw [hmore, Bool.and_false, if_neg Bool.false_ne_true, exponentPart?_of_isExponent hexponent]
    rfl

end IsFront

/-! ## Words -/

/-- A number is none of the constants, so that a word that begins like one is read as a number. Behind the sign
that some of them have, constants begin with a letter and numbers with a digit. -/
theorem ofWord?_of_isFront {run : Text} {values : List Nat} (h : IsFront run values) (negative : Bool) (rest : Text) :
    ofWord? dialect (minus negative ++ (run ++ rest)) = number? dialect (minus negative ++ (run ++ rest)) := by
  obtain ⟨c, run', rfl, hdigit⟩ := h.exists_head
  -- behind its signs a constant begins with a letter, and a number with a digit
  have hother {word : Text} (hword : ((word.dropWhile (· = CodePoint.ofChar '-')).head?.map CodePoint.isAsciiDigit) =
      some false) : minus negative ++ (c :: run' ++ rest) ≠ word := by
    rintro rfl
    have hminus : decide (c = CodePoint.ofChar '-') = false := by
      rw [decide_eq_false_iff_not]
      rintro rfl
      exact absurd hdigit (by decide)
    have hfirst : (minus negative ++ (c :: run' ++ rest)).dropWhile (· = CodePoint.ofChar '-') = c :: run' ++ rest := by
      cases negative with
      | true =>
        show ((CodePoint.ofChar '-' :: c :: (run' ++ rest)).dropWhile _ : Text) = _
        rw [List.dropWhile_cons, if_pos (by decide), List.dropWhile_cons, hminus, if_neg Bool.false_ne_true]
        rfl
      | false =>
        show ((c :: (run' ++ rest)).dropWhile _ : Text) = _
        rw [List.dropWhile_cons, hminus, if_neg Bool.false_ne_true]
        rfl
    rw [hfirst] at hword
    have hfalse : c.isAsciiDigit = false := Option.some.inj hword
    rw [hdigit] at hfalse
    cases hfalse
  unfold ofWord?
  rw [if_neg (hother (by decide)), if_neg (hother (by decide)), if_neg (hother (by decide)), if_neg (hother (by decide)),
    if_neg (hother (by decide)), if_neg (hother (by decide))]

theorem not_isWordPart_of_isGap {c : CodePoint} (h : isGap c = true) : isWordPart c = false := by
  simp only [isGap, Bool.or_eq_true, decide_eq_true_eq] at h
  rcases h with ((rfl | rfl) | rfl) | rfl <;> decide

/-- A word goes on through its parts, whatever it began with. -/
theorem scanFrom?_parts {parts : Text} (hparts : ∀ c ∈ parts, isWordPart c = true) (read rest : Text)
    (done : List Token) :
    scanFrom? dialect (parts ++ rest) (.word read) done = scanFrom? dialect rest (.word (parts.reverse ++ read)) done := by
  induction parts generalizing read with
  | nil => rfl
  | cons c parts ih =>
    obtain ⟨hc, hparts⟩ := List.forall_mem_cons.1 hparts
    rw [List.cons_append, scanFrom?, step?, if_pos hc]
    dsimp only
    rw [ih hparts, List.reverse_cons, List.append_assoc]
    rfl

/-- A word ends where no part of one follows, be it the end of the text or another code point. It is read then,
all at once. -/
theorem scanFrom?_word_end {word rest : Text} {token : Token} (htoken : ofWord? dialect word = some token)
    (hrest : ∀ c, rest.head? = some c → isWordPart c = false) (done : List Token) :
    scanFrom? dialect rest (.word word.reverse) done = scanFrom? dialect rest .between (token :: done) := by
  cases rest with
  | nil =>
    rw [scanFrom?, finish?, List.reverse_reverse, htoken]
    rfl
  | cons c rest =>
    rw [scanFrom?, step?, hrest c rfl, if_neg Bool.false_ne_true, List.reverse_reverse, htoken]
    rfl

/-- **A word is scanned to its token**: its first part begins it, the others follow, and it ends where it must.
-/
theorem scanFrom?_word {word rest : Text} {token : Token} (hne : word ≠ []) (hparts : ∀ c ∈ word, isWordPart c = true)
    (htoken : ofWord? dialect word = some token) (hrest : ∀ c, rest.head? = some c → isWordPart c = false)
    (done : List Token) :
    scanFrom? dialect (word ++ rest) .between done = scanFrom? dialect rest .between (token :: done) := by
  cases word with
  | nil => exact absurd rfl hne
  | cons c parts =>
    obtain ⟨hc, hparts⟩ := List.forall_mem_cons.1 hparts
    have hgap : ¬isGap c = true := by
      intro hgap
      rw [not_isWordPart_of_isGap hgap] at hc
      cases hc
    have hquote : c ≠ CodePoint.ofChar '"' := by
      rintro rfl
      exact absurd hc (by decide)
    -- asked for in this order: a blank, a quote, a part of a word
    have hbegin : fromGap? c done = some (.word [c], done) :=
      (if_neg hgap).trans ((if_neg hquote).trans (if_pos hc))
    rw [List.cons_append, scanFrom?, step?, hbegin]
    dsimp only
    rw [scanFrom?_parts hparts, ← List.reverse_cons, scanFrom?_word_end htoken hrest]

/-! ## Tokens -/

/-- The spellings of a token. -/
inductive Spells (dialect : Dialect) : Token → Text → Prop
  | openList : Spells dialect .openList "["
  | closeList : Spells dialect .closeList "]"
  | openObject : Spells dialect .openObject "\x7b"
  | closeObject : Spells dialect .closeObject "\x7d"
  | comma : Spells dialect .comma ","
  | colon : Spells dialect .colon ":"
  | null : Spells dialect .null "null"
  | yes : Spells dialect (.flag true) "true"
  | no : Spells dialect (.flag false) "false"
  | whole {negative : Bool} {run : Text} {values : List Nat} (hrun : IsFront run values)
    (hspans : dialect.Spans negative values) :
    Spells dialect (.whole (Whole.signed negative values)) (minus negative ++ run)
  | real {negative : Bool} {run fraction exponent : Text} {values more : List Nat} {e : Int} (hrun : IsFront run values)
    (hfraction : IsFraction fraction more) (hexponent : IsExponent exponent e) (hreal : fraction ++ exponent ≠ [])
    (hspans : dialect.limitsSpans = true → dialect.Spans negative values) :
    Spells dialect (.real (Binary64.ofScientific negative ⟨values ++ more, e - more.length⟩))
      (minus negative ++ (run ++ (fraction ++ exponent)))
  | text {inside t : Text} (h : Inside inside t) (hkeeps : dialect.Keeps t) :
    Spells dialect (.text t) (CodePoint.ofChar '"' :: (inside ++ [CodePoint.ofChar '"']))

/-- A code point that strings hold as it is, in every dialect. -/
def isPlain (c : CodePoint) : Bool := 0x20 ≤ c.val && c ≠ '"' && c ≠ '\\' && !c.isSurrogate

/-- Plain code points are written as they are. -/
theorem Inside.of_isPlain {t : Text} (h : t.all isPlain = true) : Inside t t := by
  induction t with
  | nil => exact .nil
  | cons c t ih =>
    obtain ⟨hc, ht⟩ := Bool.and_eq_true_iff.1 h
    simp only [isPlain, Bool.and_eq_true, decide_eq_true_eq] at hc
    obtain ⟨⟨⟨hvisible, hquote⟩, hescape⟩, -⟩ := hc
    exact .plain hvisible hquote hescape (ih ht)

/-- A text of plain code points is spelled by itself, between quotes. -/
theorem Spells.of_isPlain {t : Text} (h : t.all isPlain = true) :
    Spells dialect (.text t) (CodePoint.ofChar '"' :: (t ++ [CodePoint.ofChar '"'])) := by
  refine .text (.of_isPlain h) (.inr fun c hc => ?_)
  have hc := List.all_eq_true.1 h c hc
  simp only [isPlain, Bool.and_eq_true, Bool.not_eq_true'] at hc
  exact hc.2

/-- A token that is spelled as a word. -/
def isWord : Token → Bool
  | null | flag _ | whole _ | real _ => true
  | _ => false

/-- A token that is spelled as a mark. -/
def isMark : Token → Bool
  | openList | closeList | openObject | closeObject | comma | colon => true
  | _ => false

/-- The code points that words are made of: digits, and what stands between them in a number. The next four
lemmas say so of each part of a number. -/
theorem isWordPart_of_isAsciiDigit {c : CodePoint} (h : c.isAsciiDigit = true) : isWordPart c = true := by
  simp [isWordPart, h]

theorem isWordPart_of_mem_minus (negative : Bool) : ∀ c ∈ minus negative, isWordPart c = true := by
  cases negative with
  | false => exact List.forall_mem_nil _
  | true => exact List.all_eq_true.1 (by decide)

theorem IsFront.isWordPart_of_mem {run : Text} {values : List Nat} (h : IsFront run values) :
    ∀ c ∈ run, isWordPart c = true :=
  fun c hc => isWordPart_of_isAsciiDigit ((digitRun?_eq_some h.digits).2.1 c hc)

/-- The point and the digits behind it. -/
theorem IsFraction.isWordPart_of_mem {fraction : Text} {values : List Nat} (h : IsFraction fraction values) :
    ∀ c ∈ fraction, isWordPart c = true := by
  cases h with
  | absent => exact fun c hc => absurd hc List.not_mem_nil
  | point hrun =>
    refine List.forall_mem_cons.2 ⟨by decide, fun c hc => ?_⟩
    exact isWordPart_of_isAsciiDigit ((digitRun?_eq_some hrun).2.1 c hc)

/-- The mark, the sign and the digits of an exponent. -/
theorem IsExponent.isWordPart_of_mem {exponent : Text} {e : Int} (h : IsExponent exponent e) :
    ∀ c ∈ exponent, isWordPart c = true := by
  cases h with
  | absent => exact fun c hc => absurd hc List.not_mem_nil
  | marked hmark hsign hrun =>
    have he : ∀ e, e = CodePoint.ofChar 'e' ∨ e = CodePoint.ofChar 'E' → isWordPart e = true := by
      rintro e (rfl | rfl) <;> decide
    refine List.forall_mem_cons.2 ⟨he _ hmark, List.forall_mem_append.2 ⟨?_, fun c hc => ?_⟩⟩
    · cases hsign with
      | absent => exact fun c hc => absurd hc List.not_mem_nil
      | _ => exact List.all_eq_true.1 (by decide)
    · exact isWordPart_of_isAsciiDigit ((digitRun?_eq_some hrun).2.1 c hc)

/-- **What is spelled as a word is made of parts of words, and read back.** This is all that scanning needs to
know of numbers and constants. -/
theorem Spells.of_isWord {token : Token} {word : Text} (h : Spells dialect token word) (hword : token.isWord = true) :
    word ≠ [] ∧ (∀ c ∈ word, isWordPart c = true) ∧ ofWord? dialect word = some token := by
  cases h with
  | null => exact ⟨by decide, List.all_eq_true.1 (by decide), rfl⟩
  | yes => exact ⟨by decide, List.all_eq_true.1 (by decide), rfl⟩
  | no => exact ⟨by decide, List.all_eq_true.1 (by decide), rfl⟩
  | @whole negative run values hrun hspans =>
    have hend : ∀ c, ([] : Text).head? = some c → c.isAsciiDigit = false := nofun
    refine ⟨by simp [hrun.ne_nil], List.forall_mem_append.2 ⟨isWordPart_of_mem_minus negative, hrun.isWordPart_of_mem⟩, ?_⟩
    rw [← List.append_nil run, ofWord?_of_isFront hrun, hrun.number?_append negative hend, hrun.numberFrom?_whole hspans]
  | @real negative run fraction exponent values more e hrun hfraction hexponent hreal hspans =>
    have hbehind := List.forall_mem_append.2 ⟨hfraction.isWordPart_of_mem, hexponent.isWordPart_of_mem⟩
    have hnumber := List.forall_mem_append.2 ⟨hrun.isWordPart_of_mem, hbehind⟩
    refine ⟨by simp [hrun.ne_nil], List.forall_mem_append.2 ⟨isWordPart_of_mem_minus negative, hnumber⟩, ?_⟩
    rw [ofWord?_of_isFront hrun, hrun.number?_append negative (hfraction.head_not_digit hexponent),
      hrun.numberFrom?_real hfraction hexponent hreal hspans]
  | _ => cases hword

/-- **A token is scanned from each of its spellings**, if no word runs on behind it. A word is scanned up to the
end of it, a string up to its closing quote, and a mark is a token at once. -/
theorem scanFrom?_of_spells {token : Token} {word : Text} (h : Spells dialect token word) (rest : Text)
    (hrest : token.isWord = true → ∀ c, rest.head? = some c → isWordPart c = false) (done : List Token) :
    scanFrom? dialect (word ++ rest) .between done = scanFrom? dialect rest .between (token :: done) := by
  cases hword : token.isWord with
  | true =>
    obtain ⟨hne, hparts, htoken⟩ := h.of_isWord hword
    exact scanFrom?_word hne hparts htoken (hrest hword) done
  | false =>
    cases h with
    | @text inside t h hkeeps =>
      rw [List.cons_append, List.append_assoc]
      exact scanFrom?_string h hkeeps rest done
    | null => cases hword
    | yes => cases hword
    | no => cases hword
    | whole => cases hword
    | real => cases hword
    | _ => rfl

/-- A text that is made of tokens, with gaps before, between and behind them. -/
inductive Lexes (dialect : Dialect) : List Token → Text → Prop
  | nil {gap : Text} (hgap : ∀ c ∈ gap, isGap c = true) : Lexes dialect [] gap
  | cons {token : Token} {tokens : List Token} {gap word rest : Text} (hgap : ∀ c ∈ gap, isGap c = true)
    (hword : Spells dialect token word) (hrest : Lexes dialect tokens rest) :
    Lexes dialect (token :: tokens) (gap ++ (word ++ rest))

theorem Lexes.next {token : Token} {tokens : List Token} {word rest : Text} (hword : Spells dialect token word)
    (hrest : Lexes dialect tokens rest) : Lexes dialect (token :: tokens) (word ++ rest) :=
  .cons (fun _ hc => absurd hc List.not_mem_nil) hword hrest

/-- Behind each word stands a mark, if anything. -/
def Apart : List Token → Prop
  | [] => True
  | token :: rest => (token.isWord = true → ∀ next, rest.head? = some next → next.isMark = true) ∧ Apart rest

/-- Blanks between tokens are passed over. -/
theorem scanFrom?_gap {gap : Text} (hgap : ∀ c ∈ gap, isGap c = true) (rest : Text) (done : List Token) :
    scanFrom? dialect (gap ++ rest) .between done = scanFrom? dialect rest .between done := by
  induction gap with
  | nil => rfl
  | cons c gap ih =>
    obtain ⟨hc, hgap⟩ := List.forall_mem_cons.1 hgap
    have hpassed : fromGap? c done = some (.between, done) := if_pos hc
    rw [List.cons_append, scanFrom?, step?, hpassed]
    exact ih hgap

/-- A text of tokens that begins with a mark begins with no part of a word, whatever gap is in front. -/
theorem Lexes.head_not_wordPart {tokens : List Token} {t : Text} (h : Lexes dialect tokens t)
    (hmark : ∀ next, tokens.head? = some next → next.isMark = true) :
    ∀ c, t.head? = some c → isWordPart c = false := by
  intro c hc
  cases h with
  | nil hgap => exact not_isWordPart_of_isGap (hgap c (List.mem_of_head? hc))
  | @cons token tokens gap word rest hgap hword hrest =>
    rw [List.head?_append] at hc
    rcases Option.or_eq_some_iff.1 hc with hfirst | ⟨-, hfirst⟩
    · exact not_isWordPart_of_isGap (hgap c (List.mem_of_head? hfirst))
    · have hmark := hmark token rfl
      -- a mark is spelled as itself
      cases hword <;> first | (cases hmark; done) | (obtain rfl := Option.some.inj hfirst; decide)

/-- **A text of tokens is scanned to them.** Induction on the tokens; where a word ends, the mark behind it is
what ends it. -/
theorem scan?_of_lexes {tokens : List Token} {t : Text} (h : Lexes dialect tokens t) (hapart : Apart tokens) :
    scan? dialect t = some tokens := by
  have hfrom (done : List Token) : scanFrom? dialect t .between done = some (done.reverse ++ tokens) := by
    induction h generalizing done with
    | @nil gap hgap =>
      rw [← List.append_nil gap, scanFrom?_gap hgap, List.append_nil]
      rfl
    | @cons token tokens gap word rest hgap hword hrest ih =>
      rw [scanFrom?_gap hgap, scanFrom?_of_spells hword rest fun hisWord => hrest.head_not_wordPart (hapart.1 hisWord),
        ih hapart.2, List.reverse_cons, List.append_assoc]
      rfl
  exact hfrom []

/-- Tokens that may stand behind a word. -/
structure MayFollow (tokens : List Token) : Prop where
  mark : ∀ next, tokens.head? = some next → next.isMark = true
  apart : Apart tokens

theorem MayFollow.nil : MayFollow [] := ⟨nofun, trivial⟩

/-- A mark may stand behind a word, before whatever words stand apart. -/
theorem MayFollow.of_mark {token : Token} {rest : List Token} (hmark : token.isMark = true)
    (hword : token.isWord = false) (hrest : Apart rest) : MayFollow (token :: rest) := by
  refine ⟨fun next hnext => ?_, fun hisWord => ?_, hrest⟩
  · obtain rfl := Option.some.inj hnext
    exact hmark
  · rw [hword] at hisWord
    cases hisWord

end Token

open Token in
mutual

/-- **The words of a document stand apart, and so do they from what follows.** Behind a value there is always a
comma, a closing bracket or the end, in every container, so no proof of scanning has to look at blanks. -/
theorem apart_tokens (document : Json) {rest : List Token} (hrest : MayFollow rest) :
    Apart (document.tokens ++ rest) := by
  match document with
  | .null => exact ⟨fun _ => hrest.mark, hrest.apart⟩
  | .flag b => exact ⟨fun _ => hrest.mark, hrest.apart⟩
  | .whole n => exact ⟨fun _ => hrest.mark, hrest.apart⟩
  | .real x => exact ⟨fun _ => hrest.mark, hrest.apart⟩
  | .text t => exact ⟨nofun, hrest.apart⟩
  | .list [] => exact ⟨nofun, nofun, hrest.apart⟩
  | .list (item :: items) =>
    simp only [tokens, List.cons_append, List.append_assoc]
    exact ⟨nofun, apart_tokens item (mayFollow_moreItems items (.of_mark rfl rfl hrest.apart))⟩
  | .object [] => exact ⟨nofun, nofun, hrest.apart⟩
  | .object ((name, value) :: members) =>
    simp only [tokens, List.cons_append, List.append_assoc]
    exact ⟨nofun, nofun, nofun, apart_tokens value (mayFollow_moreMembers members (.of_mark rfl rfl hrest.apart))⟩

/-- Behind the first item there is a comma or what follows the list. -/
theorem mayFollow_moreItems (items : List Json) {rest : List Token} (hrest : MayFollow rest) :
    MayFollow (moreItems items ++ rest) := by
  match items with
  | [] => exact hrest
  | item :: items =>
    simp only [moreItems, List.cons_append, List.append_assoc]
    exact .of_mark rfl rfl (apart_tokens item (mayFollow_moreItems items hrest))

/-- Behind the first member there is a comma or what follows the object. -/
theorem mayFollow_moreMembers (members : List (Text × Json)) {rest : List Token} (hrest : MayFollow rest) :
    MayFollow (moreMembers members ++ rest) := by
  match members with
  | [] => exact hrest
  | (name, value) :: members =>
    simp only [moreMembers, List.cons_append, List.append_assoc]
    exact .of_mark rfl rfl ⟨nofun, nofun, apart_tokens value (mayFollow_moreMembers members hrest)⟩

end

/-! ## Documents -/

/-- A text writes a document: it consists of the document's tokens. -/
def IsWrittenBy (dialect : Dialect) (document : Json) (t : Text) : Prop := Token.Lexes dialect document.tokens t

/-- **A document is read from every text that writes it**, if none of its containers is too deep. -/
theorem read?_of_isWrittenBy {dialect : Dialect} {document : Json} {t : Text}
    (hwritten : document.IsWrittenBy dialect t) (hdepth : dialect.Admits document.height) : read? dialect t = some document := by
  have hapart : Token.Apart document.tokens := by
    simpa using apart_tokens document .nil
  rw [read?, Token.scan?_of_lexes hwritten hapart]
  exact ofTokens?_tokens hdepth

end ClusterClient.Json
