import Mathlib.Algebra.Order.Field.Power
import Mathlib.Algebra.Order.Ring.Rat
import Mathlib.Order.WithBot
import ClusterClient.Proofs.Number.Spelling
import ClusterClient.Number.Decimal

/-!
# What numbers amount to

A number amounts to a rational, or to one of the two infinities. There are floating-point numbers that amount to
nothing, and these compare with nothing: to be greater than zero is more than not to be at most zero. What is read
or rounded from a decimal amounts to something, so that a text has to spell out what does not.

## The architecture

* **`Binary64.isNonPositive_eq_true_iff`**: the comparison with zero is one of amounts.
* **`Binary64.amount?_ofFields`**, **`amount?_ofRatio`**, **`amount?_ofScientific`**: the fields that rounding gives are
  at most those of an infinity.
* **`Binary64.SpellsNothing`**, **`exists_read?_iff_spellsNothing`**: the texts that are read as a number that amounts to
  nothing.
-/

namespace ClusterClient

/-- A rational, or one of the two infinities. -/
abbrev Amount := WithBot (WithTop ℚ)

namespace Binary64

/-- The rational with this sign, significand and power of two. -/
def rational (negative : Bool) (significand : Nat) (exponent : Int) : ℚ :=
  (if negative then -1 else 1) * (significand * 2 ^ exponent)

/-- What a floating-point number amounts to, if it is a number. -/
def amount? (x : Binary64) : Option Amount :=
  match x.view with
  | .nan => none
  | .infinite negative => some (if negative then ⊥ else ⊤)
  | .finite negative significand exponent => some ((rational negative significand exponent : WithTop ℚ) : Amount)

/-- A number is not above zero if its sign is negative or its digits are all zero. No exponent makes a
difference, since a power of two is positive. -/
theorem rational_nonpos_iff (negative : Bool) (significand : Nat) (exponent : Int) :
    rational negative significand exponent ≤ 0 ↔ (negative || decide (significand = 0)) = true := by
  have hpower : (0 : ℚ) < 2 ^ exponent := zpow_pos (by norm_num) exponent
  have hsize : (0 : ℚ) ≤ significand * 2 ^ exponent := mul_nonneg (Nat.cast_nonneg _) hpower.le
  unfold rational
  cases negative with
  | true => simpa using hsize
  | false =>
    rw [Bool.false_or, decide_eq_true_eq, if_neg Bool.false_ne_true, one_mul]
    constructor
    · intro h
      have hzero := le_antisymm h hsize
      exact_mod_cast (mul_eq_zero.1 hzero).resolve_right hpower.ne'
    · rintro rfl
      simp

/-- The comparison with zero is one of amounts. -/
theorem isNonPositive_eq_true_iff {x : Binary64} :
    x.isNonPositive = true ↔ ∃ a, x.amount? = some a ∧ a ≤ 0 := by
  unfold isNonPositive amount?
  cases x.view with
  | nan => simp
  | infinite negative =>
    have htop : ¬(⊤ : Amount) ≤ 0 := not_le.2 (WithBot.coe_lt_coe.2 (WithTop.coe_lt_top 0))
    cases negative <;> simp [htop]
  | finite negative significand exponent =>
    simp only [Option.some.injEq, exists_eq_left']
    rw [← rational_nonpos_iff negative significand exponent]
    norm_cast

theorem amount?_eq_none_iff {x : Binary64} : x.amount? = none ↔ x.view = .nan := by
  unfold amount?
  cases x.view <;> simp

/-- The fields of a number are those it was made of. The sign has a bit of its own above both of them, and the
fraction the lowest bits, so that exponent and fraction are a quotient and a rest. -/
theorem fields_ofFields (negative : Bool) {magnitude : Nat} (h : magnitude < Nat.pow 2 63) :
    (ofFields negative magnitude).exponentField = magnitude / Nat.pow 2 52 ∧
      (ofFields negative magnitude).fractionField = magnitude % Nat.pow 2 52 := by
  -- the powers of two are written out, so that the arithmetic is linear
  have hbelow : magnitude < 9223372036854775808 := h
  have hbits : (ofFields negative magnitude).bits.toNat =
      (if negative then 9223372036854775808 else 0) + magnitude := by
    apply Nat.mod_eq_of_lt
    show (if negative then 9223372036854775808 else 0) + magnitude < 18446744073709551616
    split <;> omega
  unfold exponentField fractionField
  rw [hbits]
  show _ / 4503599627370496 % 2048 = magnitude / 4503599627370496 ∧
    _ % 4503599627370496 = magnitude % 4503599627370496
  -- the sign is a multiple of everything that the fields are cut out by
  split <;> omega

/-- Fields that are at most those of an infinity make a number that amounts to something. -/
theorem amount?_ofFields (negative : Bool) {magnitude : Nat} (h : magnitude ≤ 2047 * Nat.pow 2 52) :
    (ofFields negative magnitude).amount? ≠ none := by
  have hbelow : magnitude ≤ 2047 * 4503599627370496 := h
  obtain ⟨hexponent, hfraction⟩ := fields_ofFields negative (show magnitude < 9223372036854775808 by omega)
  rw [Ne, amount?_eq_none_iff, view, hexponent, hfraction]
  show ¬(if magnitude / 4503599627370496 = 2047 then if magnitude % 4503599627370496 = 0 then _ else _ else _) = _
  split
  · -- nothing is above the fields of an infinity
    rw [if_pos (by omega)]
    exact View.noConfusion
  · split <;> exact View.noConfusion

theorem amount?_infinity (negative : Bool) : (infinity negative).amount? ≠ none :=
  amount?_ofFields negative (Nat.le_refl _)

theorem amount?_zero (negative : Bool) : (zero negative).amount? ≠ none := amount?_ofFields negative (Nat.zero_le _)

/-- Rounding gives a number that amounts to something. -/
theorem amount?_ofRatio (negative : Bool) (num den : Nat) : (ofRatio negative num den).amount? ≠ none := by
  unfold ofRatio
  split
  · exact amount?_zero negative
  · dsimp only
    split
    · exact amount?_infinity negative
    · exact amount?_ofFields negative (Nat.min_le_right _ _)

/-- **What is written in digits is a number**: rounding makes zero of what is too small and infinity of what is
too large. -/
theorem amount?_ofScientific (negative : Bool) (s : Scientific) : (ofScientific negative s).amount? ≠ none := by
  unfold ofScientific
  dsimp only
  split
  · exact amount?_zero negative
  · split
    · exact amount?_infinity negative
    · split
      · exact amount?_zero negative
      · split <;> exact amount?_ofRatio negative _ _

/-! ## Texts that are read as nothing -/

/-- A text spells a number that amounts to nothing: blanks, a sign or none, the three letters in any case, and
blanks. -/
def SpellsNothing (t : Text) : Prop :=
  ∃ front sign word back negative, t = front ++ (sign ++ word ++ back) ∧
    (∀ c ∈ front, CodePoint.isAsciiBlank (CodePoint.inNumeral c) = true) ∧
    (∀ c ∈ back, CodePoint.isAsciiBlank (CodePoint.inNumeral c) = true) ∧
    Numeral.IsSign sign negative ∧ Text.toAsciiLower word = "nan"

/-- What such a text consists of but for the blanks. -/
def nothingMarks : Text := "+-nNaA"

/-- A mark of ASCII that is no digit, no blank and no underscore, and stands for itself alone in a numeral. -/
def IsPlainMark (c : CodePoint) : Prop :=
  c.isAscii = true ∧ c.isAsciiDigit = false ∧ c.isAsciiBlank = false ∧ c ≠ CodePoint.ofChar '_' ∧
    c.decimalValue? = none ∧ c ∉ ([' ', '?'] : List Char).map CodePoint.ofChar

instance (c : CodePoint) : Decidable (IsPlainMark c) := inferInstanceAs (Decidable (_ ∧ _))

/-- The marks in the words for no number are letters and signs, and neither digits nor blanks. -/
theorem isPlainMark_of_mem {c : CodePoint} (hc : c ∈ nothingMarks) : IsPlainMark c := by
  have hall : nothingMarks.all (fun c => IsPlainMark c) = true := by decide
  exact of_decide_eq_true (List.all_eq_true.1 hall c hc)

/-- The sign and the letters of such a text are among the marks: the word has three letters, and each of them
may be of either case. -/
theorem mem_nothingMarks {sign word : Text} {negative : Bool} (hsign : Numeral.IsSign sign negative)
    (hword : Text.toAsciiLower word = "nan") : ∀ c ∈ sign ++ word, c ∈ nothingMarks := by
  intro c hc
  rcases List.mem_append.1 hc with hc | hc
  · cases hsign with
    | absent => cases hc
    | plus =>
      obtain rfl := List.mem_singleton.1 hc
      decide
    | minus =>
      obtain rfl := List.mem_singleton.1 hc
      decide
  · have hletter : c.toAsciiLower ∈ Text.ofString "nan" := hword ▸ List.mem_map_of_mem hc
    have hlower : c.toAsciiLower.val = 0x6E ∨ c.toAsciiLower.val = 0x61 := by
      have hall : (Text.ofString "nan").all (fun c => c.val = 0x6E ∨ c.val = 0x61) = true := by decide
      exact of_decide_eq_true (List.all_eq_true.1 hall _ hletter)
    rw [CodePoint.toAsciiLower_val] at hlower
    have hcases : c = 0x6E ∨ c = 0x4E ∨ c = 0x61 ∨ c = 0x41 := by
      simp only [Fin.ext_iff]
      show c.val = 0x6E ∨ c.val = 0x4E ∨ c.val = 0x61 ∨ c.val = 0x41
      split at hlower <;> omega
    rcases hcases with rfl | rfl | rfl | rfl <;> decide

/-- The first letter is no sign. -/
theorem head_of_toAsciiLower {word : Text} (hword : Text.toAsciiLower word = "nan") {c : CodePoint}
    (hc : word.head? = some c) : c ≠ CodePoint.ofChar '-' ∧ c ≠ CodePoint.ofChar '+' := by
  have hlower : some c.toAsciiLower = some (CodePoint.ofChar 'n') := by
    have hhead : (Text.toAsciiLower word).head? = some (CodePoint.ofChar 'n') := by
      rw [hword]
      rfl
    rwa [Text.toAsciiLower, List.head?_map, hc] at hhead
  constructor
  · rintro rfl
    exact absurd hlower (by decide)
  · rintro rfl
    exact absurd hlower (by decide)

/-- What is read of a text amounts to nothing exactly if the letters are left without underscores and sign. The
words for infinity amount to something, and so does whatever is read from digits. -/
theorem exists_ofNumeral?_iff_splitSign {u : Text} :
    (∃ x, ofNumeral? u = some x ∧ x.amount? = none) ↔ underscoresSeparateDigits u = true ∧
      Text.toAsciiLower (Numeral.splitSign (u.filter (· ≠ CodePoint.ofChar '_'))).2 = "nan" := by
  unfold ofNumeral?
  split
  · next hunderscores =>
    rw [hunderscores, eq_self_iff_true, true_and]
    generalize Numeral.splitSign _ = split
    obtain ⟨negative, body⟩ := split
    dsimp only
    split
    · next hinfinite =>
      rw [Bool.or_eq_true, decide_eq_true_eq, decide_eq_true_eq] at hinfinite
      constructor
      · rintro ⟨x, hx, hnothing⟩
        obtain rfl := Option.some.inj hx
        exact absurd hnothing (amount?_infinity negative)
      · intro hword
        rw [hword] at hinfinite
        exact absurd hinfinite (by decide)
    · split
      -- the one word for what is no number; everything else that is read has an amount, be it infinite
      · next hword => exact ⟨fun _ => hword, fun _ => ⟨nan, rfl, amount?_eq_none_iff.2 (by decide)⟩⟩
      · next hword =>
        refine ⟨?_, fun h => absurd h hword⟩
        rintro ⟨x, hx, hnothing⟩
        obtain ⟨s, -, rfl⟩ := Option.map_eq_some_iff.1 hx
        exact absurd hnothing (amount?_ofScientific negative s)
  · next hunderscores => simp [hunderscores]

/-- An underscore has a digit right before it: the part in front of the first underscore ends in a digit. -/
theorem exists_digit_of_underscore {u : Text} (h : underscoresSeparateDigits u = true)
    (hu : CodePoint.ofChar '_' ∈ u) : ∃ c ∈ u, c ≠ CodePoint.ofChar '_' ∧ c.isAsciiDigit = true := by
  obtain ⟨front, back, rfl, hfront⟩ := List.eq_append_cons_of_mem hu
  have hsplit : Text.splitOn '_' (front ++ CodePoint.ofChar '_' :: back) = front :: Text.splitOn '_' back := by
    rw [Text.splitOn_append_cons, Text.splitOn_of_not_mem hfront]
    rfl
  have hends : (front.getLast?.map CodePoint.isAsciiDigit).getD false = true := by
    unfold underscoresSeparateDigits at h
    dsimp only at h
    rw [hsplit, List.dropLast_cons_of_ne_nil (Text.splitOn_ne_nil _ _), List.all_cons, Bool.and_eq_true,
      Bool.and_eq_true] at h
    exact h.1.1
  cases hlast : front.getLast? with
  | none =>
    rw [hlast] at hends
    cases hends
  | some c =>
    rw [hlast] at hends
    have hc := List.mem_of_getLast? hlast
    exact ⟨c, List.mem_append_left _ hc, fun heq => hfront (heq ▸ hc), hends⟩

/-- A text without blanks is read as a number that amounts to nothing exactly if it is a sign or none, and the
letters. -/
theorem exists_ofNumeral?_iff {u : Text} :
    (∃ x, ofNumeral? u = some x ∧ x.amount? = none) ↔
      ∃ sign word negative, u = sign ++ word ∧ Numeral.IsSign sign negative ∧ Text.toAsciiLower word = "nan" := by
  have hkept {u : Text} (hplain : CodePoint.ofChar '_' ∉ u) : u.filter (· ≠ CodePoint.ofChar '_') = u :=
    List.filter_eq_self.2 fun c hc => decide_eq_true fun heq => hplain (heq ▸ hc)
  rw [exists_ofNumeral?_iff_splitSign]
  constructor
  · rintro ⟨hunderscores, hword⟩
    obtain ⟨sign, hsign, hsplit⟩ := Numeral.isSign_splitSign (u.filter (· ≠ CodePoint.ofChar '_'))
    -- an underscore would need a digit, which is none of the marks
    have hplain : CodePoint.ofChar '_' ∉ u := by
      intro hmem
      obtain ⟨c, hc, hne, hdigit⟩ := exists_digit_of_underscore hunderscores hmem
      have hleft : c ∈ u.filter (· ≠ CodePoint.ofChar '_') := List.mem_filter.2 ⟨hc, decide_eq_true hne⟩
      rw [hsplit] at hleft
      obtain ⟨-, hnone, -⟩ := isPlainMark_of_mem (mem_nothingMarks hsign hword c hleft)
      rw [hnone] at hdigit
      cases hdigit
    exact ⟨sign, _, _, (hkept hplain).symm.trans hsplit, hsign, hword⟩
  · rintro ⟨sign, word, negative, rfl, hsign, hword⟩
    have hplain : CodePoint.ofChar '_' ∉ sign ++ word := by
      intro hmem
      obtain ⟨-, -, -, hunderscore, -⟩ := isPlainMark_of_mem (mem_nothingMarks hsign hword _ hmem)
      exact hunderscore rfl
    have hwhole : Text.splitOn '_' (sign ++ word) = [sign ++ word] := Text.splitOn_of_not_mem hplain
    rw [hkept hplain, Numeral.splitSign_append_of_head hsign fun c => head_of_toAsciiLower hword]
    refine ⟨?_, hword⟩
    unfold underscoresSeparateDigits
    rw [hwhole]
    rfl

/-- Marks stand for themselves and for nothing else in a numeral. -/
theorem map_inNumeral_eq_iff {core u : Text} (hu : ∀ c ∈ u, c ∈ nothingMarks) :
    core.map CodePoint.inNumeral = u ↔ core = u := by
  have hself {c d : CodePoint} (hd : d ∈ nothingMarks) : c.inNumeral = d ↔ c = d := by
    obtain ⟨hascii, -, -, -, hvalue, hmark⟩ := isPlainMark_of_mem hd
    exact CodePoint.inNumeral_eq_iff d hascii hmark hvalue c
  constructor
  · rintro rfl
    calc core = core.map id := (List.map_id core).symm
      _ = core.map CodePoint.inNumeral :=
        List.map_congr_left fun c hc => (hself (hu _ (List.mem_map_of_mem hc))).1 rfl
  · rintro rfl
    calc core.map CodePoint.inNumeral = core.map id := List.map_congr_left fun c hc => (hself (hu c hc)).2 rfl
      _ = core := List.map_id core

/-- **The texts that are read as a number that amounts to nothing** are those that spell it. Reading maps each
character to the one that it stands for and trims the blanks; the marks stand for themselves alone, so that the
text can be taken apart in the same places. -/
theorem exists_read?_iff_spellsNothing {t : Text} :
    (∃ x, read? t = some x ∧ x.amount? = none) ↔ SpellsNothing t := by
  unfold read?
  rw [exists_ofNumeral?_iff]
  constructor
  · rintro ⟨sign, word, negative, htrim, hsign, hword⟩
    obtain ⟨front, back, ht, hfront, hback⟩ :=
      Text.exists_of_stripBy CodePoint.isAsciiBlank (t.map CodePoint.inNumeral)
    -- the text in pieces, of which the blanks and the marks are the images
    obtain ⟨front, rest, rfl, rfl, hrest⟩ := List.map_eq_append_iff.1 ht
    obtain ⟨core, back, rfl, hcore, rfl⟩ := List.map_eq_append_iff.1 hrest
    obtain rfl := (map_inNumeral_eq_iff (mem_nothingMarks hsign hword)).1 (hcore.trans htrim)
    refine ⟨front, sign, word, back, negative, rfl, ?_, ?_, hsign, hword⟩
    · intro c hc
      exact hfront _ (List.mem_map_of_mem hc)
    · intro c hc
      exact hback _ (List.mem_map_of_mem hc)
  · rintro ⟨front, sign, word, back, negative, rfl, hfront, hback, hsign, hword⟩
    have hmarks := mem_nothingMarks hsign hword
    refine ⟨sign, word, negative, ?_, hsign, hword⟩
    rw [Numeral.trim, List.map_append, List.map_append, (map_inNumeral_eq_iff hmarks).2 rfl]
    apply Text.stripBy_append_of_forall
    · exact List.forall_mem_map.2 hfront
    · intro c hc
      obtain ⟨-, -, hblank, -⟩ := isPlainMark_of_mem (hmarks c hc)
      exact hblank
    · exact List.forall_mem_map.2 hback

end Binary64

end ClusterClient
