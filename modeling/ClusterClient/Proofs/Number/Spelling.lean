import ClusterClient.Number.Numeral
import Mathlib.Data.List.TakeWhile

/-!
# How a whole number is spelled

A whole number is spelled with blanks around it, with or without a sign, and in decimal digits of any scripts,
between which single underscores may stand. This module says so apart from the way in which numerals are read,
and shows that the numerals that can be read are exactly the spellings.

## The architecture

* **`CodePoint.inNumeral_cases`**: what a code point stands for in a numeral. It has the same digit value
  (`decimalValue?_inNumeral`), so digits may be told before or after each code point is replaced.
* **`Numeral.groupedDigits?_eq_some_iff`**: the digits of a run with underscores. The parts of a split are the
  only parts that can be joined to it, because no digit is an underscore.
* **`Numeral.exists_trim_strip`**, **`trim_strip_of_forall`**: what is taken away around a numeral, in two
  steps, is blank, and nothing else is taken away.
* **`Whole.read?_strip_eq_some_iff`**: what is read is what is spelled.
-/

namespace ClusterClient

/-! ## Digits and blanks -/

namespace CodePoint

/-- A digit stands among the ten that begin with the zero of its script. -/
theorem exists_zero_of_decimalValue? {c : CodePoint} {d : Nat} (h : c.decimalValue? = some d) :
    ∃ low ∈ zeros, low ≤ c.val ∧ c.val < low + 10 := by
  unfold decimalValue? at h
  split at h
  · split at h
    · next hdigit =>
      simp only [isAsciiDigit, Bool.and_eq_true, decide_eq_true_eq] at hdigit
      exact ⟨0x30, List.mem_cons_self, hdigit.1, Nat.lt_succ_of_le hdigit.2⟩
    · cases h
  · obtain ⟨low, hlow, -⟩ := Option.map_eq_some_iff.1 h
    have hrange := List.find?_some hlow
    simp only [Bool.and_eq_true, decide_eq_true_eq] at hrange
    exact ⟨low, List.mem_of_find?_eq_some hlow, hrange⟩

/-- No digit of any script is blank. -/
theorem isBlank_of_decimalValue? {c : CodePoint} {d : Nat} (h : c.decimalValue? = some d) :
    c.isBlank = false := by
  have hapart : ∀ low ∈ zeros, ∀ range ∈ blankRanges, range.2 < low ∨ low + 10 ≤ range.1 := by decide
  obtain ⟨low, hlow, hfrom, hto⟩ := exists_zero_of_decimalValue? h
  rw [← Bool.not_eq_true]
  intro hblank
  obtain ⟨range, hrange, hfirst, hlast⟩ := Ranges.contains_iff.1 hblank
  have := hapart low hlow range hrange
  omega

theorem decimalValue?_of_isAscii {c : CodePoint} (h : c.isAscii = true) :
    c.decimalValue? = if c.isAsciiDigit then some (c.val - 0x30) else none :=
  if_pos h

theorem inNumeral_of_isAscii {c : CodePoint} (h : c.isAscii = true) : c.inNumeral = c := if_pos h

/-- What a code point stands for in a numeral: itself, a space, a digit of its value, or a question mark. -/
theorem inNumeral_cases (c : CodePoint) :
    (c.isAscii = true ∧ c.inNumeral = c) ∨ (c.isBlank = true ∧ c.inNumeral = ' ') ∨
      (∃ d < 10, c.decimalValue? = some d ∧ c.inNumeral = digit d) ∨
      (c.decimalValue? = none ∧ c.inNumeral = '?') := by
  by_cases hascii : c.isAscii = true
  · exact .inl ⟨hascii, inNumeral_of_isAscii hascii⟩
  · rw [inNumeral, if_neg hascii]
    by_cases hblank : c.isBlank = true
    · exact .inr (.inl ⟨hblank, if_pos hblank⟩)
    · rw [if_neg hblank]
      cases hvalue : c.decimalValue? with
      | some d => exact .inr (.inr (.inl ⟨d, decimalValue?_lt hvalue, rfl, rfl⟩))
      | none => exact .inr (.inr (.inr ⟨rfl, rfl⟩))

/-- The digit of a value is a digit of ASCII that has this value. -/
theorem digit_spec {d : Nat} (h : d < 10) :
    (digit d).isAscii = true ∧ (digit d).isAsciiBlank = false ∧ (digit d).decimalValue? = some d := by
  have hall : ∀ d < 10,
      (digit d).isAscii = true ∧ (digit d).isAsciiBlank = false ∧ (digit d).decimalValue? = some d := by decide
  exact hall d h

/-- What stands for a code point in a numeral has the value of that code point. -/
theorem decimalValue?_inNumeral (c : CodePoint) : c.inNumeral.decimalValue? = c.decimalValue? := by
  rcases c.inNumeral_cases with ⟨-, heq⟩ | ⟨hblank, heq⟩ | ⟨d, hd, hvalue, heq⟩ | ⟨hvalue, heq⟩
  · rw [heq]
  · -- a blank has no value, so that the space loses none
    have hnone : c.decimalValue? = none := Option.eq_none_iff_forall_ne_some.2 fun d hd => by
      rw [isBlank_of_decimalValue? hd] at hblank
      cases hblank
    rw [heq, hnone]
    decide
  · rw [heq, hvalue]
    exact (digit_spec hd).2.2
  · rw [heq, hvalue]
    decide

/-- What stands for a code point in a numeral is a code point of ASCII. -/
theorem isAscii_inNumeral (c : CodePoint) : c.inNumeral.isAscii = true := by
  rcases c.inNumeral_cases with ⟨hascii, heq⟩ | ⟨-, heq⟩ | ⟨d, hd, -, heq⟩ | ⟨-, heq⟩
  · rwa [heq]
  · rw [heq]
    decide
  · rw [heq]
    exact (digit_spec hd).1
  · rw [heq]
    decide

/-- A mark of ASCII that is no digit, no space and no question mark stands for itself alone. -/
theorem inNumeral_eq_iff (mark : CodePoint) (hascii : mark.isAscii = true)
    (hmark : mark ∉ ([' ', '?'] : List Char).map ofChar) (hdigit : mark.decimalValue? = none) (c : CodePoint) :
    c.inNumeral = mark ↔ c = mark := by
  constructor
  · rintro rfl
    rcases c.inNumeral_cases with ⟨-, heq⟩ | ⟨-, heq⟩ | ⟨d, hd, -, heq⟩ | ⟨-, heq⟩
    · exact heq.symm
    · exact absurd (heq ▸ by decide) hmark
    · rw [heq, (digit_spec hd).2.2] at hdigit
      cases hdigit
    · exact absurd (heq ▸ by decide) hmark
  · rintro rfl
    exact inNumeral_of_isAscii hascii

/-- What stands for a code point in a numeral is blank in ASCII only if that code point is blank. -/
theorem isBlank_of_isAsciiBlank_inNumeral {c : CodePoint} (h : c.inNumeral.isAsciiBlank = true) :
    c.isBlank = true := by
  rcases c.inNumeral_cases with ⟨-, heq⟩ | ⟨hblank, -⟩ | ⟨d, hd, -, heq⟩ | ⟨-, heq⟩
  · rw [heq] at h
    exact isBlank_of_isAsciiBlank h
  · exact hblank
  · rw [heq, (digit_spec hd).2.1] at h
    cases h
  · rw [heq] at h
    exact absurd h (by decide)

end CodePoint

/-! ## What is taken away around a text -/

namespace Text

variable {p : CodePoint → Bool}

/-- What is taken away around a text belongs to the class. -/
theorem exists_of_stripBy (p : CodePoint → Bool) (t : Text) :
    ∃ front back, t = front ++ (stripBy p t ++ back) ∧ (∀ c ∈ front, p c = true) ∧ ∀ c ∈ back, p c = true := by
  obtain ⟨back, hback⟩ := stripRightBy_prefix p (t.dropWhile p)
  refine ⟨t.takeWhile p, back, ?_, List.all_eq_true.1 List.all_takeWhile,
    fun c hc => of_mem_stripped hback.symm hc⟩
  show t = t.takeWhile p ++ (stripRightBy p (t.dropWhile p) ++ back)
  rw [hback, List.takeWhile_append_dropWhile]

/-- A text without members of the class is what is left of it when members surround it. Stripping goes from the
front until it meets the text, and from the back in the same way; an empty text in between is no obstacle to
either. -/
theorem stripBy_append_of_forall {front body back : Text} (hfront : ∀ c ∈ front, p c = true)
    (hbody : ∀ c ∈ body, p c = false) (hback : ∀ c ∈ back, p c = true) :
    stripBy p (front ++ (body ++ back)) = body := by
  have hstays {t : Text} (ht : ∀ c ∈ t, p c = false) : t.dropWhile p = t :=
    List.dropWhile_eq_self_iff.2 fun hlength => by rw [ht _ (List.getElem_mem hlength)]; exact Bool.false_ne_true
  unfold stripBy
  rw [List.dropWhile_append_of_pos hfront]
  -- in front of an empty body the front goes on into the back
  cases body with
  | nil =>
    rw [List.nil_append, List.dropWhile_eq_nil_iff.2 hback]
    rfl
  | cons first body =>
    rw [List.cons_append, List.dropWhile_cons,
      if_neg (by rw [hbody first List.mem_cons_self]; exact Bool.false_ne_true), ← List.cons_append,
      List.reverse_append, List.dropWhile_append_of_pos fun c hc => hback c (List.mem_reverse.1 hc),
      hstays fun c hc => hbody c (List.mem_reverse.1 hc), List.reverse_reverse]

/-- A text may be changed before members of a class are taken away around it. -/
theorem stripBy_map (f : CodePoint → CodePoint) (t : Text) :
    stripBy p (t.map f) = (stripBy (p ∘ f) t).map f := by
  unfold stripBy
  rw [List.dropWhile_map, ← List.map_reverse, List.dropWhile_map, ← List.map_reverse]

end Text

namespace Numeral

/-- What is left of a numeral, and the blanks around it. It is stripped twice, once of all blanks and once,
after each code point was replaced, of those in ASCII; what is an ASCII blank then was a blank before. -/
theorem exists_trim_strip (t : Text) :
    ∃ front core back : Text, t = front ++ (core ++ back) ∧ front.isBlank = true ∧ back.isBlank = true ∧
      trim t.strip = core.map CodePoint.inNumeral := by
  obtain ⟨front, back, ht, hfront, hback⟩ := Text.exists_of_stripBy CodePoint.isBlank t
  -- what looks like an ASCII blank after each code point was replaced was a blank before
  obtain ⟨front', back', hstrip, hfront', hback'⟩ :=
    Text.exists_of_stripBy (CodePoint.isAsciiBlank ∘ CodePoint.inNumeral) t.strip
  refine ⟨front ++ front', _, back' ++ back, ?_, ?_, ?_, Text.stripBy_map CodePoint.inNumeral t.strip⟩
  · calc t = front ++ (t.strip ++ back) := ht
      _ = front ++ (front' ++ (_ ++ back') ++ back) := congrArg (fun s => front ++ (s ++ back)) hstrip
      _ = _ := by simp only [List.append_assoc]
  · refine List.all_eq_true.2 fun c hc => ?_
    exact (List.mem_append.1 hc).elim (hfront c) fun hc =>
      CodePoint.isBlank_of_isAsciiBlank_inNumeral (hfront' c hc)
  · refine List.all_eq_true.2 fun c hc => ?_
    exact (List.mem_append.1 hc).elim
      (fun hc => CodePoint.isBlank_of_isAsciiBlank_inNumeral (hback' c hc)) (hback c)

/-- A text without blanks is what is left of it when blanks surround it. -/
theorem trim_strip_of_forall {front body back : Text} (hfront : front.isBlank = true)
    (hbody : ∀ c ∈ body, c.isBlank = false) (hback : back.isBlank = true) :
    trim (Text.strip (front ++ (body ++ back))) = body.map CodePoint.inNumeral := by
  have hstrip : Text.strip (front ++ (body ++ back)) = body :=
    Text.stripBy_append_of_forall (List.all_eq_true.1 hfront) hbody (List.all_eq_true.1 hback)
  rw [hstrip]
  refine Text.stripBy_of_forall fun c hc => ?_
  obtain ⟨c, hmem, rfl⟩ := List.mem_map.1 hc
  rw [← Bool.not_eq_true]
  intro hblank
  exact absurd (CodePoint.isBlank_of_isAsciiBlank_inNumeral hblank) (by simp [hbody c hmem])

/-! ## Runs of digits -/

/-- Runs of decimal digits with single underscores between them, and the values of all digits in order. -/
def IsGrouped (t : Text) (values : List Nat) : Prop :=
  ∃ groups, groups ≠ [] ∧ [] ∉ groups ∧ t = Text.join "_" groups ∧
    groups.flatten.map CodePoint.decimalValue? = values.map some

/-- What has values consists of digits. -/
theorem exists_value_of_mem {t : Text} {values : List Nat}
    (h : t.map CodePoint.decimalValue? = values.map some) {c : CodePoint} (hc : c ∈ t) :
    ∃ d, c.decimalValue? = some d := by
  obtain ⟨d, -, hd⟩ := List.mem_map.1 (h ▸ List.mem_map_of_mem hc)
  exact ⟨d, hd.symm⟩

/-- A run of digits in ASCII is not empty, and each letter of it has its value. Outside ASCII there are letters
with a value that are no such digits, which is why the text is asked to be ASCII. -/
theorem digitRun?_eq_some_iff {t : Text} (ht : t.isAscii = true) {values : List Nat} :
    digitRun? t = some values ↔ t ≠ [] ∧ t.map CodePoint.decimalValue? = values.map some := by
  have hvalue {c : CodePoint} (hc : c ∈ t) (hdigit : c.isAsciiDigit = true) :
      c.decimalValue? = some (c.val - 0x30) := by
    rw [CodePoint.decimalValue?_of_isAscii (List.all_eq_true.1 ht c hc), if_pos hdigit]
  unfold digitRun?
  constructor
  · intro h
    split at h
    · cases h
    · next hempty =>
      split at h
      · next hall =>
        obtain rfl := Option.some.inj h
        refine ⟨fun hnil => hempty (List.isEmpty_iff.2 hnil), ?_⟩
        rw [List.map_map]
        exact List.map_congr_left fun c hc => hvalue hc (List.all_eq_true.1 hall c hc)
      · cases h
  -- a letter of ASCII that has a value is one of the ten digits
  · rintro ⟨hempty, hvalues⟩
    have hall : ∀ c ∈ t, c.isAsciiDigit = true := by
      intro c hc
      obtain ⟨d, hd⟩ := exists_value_of_mem hvalues hc
      rw [CodePoint.decimalValue?_of_isAscii (List.all_eq_true.1 ht c hc)] at hd
      exact (Option.ite_none_right_eq_some.1 hd).1
    rw [if_neg fun hnil => hempty (List.isEmpty_iff.1 hnil), if_pos (List.all_eq_true.2 hall), Option.some.injEq]
    refine (List.map_inj_right fun _ _ => Option.some.inj).1 ?_
    rw [← hvalues, List.map_map]
    exact List.map_congr_left fun c hc => (hvalue hc (hall c hc)).symm

/-- Several runs are read one by one: none of them is empty, and the values of all letters in a row are those of
the runs in a row. -/
theorem mapM_digitRun?_eq_some_iff {parts : List Text} (hparts : ∀ part ∈ parts, part.isAscii = true)
    {values : List Nat} :
    (parts.mapM digitRun?).map List.flatten = some values ↔
      [] ∉ parts ∧ parts.flatten.map CodePoint.decimalValue? = values.map some := by
  induction parts generalizing values with
  | nil =>
    show some [] = some values ↔ [] ∉ ([] : List Text) ∧ [] = values.map some
    rw [Option.some.injEq, eq_comm (a := []), eq_comm (a := []), List.map_eq_nil_iff]
    simp
  | cons part parts ih =>
    obtain ⟨hpart, hrest⟩ := List.forall_mem_cons.1 hparts
    -- the values of the first part and those of the rest, as two lists that are put together
    have hsplit : ((part :: parts).mapM digitRun?).map List.flatten = some values ↔
        ∃ run rest, digitRun? part = some run ∧ (parts.mapM digitRun?).map List.flatten = some rest ∧
          run ++ rest = values := by
      rw [List.mapM_cons]
      cases digitRun? part with
      | none => simp
      | some run => cases parts.mapM digitRun? <;> simp
    rw [hsplit]
    simp only [digitRun?_eq_some_iff hpart, ih hrest]
    constructor
    · rintro ⟨run, rest, ⟨hempty, hrun⟩, ⟨hnot, hvalues⟩, rfl⟩
      refine ⟨List.not_mem_cons_of_ne_of_not_mem hempty.symm hnot, ?_⟩
      rw [List.flatten_cons, List.map_append, List.map_append, hrun, hvalues]
    · rintro ⟨hnot, hvalues⟩
      have hempty := List.ne_of_not_mem_cons hnot
      rw [List.flatten_cons, List.map_append] at hvalues
      obtain ⟨run, rest, rfl, hrun, hvalues⟩ := List.map_eq_append_iff.1 hvalues.symm
      exact ⟨run, rest, ⟨hempty.symm, hrun.symm⟩, ⟨List.not_mem_of_not_mem_cons hnot, hvalues.symm⟩, rfl⟩

/-- Runs with underscores between them are the parts that underscores separate. An underscore has no value, so
that there is none inside a run. -/
theorem isGrouped_iff {t : Text} {values : List Nat} :
    IsGrouped t values ↔
      [] ∉ t.splitOn '_' ∧ (t.splitOn '_').flatten.map CodePoint.decimalValue? = values.map some := by
  constructor
  · rintro ⟨groups, hgroups, hempty, rfl, hvalues⟩
    have hunmarked : ∀ group ∈ groups, CodePoint.ofChar '_' ∉ group := by
      intro group hgroup hmark
      -- an underscore has no value
      obtain ⟨d, hd⟩ := exists_value_of_mem hvalues (List.mem_flatten.2 ⟨group, hgroup, hmark⟩)
      have hnone : (CodePoint.ofChar '_').decimalValue? = none := by decide
      rw [hnone] at hd
      cases hd
    have hsplit : Text.splitOn '_' (Text.join "_" groups) = groups := Text.splitOn_join hgroups hunmarked
    rw [hsplit]
    exact ⟨hempty, hvalues⟩
  · rintro ⟨hempty, hvalues⟩
    exact ⟨_, Text.splitOn_ne_nil _ t, hempty, (Text.join_splitOn _ t).symm, hvalues⟩

/-- Digits of other scripts are grouped as those of ASCII are, with the same values. -/
theorem isGrouped_map_inNumeral_iff {t : Text} {values : List Nat} :
    IsGrouped (t.map CodePoint.inNumeral) values ↔ IsGrouped t values := by
  have hmark := CodePoint.inNumeral_eq_iff '_' (by decide) (by decide) (by decide)
  have hvalues (t : Text) :
      (t.map CodePoint.inNumeral).map CodePoint.decimalValue? = t.map CodePoint.decimalValue? := by
    rw [List.map_map]
    exact List.map_congr_left fun c _ => CodePoint.decimalValue?_inNumeral c
  rw [isGrouped_iff, isGrouped_iff, Text.splitOn_map hmark, ← List.map_flatten, hvalues, List.mem_map]
  simp only [List.map_eq_nil_iff, exists_eq_right]

/-- **Groups of digits are read** exactly if they are groups: none of them is empty, and single underscores
stand between them. -/
theorem groupedDigits?_eq_some_iff {t : Text} (ht : t.isAscii = true) {values : List Nat} :
    groupedDigits? t = some values ↔ IsGrouped t values := by
  rw [isGrouped_iff]
  refine mapM_digitRun?_eq_some_iff fun part hpart => ?_
  refine List.all_eq_true.2 fun c hc => List.all_eq_true.1 ht c ?_
  rw [← Text.join_splitOn '_' t]
  exact Text.mem_join_of_mem hpart hc

/-- What stands in runs with underscores between them is a digit or an underscore, a digit first: no run is
empty, and so it is not the first one either. -/
theorem IsGrouped.cases_mem {t : Text} {values : List Nat} (h : IsGrouped t values) :
    (∃ c, t.head? = some c ∧ c.decimalValue?.isSome = true) ∧
      ∀ c ∈ t, c.decimalValue?.isSome = true ∨ c = CodePoint.ofChar '_' := by
  obtain ⟨groups, hgroups, hempty, rfl, hvalues⟩ := h
  have hdigit : ∀ c ∈ groups.flatten, c.decimalValue?.isSome = true := by
    intro c hc
    exact Option.isSome_iff_exists.2 (exists_value_of_mem hvalues hc)
  constructor
  · cases groups with
    | nil => exact absurd rfl hgroups
    | cons first rest =>
      cases first with
      | nil => exact absurd List.mem_cons_self hempty
      | cons c first =>
        refine ⟨c, ?_, hdigit c List.mem_cons_self⟩
        cases rest <;> rfl
  · intro c hc
    rcases Text.mem_join hc with ⟨group, hgroup, hmem⟩ | hmark
    · exact .inl (hdigit c (List.mem_flatten.2 ⟨group, hgroup, hmem⟩))
    · exact .inr (List.mem_singleton.1 hmark)

/-! ## Signs -/

/-- A sign or none, and whether it stands for a negative number. -/
inductive IsSign : Text → Bool → Prop
  | absent : IsSign [] false
  | plus : IsSign "+" false
  | minus : IsSign "-" true

/-- At most one sign stands in front of a text, and the text is the sign and what is left. -/
theorem isSign_splitSign (t : Text) :
    ∃ sign, IsSign sign (splitSign t).1 ∧ t = sign ++ (splitSign t).2 := by
  cases t with
  | nil => exact ⟨[], .absent, rfl⟩
  | cons c rest =>
    by_cases hminus : c = CodePoint.ofChar '-'
    · subst hminus
      exact ⟨"-", .minus, rfl⟩
    · by_cases hplus : c = CodePoint.ofChar '+'
      · subst hplus
        exact ⟨"+", .plus, rfl⟩
      · rw [splitSign, if_neg hminus, if_neg hplus]
        exact ⟨[], .absent, rfl⟩

/-- A sign is told from what follows it, unless that begins with a sign too. -/
theorem splitSign_append_of_head {sign t : Text} {negative : Bool} (hsign : IsSign sign negative)
    (ht : ∀ c, t.head? = some c → c ≠ CodePoint.ofChar '-' ∧ c ≠ CodePoint.ofChar '+') :
    splitSign (sign ++ t) = (negative, t) := by
  cases hsign with
  | plus => rfl
  | minus => rfl
  | absent =>
    cases t with
    | nil => rfl
    | cons first rest =>
      obtain ⟨hminus, hplus⟩ := ht first rfl
      exact (if_neg hminus).trans (if_neg hplus)

/-- A sign is told from the digits that follow it. -/
theorem splitSign_append {sign t : Text} {negative : Bool} (hsign : IsSign sign negative)
    (ht : ∃ c, t.head? = some c ∧ c.decimalValue?.isSome = true) : splitSign (sign ++ t) = (negative, t) := by
  obtain ⟨c, hhead, hc⟩ := ht
  apply splitSign_append_of_head hsign
  intro first hfirst
  obtain rfl : c = first := Option.some.inj (hhead.symm.trans hfirst)
  constructor
  · rintro rfl
    exact absurd hc (by decide)
  · rintro rfl
    exact absurd hc (by decide)

/-- Signs stand for themselves in every script, so that they are split off before or after digits are made those
of ASCII. -/
theorem splitSign_map_inNumeral (t : Text) :
    splitSign (t.map CodePoint.inNumeral) = ((splitSign t).1, (splitSign t).2.map CodePoint.inNumeral) := by
  have hminus := CodePoint.inNumeral_eq_iff '-' (by decide) (by decide) (by decide)
  have hplus := CodePoint.inNumeral_eq_iff '+' (by decide) (by decide) (by decide)
  cases t with
  | nil => rfl
  | cons c rest =>
    simp only [splitSign, List.map_cons, hminus, hplus]
    split
    · rfl
    · split <;> rfl

end Numeral

namespace Whole

/-- The number with this sign and these digits. -/
def signed (negative : Bool) (digits : List Nat) : Int :=
  if negative then -(Numeral.ofDigits digits : Int) else Numeral.ofDigits digits

/-- A text spells a whole number: blanks, a sign or none, runs of decimal digits of any scripts with single
underscores between them, not too many digits in all, and blanks. -/
def Spells (t : Text) (n : Int) : Prop :=
  ∃ front sign body back negative digits, t = front ++ (sign ++ body ++ back) ∧
    Text.isBlank front = true ∧ Text.isBlank back = true ∧ Numeral.IsSign sign negative ∧
    Numeral.IsGrouped body digits ∧ digits.length ≤ maxDigits ∧ n = signed negative digits

/-- What is read of a numeral whose blanks have been taken away. The sign, the underscores and the digits are
found in the text as it was given, although each code point is replaced by the one that it stands for before it
is read. -/
theorem read?_eq_some_iff_of_trim {t core : Text} (htrim : Numeral.trim t = core.map CodePoint.inNumeral) {n : Int} :
    read? t = some n ↔ ∃ digits, Numeral.IsGrouped (Numeral.splitSign core).2 digits ∧
      digits.length ≤ maxDigits ∧ n = signed (Numeral.splitSign core).1 digits := by
  have hascii : Text.isAscii ((Numeral.splitSign core).2.map CodePoint.inNumeral) = true := by
    refine List.all_eq_true.2 fun c hc => ?_
    obtain ⟨c, -, rfl⟩ := List.mem_map.1 hc
    exact CodePoint.isAscii_inNumeral c
  unfold read?
  rw [htrim, Numeral.splitSign_map_inNumeral]
  simp only [Option.bind_eq_bind, Option.bind_eq_some_iff, Numeral.groupedDigits?_eq_some_iff hascii,
    Numeral.isGrouped_map_inNumeral_iff]
  refine exists_congr fun digits => and_congr_right fun _ => ?_
  by_cases hlength : digits.length > maxDigits
  · rw [if_pos hlength]
    simp [Nat.not_le.2 hlength]
  · rw [if_neg hlength, Option.some.injEq, eq_comm]
    simp [Nat.not_lt.1 hlength, signed]

/-- **What is read is what is spelled**: with the blanks around it taken away, a text is read as a whole number
exactly if it spells that number. -/
theorem read?_strip_eq_some_iff {t : Text} {n : Int} : read? t.strip = some n ↔ Spells t n := by
  constructor
  · intro h
    obtain ⟨front, core, back, ht, hfront, hback, htrim⟩ := Numeral.exists_trim_strip t
    obtain ⟨digits, hdigits, hlength, hn⟩ := (read?_eq_some_iff_of_trim htrim).1 h
    obtain ⟨sign, hsign, hcore⟩ := Numeral.isSign_splitSign core
    exact ⟨front, sign, _, back, _, digits, by rw [← hcore, ht], hfront, hback, hsign, hdigits, hlength, hn⟩
  · rintro ⟨front, sign, body, back, negative, digits, rfl, hfront, hback, hsign, hdigits, hlength, rfl⟩
    obtain ⟨hhead, hmem⟩ := hdigits.cases_mem
    -- sign, digits and underscores are no blanks, so that only what is around them is cut off
    have hbody : ∀ c ∈ sign ++ body, c.isBlank = false := by
      intro c hc
      rcases List.mem_append.1 hc with hc | hc
      · cases hsign with
        | absent => cases hc
        | plus =>
          obtain rfl := List.mem_singleton.1 hc
          decide
        | minus =>
          obtain rfl := List.mem_singleton.1 hc
          decide
      · rcases hmem c hc with hdigit | rfl
        · obtain ⟨d, hd⟩ := Option.isSome_iff_exists.1 hdigit
          exact CodePoint.isBlank_of_decimalValue? hd
        · decide
    rw [read?_eq_some_iff_of_trim (Numeral.trim_strip_of_forall hfront hbody hback),
      Numeral.splitSign_append hsign hhead]
    exact ⟨digits, hdigits, hlength, rfl⟩

end Whole

end ClusterClient
