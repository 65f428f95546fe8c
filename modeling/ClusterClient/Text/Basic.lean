/-!
# Text

A text is a list of Unicode code points. Surrogates are allowed, because a name or a value may hold
one that has no partner, and such a text still has a length, a quoted form and an equality; only
writing it as octets fails.

Main statements: `splitOn` followed by `join` gives the text back (`join_splitOn`), and no part
of a split holds the separator (`not_mem_of_mem_splitOn`).
-/

namespace ClusterClient

/-- A Unicode code point, surrogates included. -/
abbrev CodePoint := Fin 0x110000

instance CodePoint.neZero_count : @NeZero Nat Zero.ofOfNat0 0x110000 := ⟨by decide⟩

/-- A sequence of code points. -/
abbrev Text := List CodePoint

namespace CodePoint

theorem toNat_lt (c : Char) : c.toNat < 0x110000 := by
  have h := c.valid
  simp only [UInt32.isValidChar, Nat.isValidChar] at h
  simp only [Char.toNat]
  omega

/-- A character is a code point that is no surrogate. -/
def ofChar (c : Char) : CodePoint := ⟨c.toNat, toNat_lt c⟩

instance : Coe Char CodePoint := ⟨ofChar⟩

/-- The code point of this number, if there is one. -/
def ofNat? (n : Nat) : Option CodePoint := if h : n < 0x110000 then some ⟨n, h⟩ else none

/-- The code point with this number, and the replacement character if there is none. -/
def ofNat (n : Nat) : CodePoint := (ofNat? n).getD 0xFFFD

theorem val_ofNat {n : Nat} (h : n < 0x110000) : (ofNat n).val = n := by
  unfold ofNat ofNat?
  rw [dif_pos h, Option.getD_some]

def isSurrogate (c : CodePoint) : Bool := 0xD800 ≤ c.val && c.val ≤ 0xDFFF

def isAscii (c : CodePoint) : Bool := c.val < 0x80

def isAsciiDigit (c : CodePoint) : Bool := 0x30 ≤ c.val && c.val ≤ 0x39

def isAsciiUpper (c : CodePoint) : Bool := 0x41 ≤ c.val && c.val ≤ 0x5A

def isAsciiLower (c : CodePoint) : Bool := 0x61 ≤ c.val && c.val ≤ 0x7A

def isAsciiLetter (c : CodePoint) : Bool := c.isAsciiUpper || c.isAsciiLower

/-- Control characters of the ASCII range. -/
def isAsciiControl (c : CodePoint) : Bool := c.val < 0x20 || c.val == 0x7F

/-- Lower case of an ASCII letter; any other code point stays. -/
def toAsciiLower (c : CodePoint) : CodePoint := if c.isAsciiUpper then c + 0x20 else c

theorem toAsciiLower_val (c : CodePoint) :
    c.toAsciiLower.val = if c.isAsciiUpper then c.val + 0x20 else c.val := by
  unfold toAsciiLower
  split
  · next hupper =>
    simp only [isAsciiUpper, Bool.and_eq_true, decide_eq_true_eq] at hupper
    rw [Fin.val_add]
    exact Nat.mod_eq_of_lt (by show c.val + 0x20 < 0x110000; omega)
  · rfl

theorem val_of_isAsciiUpper {c : CodePoint} (h : c.isAsciiUpper = true) :
    0x41 ≤ c.val ∧ c.val ≤ 0x5A ∧ c.toAsciiLower.val = c.val + 0x20 := by
  rw [toAsciiLower_val, if_pos h]
  simp only [isAsciiUpper, Bool.and_eq_true, decide_eq_true_eq] at h
  exact ⟨h.1, h.2, rfl⟩

theorem isAscii_toAsciiLower {c : CodePoint} (h : c.isAscii = true) : c.toAsciiLower.isAscii = true := by
  simp only [isAscii, decide_eq_true_eq] at h ⊢
  rw [toAsciiLower_val]
  split
  · next hupper =>
    simp only [isAsciiUpper, Bool.and_eq_true, decide_eq_true_eq] at hupper
    omega
  · exact h

/-- Value of a hexadecimal digit. -/
def hexValue? (c : CodePoint) : Option Nat :=
  if c.isAsciiDigit then some (c.val - 0x30)
  else if 0x41 ≤ c.val && c.val ≤ 0x46 then some (c.val - 0x41 + 10)
  else if 0x61 ≤ c.val && c.val ≤ 0x66 then some (c.val - 0x61 + 10)
  else none

/-- Digit `d < 36`, letters in lower case. -/
def digit (d : Nat) : CodePoint := if d < 10 then ofNat (0x30 + d) else ofNat (0x57 + d)

/-- Hexadecimal digit `d < 16`, letters in upper case. -/
def upperHexDigit (d : Nat) : CodePoint := if d < 10 then ofNat (0x30 + d) else ofNat (0x37 + d)

end CodePoint

namespace Text

/-- The code points of a string. -/
def ofString (s : String) : Text := s.toList.map CodePoint.ofChar

instance : Coe String Text := ⟨ofString⟩

/-- The string of these code points, if none is a surrogate. -/
def toString? (t : Text) : Option String :=
  if t.any CodePoint.isSurrogate then none
  else some (String.ofList (t.map fun c => Char.ofNat c.val))

def isAscii (t : Text) : Bool := t.all CodePoint.isAscii

def toAsciiLower (t : Text) : Text := t.map CodePoint.toAsciiLower

/-- `text` without its leading and trailing members of a class. -/
def stripBy (p : CodePoint → Bool) (t : Text) : Text :=
  ((t.dropWhile p).reverse.dropWhile p).reverse

/-- `text` without its trailing members of a class. -/
def stripRightBy (p : CodePoint → Bool) (t : Text) : Text := (t.reverse.dropWhile p).reverse

/-- Puts one code point in front of the first part. -/
private def extendFirst (c : CodePoint) : List Text → List Text
  | [] => [[c]]
  | part :: parts => (c :: part) :: parts

/-- The parts between the occurrences of a separator; a text without one is its only part. -/
def splitOn (sep : CodePoint) (t : Text) : List Text :=
  t.foldr (fun c parts => if c = sep then [] :: parts else extendFirst c parts) [[]]

/-- The parts with a separator between each two. -/
def join (sep : Text) (parts : List Text) : Text := List.intercalate sep parts

@[simp] theorem splitOn_nil (sep : CodePoint) : splitOn sep [] = [[]] := rfl

theorem splitOn_cons (sep c : CodePoint) (t : Text) :
    splitOn sep (c :: t) =
      if c = sep then [] :: splitOn sep t else extendFirst c (splitOn sep t) := rfl

/-- There is always a part, be it empty. -/
theorem splitOn_ne_nil (sep : CodePoint) (t : Text) : splitOn sep t ≠ [] := by
  cases t with
  | nil => simp
  | cons c t =>
    rw [splitOn_cons]
    split
    · simp
    · cases splitOn sep t <;> simp [extendFirst]

/-- Nothing is lost by splitting, by induction on the text: a separator begins a new part, and anything else
extends the first one. -/
theorem join_splitOn (sep : CodePoint) (t : Text) : join [sep] (splitOn sep t) = t := by
  induction t with
  | nil => rfl
  | cons c t ih =>
    rw [splitOn_cons]
    cases h : splitOn sep t with
    -- splitting always leaves a part, if only an empty one
    | nil => exact absurd h (splitOn_ne_nil sep t)
    | cons part parts =>
      rw [h] at ih
      split
      · next hc =>
        subst hc
        simp only [join, List.intercalate] at ih ⊢
        simp [ih]
      · simp only [join, List.intercalate, extendFirst] at ih ⊢
        cases parts with
        | nil => simpa using ih
        | cons p ps => simpa using ih

/-- No part holds the separator. The induction is on the text: its first code point is a separator, which ends a
part, or another one, which goes to the part that comes first in the rest. -/
theorem not_mem_of_mem_splitOn {sep : CodePoint} {t part : Text} (h : part ∈ splitOn sep t) :
    sep ∉ part := by
  induction t generalizing part with
  | nil => simp at h; simp [h]
  | cons c t ih =>
    rw [splitOn_cons] at h
    split at h
    · rcases List.mem_cons.1 h with rfl | h
      · simp
      · exact ih h
    · next hc =>
      cases hs : splitOn sep t with
      | nil => exact absurd hs (splitOn_ne_nil sep t)
      | cons p ps =>
        rw [hs, extendFirst] at h
        rcases List.mem_cons.1 h with rfl | h
        · have := ih (show p ∈ splitOn sep t by simp [hs])
          simp only [List.mem_cons, not_or]
          exact ⟨fun e => hc e.symm, this⟩
        · exact ih (by simp [hs, h])

/-- The split of the standard library is the same, and has more laws. They are taken from there below. -/
theorem splitOn_eq (sep : CodePoint) (t : Text) : splitOn sep t = List.splitOn sep t := by
  induction t with
  | nil => rfl
  | cons c t ih =>
    rw [splitOn_cons, List.splitOn_cons_eq_if_modifyHead, ih]
    by_cases h : c = sep
    · rw [if_pos h, if_pos (by simpa using h)]
    · rw [if_neg h, if_neg (by simpa using h)]
      cases hs : List.splitOn sep t with
      | nil => exact absurd hs (List.splitOn_ne_nil sep t)
      | cons part parts => rfl

theorem splitOn_of_not_mem {sep : CodePoint} {t : Text} (h : sep ∉ t) : splitOn sep t = [t] := by
  rw [splitOn_eq]
  exact List.splitOn_eq_singleton h

/-- A separator ends one part and begins the next. -/
theorem splitOn_append_cons (sep : CodePoint) (a b : Text) :
    splitOn sep (a ++ sep :: b) = splitOn sep a ++ splitOn sep b := by
  rw [splitOn_eq, splitOn_eq, splitOn_eq]
  exact List.splitOn_append_cons_self a b

/-- Parts without a separator are found again when they have been joined. -/
theorem splitOn_join {sep : CodePoint} {parts : List Text} (hparts : parts ≠ [])
    (h : ∀ part ∈ parts, sep ∉ part) : splitOn sep (join [sep] parts) = parts := by
  rw [splitOn_eq]
  exact List.splitOn_intercalate sep h hparts

/-- Two runs of parts are joined by one separator more. Induction on the parts in front; an empty run would
bring no separator, and so neither may be empty. -/
theorem join_append {sep : Text} {front back : List Text} (hfront : front ≠ []) (hback : back ≠ []) :
    join sep (front ++ back) = join sep front ++ (sep ++ join sep back) := by
  induction front with
  | nil => exact absurd rfl hfront
  | cons part rest ih =>
    cases rest with
    | nil =>
      cases back with
      | nil => exact absurd rfl hback
      | cons first back =>
        rw [List.singleton_append, join, join, join, List.intercalate_cons_cons, List.intercalate_singleton,
          List.append_assoc]
    | cons second rest =>
      have hrest := ih (List.cons_ne_nil _ _)
      rw [join, join, join, List.cons_append] at hrest
      rw [join, join, join, List.cons_append, List.cons_append, List.intercalate_cons_cons,
        List.intercalate_cons_cons, hrest]
      simp only [List.append_assoc]

/-- A joined text is made of its parts and of the separator: the pieces that are put together are parts and
separators in turn. -/
theorem mem_join {sep : Text} {parts : List Text} {c : CodePoint} (h : c ∈ join sep parts) :
    (∃ part ∈ parts, c ∈ part) ∨ c ∈ sep := by
  obtain ⟨part, hpart, hc⟩ := List.mem_flatten.1 h
  -- the pieces that are put together are the parts with separators between them
  have hmem : part ∈ parts ∨ part = sep := by
    clear h hc
    induction parts with
    | nil => exact absurd hpart List.not_mem_nil
    | cons first rest ih =>
      cases rest with
      | nil =>
        obtain rfl := List.mem_singleton.1 hpart
        exact .inl List.mem_cons_self
      | cons second rest =>
        rcases List.mem_cons.1 hpart with rfl | hpart
        · exact .inl List.mem_cons_self
        · rcases List.mem_cons.1 hpart with rfl | hpart
          · exact .inr rfl
          · exact (ih hpart).imp_left (List.mem_cons_of_mem _)
  rcases hmem with hpart | rfl
  · exact .inl ⟨part, hpart, hc⟩
  · exact .inr hc

/-- What stands in a part stands in the joined text. -/
theorem mem_join_of_mem {sep part : Text} {parts : List Text} (h : part ∈ parts) {c : CodePoint}
    (hc : c ∈ part) : c ∈ join sep parts := by
  refine List.mem_flatten.2 ⟨part, ?_, hc⟩
  induction parts with
  | nil => exact absurd h List.not_mem_nil
  | cons first rest ih =>
    cases rest with
    | nil => exact h
    | cons second rest =>
      rcases List.mem_cons.1 h with rfl | h
      · exact List.mem_cons_self
      · exact List.mem_cons_of_mem _ (List.mem_cons_of_mem _ (ih h))

/-- What holds no separator belongs to the first part. -/
theorem splitOn_append_of_not_mem {sep : CodePoint} {a : Text} (h : sep ∉ a) (t : Text) :
    splitOn sep (a ++ t) = (splitOn sep t).modifyHead (a ++ ·) := by
  induction a with
  | nil => cases hs : splitOn sep t <;> simp [hs]
  | cons c a ih =>
    obtain ⟨hc, ha⟩ := not_or.1 fun hmem => h (List.mem_cons.2 hmem)
    have hc' : ¬(c == sep) = true := by simpa using fun he => hc he.symm
    rw [List.cons_append, splitOn_eq, List.splitOn_cons_eq_if_modifyHead, if_neg hc', ← splitOn_eq,
      ih ha, List.modifyHead_modifyHead]
    rfl

/-- A change of single code points that leaves separators alone changes each part by itself. The code point that
is changed may become many, none of them a separator. -/
theorem splitOn_flatMap {sep : CodePoint} {f : CodePoint → Text} (hsep : f sep = [sep])
    (hother : ∀ c, c ≠ sep → sep ∉ f c) (t : Text) :
    splitOn sep (t.flatMap f) = (splitOn sep t).map (List.flatMap f) := by
  induction t with
  | nil => rfl
  | cons c t ih =>
    rw [List.flatMap_cons, splitOn_eq _ (c :: t), List.splitOn_cons_eq_if_modifyHead, ← splitOn_eq]
    by_cases h : c = sep
    · rw [if_pos (by simpa using h), h, hsep, ← List.nil_append ([sep] ++ _), List.singleton_append,
        splitOn_append_cons, ih]
      rfl
    · rw [if_neg (by simpa using h), splitOn_append_of_not_mem (hother c h), ih]
      cases splitOn sep t <;> rfl

/-- A change of single code points that neither makes nor takes away separators. -/
theorem splitOn_map {sep : CodePoint} {f : CodePoint → CodePoint} (hf : ∀ c, f c = sep ↔ c = sep)
    (t : Text) : splitOn sep (t.map f) = (splitOn sep t).map (List.map f) := by
  have hmap (t : Text) : t.map f = t.flatMap fun c => [f c] := List.map_eq_flatMap
  rw [hmap, splitOn_flatMap (by rw [(hf sep).2 rfl])]
  · exact List.map_congr_left fun part _ => (hmap part).symm
  · intro c hc hmem
    exact hc ((hf c).1 (List.mem_singleton.1 hmem).symm)

/-- The text before the first member of a class, and that member with what follows it. -/
def breakAt (p : CodePoint → Bool) (t : Text) : Text × Text :=
  (t.takeWhile fun c => !p c, t.dropWhile fun c => !p c)

theorem breakAt_append (p : CodePoint → Bool) (t : Text) : (breakAt p t).1 ++ (breakAt p t).2 = t :=
  List.takeWhile_append_dropWhile

theorem length_breakAt_snd_le (p : CodePoint → Bool) (t : Text) : (breakAt p t).2.length ≤ t.length :=
  (List.dropWhile_suffix _).length_le

/-- In front of the break there is no member of the class. -/
theorem not_of_mem_breakAt_fst {p : CodePoint → Bool} {t : Text} {c : CodePoint}
    (h : c ∈ (breakAt p t).1) : p c = false := by
  have hall := List.all_eq_true.1 (List.all_takeWhile (p := fun c => !p c) (l := t)) c h
  simpa using hall

theorem mem_of_mem_breakAt_fst {p : CodePoint → Bool} {t : Text} {c : CodePoint}
    (h : c ∈ (breakAt p t).1) : c ∈ t :=
  (List.takeWhile_prefix _).subset h

/-- A text breaks where its first member of the class stands. -/
theorem breakAt_append_of {p : CodePoint → Bool} {a b : Text} (ha : ∀ c ∈ a, p c = false)
    (hb : ∀ c, b.head? = some c → p c = true) : breakAt p (a ++ b) = (a, b) := by
  have hkept : ∀ c ∈ a, (!p c) = true := fun c hc => by rw [ha c hc]; rfl
  unfold breakAt
  rw [List.takeWhile_append_of_pos hkept, List.dropWhile_append_of_pos hkept]
  cases b with
  | nil => rw [List.takeWhile_nil, List.dropWhile_nil, List.append_nil]
  | cons c b =>
    have hc : (!p c) = false := by rw [hb c rfl]; rfl
    rw [List.takeWhile_cons, List.dropWhile_cons, hc]
    simp

/-- What holds no member of the class may be taken away in front of the break. -/
theorem breakAt_snd_append {p : CodePoint → Bool} {a : Text} (ha : ∀ c ∈ a, p c = false) (t : Text) :
    (breakAt p (a ++ t)).2 = (breakAt p t).2 :=
  List.dropWhile_append_of_pos fun c hc => by rw [ha c hc]; rfl

/-- The text before the last occurrence of `sep` and the text after it. -/
def splitLast? (sep : CodePoint) (t : Text) : Option (Text × Text) :=
  let tail := (t.reverse.takeWhile (· ≠ sep)).reverse
  match t.reverse.dropWhile (· ≠ sep) with
  | [] => none
  | _ :: front => some (front.reverse, tail)

/-- The last separator is the one that no other follows. -/
theorem splitLast?_append_cons {sep : CodePoint} {b : Text} (h : sep ∉ b) (a : Text) :
    splitLast? sep (a ++ sep :: b) = some (a, b) := by
  have hkept : ∀ c ∈ b.reverse, decide (c ≠ sep) = true := by
    intro c hc
    rw [decide_eq_true_eq]
    rintro rfl
    exact h (List.mem_reverse.1 hc)
  have hreverse : (a ++ sep :: b).reverse = b.reverse ++ sep :: a.reverse := by simp
  unfold splitLast?
  rw [hreverse, List.takeWhile_append_of_pos hkept, List.dropWhile_append_of_pos hkept]
  simp

/-- A text with a separator is split at one that no other follows. The text is looked at from its end, where the
first separator is the last one. -/
theorem eq_of_splitLast? {sep : CodePoint} {t a b : Text} (h : splitLast? sep t = some (a, b)) :
    t = a ++ sep :: b ∧ sep ∉ b := by
  -- from the end of the text, the first separator is the last one
  have htail : sep ∉ t.reverse.takeWhile fun c => decide (c ≠ sep) := by
    intro hmem
    have hall := List.all_eq_true.1 List.all_takeWhile sep hmem
    simp at hall
  have hsplit := List.takeWhile_append_dropWhile (p := fun c => decide (c ≠ sep)) (l := t.reverse)
  have hhead := List.head?_dropWhile_not (fun c => decide (c ≠ sep)) t.reverse
  unfold splitLast? at h
  cases hdrop : t.reverse.dropWhile fun c => decide (c ≠ sep) with
  | nil =>
    rw [hdrop] at h
    cases h
  | cons c front =>
    rw [hdrop] at h hsplit hhead
    obtain rfl : c = sep := by simpa using hhead
    cases h
    refine ⟨?_, fun hmem => htail (List.mem_reverse.1 hmem)⟩
    have ht := congrArg List.reverse hsplit
    rw [List.reverse_append, List.reverse_cons, List.reverse_reverse] at ht
    rw [List.append_assoc, List.singleton_append] at ht
    exact ht.symm

/-- A text that is not split has no separator: searched from its end, it has been passed over to its start. -/
theorem not_mem_of_splitLast? {sep : CodePoint} {t : Text} (h : splitLast? sep t = none) : sep ∉ t := by
  intro hmem
  unfold splitLast? at h
  cases hdrop : t.reverse.dropWhile fun c => decide (c ≠ sep) with
  | nil =>
    have htake := List.takeWhile_append_dropWhile (p := fun c => decide (c ≠ sep)) (l := t.reverse)
    rw [hdrop, List.append_nil] at htake
    have hall : ∀ c ∈ t.reverse, decide (c ≠ sep) = true := by
      rw [← htake]
      exact List.all_eq_true.1 List.all_takeWhile
    exact absurd (hall sep (List.mem_reverse.2 hmem)) (by simp)
  | cons c front =>
    rw [hdrop] at h
    cases h

/-- And the other way about. -/
theorem splitLast?_eq_none {sep : CodePoint} {t : Text} (h : sep ∉ t) : splitLast? sep t = none := by
  cases hsplit : splitLast? sep t with
  | none => rfl
  | some parts =>
    obtain ⟨rfl, -⟩ := eq_of_splitLast? hsplit
    exact absurd (List.mem_append_right _ List.mem_cons_self) h

/-- `text` if it starts with `start`, without it. -/
def dropStart? (start : Text) (t : Text) : Option Text :=
  if start.isPrefixOf t then some (t.drop start.length) else none

theorem dropStart?_append (start rest : Text) : dropStart? start (start ++ rest) = some rest := by
  unfold dropStart?
  rw [if_pos (List.isPrefixOf_iff_prefix.2 (List.prefix_append start rest)), List.drop_left]

/-- What is left belongs behind the start. -/
theorem eq_of_dropStart? {start t rest : Text} (h : dropStart? start t = some rest) :
    t = start ++ rest := by
  unfold dropStart? at h
  split at h
  · next hstarts =>
    obtain ⟨back, rfl⟩ := List.isPrefixOf_iff_prefix.1 hstarts
    rw [List.drop_left] at h
    rw [Option.some.inj h]
  · cases h

/-- Only the end of a text is stripped: what stands before it stays, if it does not end in a member of
the class itself. -/
theorem stripRightBy_append_of {p : CodePoint → Bool} {a : Text} (ha : ∃ c, a.getLast? = some c ∧ p c = false)
    (b : Text) : stripRightBy p (a ++ b) = a ++ stripRightBy p b := by
  obtain ⟨c, hlast, hc⟩ := ha
  have hhead : a.reverse.head? = some c := by rw [List.head?_reverse, hlast]
  -- seen from its end, the first text begins with what is no member of the class
  have hstays : a.reverse.dropWhile p = a.reverse := by
    cases hreverse : a.reverse with
    | nil => rfl
    | cons d rest =>
      obtain rfl : d = c := by rw [hreverse] at hhead; exact Option.some.inj hhead
      rw [List.dropWhile_cons, if_neg (by rw [hc]; exact Bool.false_ne_true)]
  unfold stripRightBy
  rw [List.reverse_append, List.dropWhile_append]
  split
  · next hempty =>
    rw [List.isEmpty_iff.1 hempty, hstays, List.reverse_reverse, List.reverse_nil, List.append_nil]
  · rw [List.reverse_append, List.reverse_reverse]

/-- A text that does not end in a member of the class has nothing to strip. -/
theorem stripRightBy_concat {p : CodePoint → Bool} {t : Text} {c : CodePoint} (hc : p c = false) :
    stripRightBy p (t ++ [c]) = t ++ [c] := by
  have hstrip := stripRightBy_append_of ⟨c, List.getLast?_concat (l := t), hc⟩ []
  rw [List.append_nil] at hstrip
  rw [hstrip]
  exact List.append_nil _

/-- A text that neither begins nor ends with a member of the class has nothing to strip. -/
theorem stripBy_of_ends {p : CodePoint → Bool} {t : Text} (hhead : ∀ c, t.head? = some c → p c = false)
    (hlast : ∀ c, t.getLast? = some c → p c = false) : stripBy p t = t := by
  have hstays {t : Text} (h : ∀ c, t.head? = some c → p c = false) : t.dropWhile p = t := by
    cases t with
    | nil => rfl
    | cons c t => rw [List.dropWhile_cons, if_neg (by rw [h c rfl]; exact Bool.false_ne_true)]
  have hback : ∀ c, t.reverse.head? = some c → p c = false := by
    intro c hc
    rw [List.head?_reverse] at hc
    exact hlast c hc
  rw [stripBy, hstays hhead, hstays hback, List.reverse_reverse]

theorem stripBy_of_forall {p : CodePoint → Bool} {t : Text} (h : ∀ c ∈ t, p c = false) :
    stripBy p t = t :=
  stripBy_of_ends (fun c hc => h c (List.mem_of_head? hc)) fun c hc => h c (List.mem_of_getLast? hc)

/-- What is left after stripping stands at the beginning. -/
theorem stripRightBy_prefix (p : CodePoint → Bool) (t : Text) : stripRightBy p t <+: t := by
  have h := List.dropWhile_suffix p (l := t.reverse)
  rw [← List.reverse_prefix, List.reverse_reverse] at h
  exact h

/-- What is stripped from the end consists of members of the class. -/
theorem of_mem_stripped {p : CodePoint → Bool} {t back : Text} (h : t = stripRightBy p t ++ back)
    {c : CodePoint} (hc : c ∈ back) : p c = true := by
  have hreverse := List.takeWhile_append_dropWhile (p := p) (l := t.reverse)
  have hback : back = (t.reverse.takeWhile p).reverse := by
    have hboth : stripRightBy p t ++ back = stripRightBy p t ++ (t.reverse.takeWhile p).reverse := by
      rw [← h, stripRightBy, ← List.reverse_append, hreverse, List.reverse_reverse]
    exact List.append_cancel_left hboth
  rw [hback, List.mem_reverse] at hc
  exact List.all_eq_true.1 List.all_takeWhile c hc

/-- The lowest `width` hexadecimal digits of a number, letters in lower case. -/
def hexDigits (width n : Nat) : Text :=
  (List.range width).reverse.map fun place => CodePoint.digit (n / Nat.pow 16 place % 16)

/-- `n` copies of a text. -/
def repeated (n : Nat) (t : Text) : Text := (List.replicate n t).flatten

end Text

end ClusterClient
