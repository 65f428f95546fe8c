import ClusterClient.Text.Quoted

/-!
# Octets of a text

A text is written as octets in UTF-8, or in ASCII where a header demands it. A codec that lacks some
code point refuses the text and names the first run that it lacks. Reading UTF-8 is strict: overlong
forms, surrogates and numbers above the last code point are refused.
-/

namespace ClusterClient

abbrev Octets := List UInt8

/-- A way to write code points as octets. -/
inductive Codec where
  | utf8
  | ascii
  deriving DecidableEq, Repr

/-- The first run of code points that a codec has no octets for. -/
structure Unencodable where
  codec : Codec
  start : Nat
  run : Text
  deriving DecidableEq, Repr

namespace CodePoint

/-- The UTF-8 octets of a code point. -/
def utf8 (c : CodePoint) : Octets :=
  let n := c.val
  if n < 0x80 then [n.toUInt8]
  else if n < 0x800 then [(0xC0 + n / 0x40).toUInt8, (0x80 + n % 0x40).toUInt8]
  else if n < 0x10000 then
    [(0xE0 + n / 0x1000).toUInt8, (0x80 + n / 0x40 % 0x40).toUInt8, (0x80 + n % 0x40).toUInt8]
  else
    [(0xF0 + n / 0x40000).toUInt8, (0x80 + n / 0x1000 % 0x40).toUInt8,
      (0x80 + n / 0x40 % 0x40).toUInt8, (0x80 + n % 0x40).toUInt8]

end CodePoint

namespace Codec

/-- Whether the codec has no octets for a code point. -/
def lacks : Codec → CodePoint → Bool
  | utf8, c => c.isSurrogate
  | ascii, c => !c.isAscii

/-- The name of the codec in messages. -/
def name : Codec → Text
  | utf8 => "utf-8"
  | ascii => "ascii"

/-- Why the codec lacks a code point. -/
def reason : Codec → Text
  | utf8 => "surrogates not allowed"
  | ascii => "ordinal not in range(128)"

end Codec

/-- A number in decimal digits. -/
def Text.ofNat (n : Nat) : Text := ofString (toString n)

/-- The message names the code point if the run is a single one, and the positions otherwise. -/
def Unencodable.message (e : Unencodable) : Text :=
  let what : Text :=
    match e.run with
    | [c] => "character '" ++ c.numericEscape ++ "' in position " ++ Text.ofNat e.start
    | run => "characters in position " ++ Text.ofNat e.start ++ "-" ++
        Text.ofNat (e.start + run.length - 1)
  "'" ++ e.codec.name ++ "' codec can't encode " ++ what ++ ": " ++ e.codec.reason

namespace Text

/-- The octets of a text in a codec. -/
def encode (codec : Codec) (t : Text) : Except Unencodable Octets :=
  match t.breakAt codec.lacks with
  | (_, []) => .ok (t.flatMap CodePoint.utf8)
  | (front, back) => .error ⟨codec, front.length, back.takeWhile codec.lacks⟩

/-- A text without code points that the codec lacks is written code point by code point. -/
theorem encode_of_forall {codec : Codec} {t : Text} (h : ∀ c ∈ t, codec.lacks c = false) :
    t.encode codec = .ok (t.flatMap CodePoint.utf8) := by
  have hback : (t.breakAt codec.lacks).2 = [] := by
    simp only [breakAt]
    induction t with
    | nil => rfl
    | cons c t ih => simp_all
  unfold encode
  split
  · rfl
  · next heq => rw [heq] at hback; simp_all

/-- A text that was written in a codec has none of the code points that the codec lacks. -/
theorem of_encode {codec : Codec} {t : Text} {octets : Octets} (h : t.encode codec = .ok octets) :
    ∀ c ∈ t, codec.lacks c = false := by
  intro c hc
  unfold encode at h
  split at h
  · next front heq =>
    have hfront : (t.breakAt codec.lacks).1 = t := by
      have happend := breakAt_append codec.lacks t
      rw [heq, List.append_nil] at happend
      rw [heq, happend]
    exact not_of_mem_breakAt_fst (hfront.symm ▸ hc)
  · cases h

end Text

/-- Continuation octets carry six bits. -/
def isContinuation (b : UInt8) : Bool := 0x80 ≤ b && b ≤ 0xBF

/-- The code point of a two-octet form. -/
def utf8Pair? (a b : UInt8) : Option CodePoint :=
  if 0xC2 ≤ a && a ≤ 0xDF && isContinuation b then
    CodePoint.ofNat? ((a.toNat - 0xC0) * 0x40 + (b.toNat - 0x80))
  else none

/-- The code point of a three-octet form. -/
def utf8Triple? (a b c : UInt8) : Option CodePoint :=
  let n := ((a.toNat - 0xE0) * 0x40 + (b.toNat - 0x80)) * 0x40 + (c.toNat - 0x80)
  if 0xE0 ≤ a && a ≤ 0xEF && isContinuation b && isContinuation c && 0x800 ≤ n then
    (CodePoint.ofNat? n).filter fun c => !c.isSurrogate
  else none

/-- The code point of a four-octet form. -/
def utf8Quad? (a b c d : UInt8) : Option CodePoint :=
  let n := (((a.toNat - 0xF0) * 0x40 + (b.toNat - 0x80)) * 0x40 + (c.toNat - 0x80)) * 0x40 +
    (d.toNat - 0x80)
  if 0xF0 ≤ a && a ≤ 0xF4 && isContinuation b && isContinuation c && isContinuation d &&
      0x10000 ≤ n then
    CodePoint.ofNat? n
  else none

namespace Text

/-- Reads octets onto the text read so far, which is kept in reverse. -/
private def readUtf8 : Octets → Text → Option Text
  | [], out => some out.reverse
  | a :: rest, out =>
    if a < 0x80 then readUtf8 rest (CodePoint.ofNat a.toNat :: out)
    else
      match rest with
      | b :: rest =>
        match utf8Pair? a b with
        | some cp => readUtf8 rest (cp :: out)
        | none =>
          match rest with
          | c :: rest =>
            match utf8Triple? a b c with
            | some cp => readUtf8 rest (cp :: out)
            | none =>
              match rest with
              | d :: rest =>
                match utf8Quad? a b c d with
                | some cp => readUtf8 rest (cp :: out)
                | none => none
              | [] => none
          | [] => none
      | [] => none

/-- The text that these octets write in UTF-8, if they are well formed. -/
def ofUtf8? (octets : Octets) : Option Text := readUtf8 octets []

/-- Whether an octet may come second in a form that begins with `a` and has at least three. -/
def leadsOn (a b : UInt8) : Bool :=
  if a = 0xE0 then 0xA0 ≤ b && b ≤ 0xBF
  else if a = 0xED then 0x80 ≤ b && b ≤ 0x9F
  else if a = 0xF0 then 0x90 ≤ b && b ≤ 0xBF
  else if a = 0xF4 then 0x80 ≤ b && b ≤ 0x8F
  else 0xE1 ≤ a && a ≤ 0xF3 && isContinuation b

/-- Reads octets onto the text read so far; what cannot be continued to a code point is replaced. -/
private def readUtf8Lossy : Octets → Text → Text
  | [], out => out.reverse
  | a :: rest, out =>
    if a < 0x80 then readUtf8Lossy rest (CodePoint.ofNat a.toNat :: out)
    else
      match rest with
      | [] => (0xFFFD :: out).reverse
      | b :: rest₁ =>
        match utf8Pair? a b with
        | some cp => readUtf8Lossy rest₁ (cp :: out)
        | none =>
          if leadsOn a b then
            match rest₁ with
            | [] => (0xFFFD :: out).reverse
            | c :: rest₂ =>
              match utf8Triple? a b c with
              | some cp => readUtf8Lossy rest₂ (cp :: out)
              | none =>
                if 0xF0 ≤ a && isContinuation c then
                  match rest₂ with
                  | [] => (0xFFFD :: out).reverse
                  | d :: rest₃ =>
                    match utf8Quad? a b c d with
                    | some cp => readUtf8Lossy rest₃ (cp :: out)
                    | none => readUtf8Lossy (d :: rest₃) (0xFFFD :: out)
                else readUtf8Lossy (c :: rest₂) (0xFFFD :: out)
          else readUtf8Lossy (b :: rest₁) (0xFFFD :: out)

/-- The text that these octets write in UTF-8; each longest run that begins a code point and does not
continue it becomes one replacement character. -/
def ofUtf8Lossy (octets : Octets) : Text := readUtf8Lossy octets []

end Text

/-! ## What is written can be read

One lemma for each width of a code point's form. A reader of several octets first looks whether fewer of
them make a code point, so that each lemma also says which shorter forms there are not. -/

theorem toNat_toUInt8 {n : Nat} (h : n < 256) : n.toUInt8.toNat = n := by
  rw [Nat.toUInt8, UInt8.toNat_ofNat']
  exact Nat.mod_eq_of_lt h

theorem CodePoint.ofNat?_val (c : CodePoint) : CodePoint.ofNat? c.val = some c := by
  unfold CodePoint.ofNat?
  rw [dif_pos c.isLt]

theorem CodePoint.utf8_of_ascii {c : CodePoint} (h : c.val < 0x80) : c.utf8 = [c.val.toUInt8] := by
  unfold CodePoint.utf8
  rw [if_pos h]

/-- A lead of three or four octets is not taken for one of two. -/
theorem utf8Pair?_of_lead {a : UInt8} (h : 0xE0 ≤ a.toNat) (b : UInt8) : utf8Pair? a b = none := by
  unfold utf8Pair?
  rw [if_neg]
  simp only [UInt8.le_iff_toNat_le, Bool.and_eq_true, decide_eq_true_eq]
  rintro ⟨⟨-, hhigh⟩, -⟩
  have : a.toNat ≤ 0xDF := hhigh
  omega

/-- Nor is a lead of four taken for one of three. -/
theorem utf8Triple?_of_lead {a : UInt8} (h : 0xF0 ≤ a.toNat) (b c : UInt8) :
    utf8Triple? a b c = none := by
  unfold utf8Triple?
  dsimp only
  rw [if_neg]
  simp only [UInt8.le_iff_toNat_le, Bool.and_eq_true, decide_eq_true_eq]
  rintro ⟨⟨⟨⟨-, hhigh⟩, -⟩, -⟩, -⟩
  have : a.toNat ≤ 0xEF := hhigh
  omega

/-- A code point of two octets: how it is written, and that they are read back. The lower six bits go to the
second octet and the rest to the first, which is too large to be ASCII. -/
theorem utf8_of_pair {c : CodePoint} (hlow : 0x80 ≤ c.val) (hhigh : c.val < 0x800) :
    ∃ a b, c.utf8 = [a, b] ∧ ¬a < 0x80 ∧ utf8Pair? a b = some c := by
  refine ⟨(0xC0 + c.val / 0x40).toUInt8, (0x80 + c.val % 0x40).toUInt8, ?_, ?_, ?_⟩
  · unfold CodePoint.utf8
    rw [if_neg (by omega), if_pos hhigh]
  all_goals have ha : (0xC0 + c.val / 0x40).toUInt8.toNat = 0xC0 + c.val / 0x40 :=
    toNat_toUInt8 (by omega)
  · rw [UInt8.lt_iff_toNat_lt, ha]
    exact Nat.not_lt.2 (by show 0x80 ≤ 0xC0 + c.val / 0x40; omega)
  · have hb : (0x80 + c.val % 0x40).toUInt8.toNat = 0x80 + c.val % 0x40 := toNat_toUInt8 (by omega)
    unfold utf8Pair? isContinuation
    simp only [UInt8.le_iff_toNat_le, ha, hb]
    rw [if_pos]
    · rw [show (0xC0 + c.val / 0x40 - 0xC0) * 0x40 + (0x80 + c.val % 0x40 - 0x80) = c.val by omega]
      exact c.ofNat?_val
    · simp
      omega

/-- A code point of three octets, of which no two are read as one. Half a surrogate pair would have three octets
too, and is not read. -/
theorem utf8_of_triple {c : CodePoint} (hlow : 0x800 ≤ c.val) (hhigh : c.val < 0x10000)
    (hsurrogate : c.isSurrogate = false) :
    ∃ a b d, c.utf8 = [a, b, d] ∧ ¬a < 0x80 ∧ utf8Pair? a b = none ∧ Text.leadsOn a b = true ∧
      utf8Triple? a b d = some c := by
  have hoff : ¬(0xD800 ≤ c.val ∧ c.val ≤ 0xDFFF) := by simpa [CodePoint.isSurrogate] using hsurrogate
  refine ⟨(0xE0 + c.val / 0x1000).toUInt8, (0x80 + c.val / 0x40 % 0x40).toUInt8,
    (0x80 + c.val % 0x40).toUInt8, ?_, ?_, ?_, ?_, ?_⟩
  · unfold CodePoint.utf8
    rw [if_neg (by omega), if_neg (by omega), if_pos hhigh]
  all_goals have ha : (0xE0 + c.val / 0x1000).toUInt8.toNat = 0xE0 + c.val / 0x1000 :=
    toNat_toUInt8 (by omega)
  · rw [UInt8.lt_iff_toNat_lt, ha]
    exact Nat.not_lt.2 (by show 0x80 ≤ 0xE0 + c.val / 0x1000; omega)
  · exact utf8Pair?_of_lead (by omega) _
  all_goals have hb : (0x80 + c.val / 0x40 % 0x40).toUInt8.toNat = 0x80 + c.val / 0x40 % 0x40 :=
    toNat_toUInt8 (by omega)
  · unfold Text.leadsOn isContinuation
    simp only [UInt8.le_iff_toNat_le, ← UInt8.toNat_inj, ha, hb]
    -- behind 0xE0 shorter forms are left out, and behind 0xED the surrogates
    split
    · simp at *
      omega
    · split
      · simp at *
        omega
      · rw [if_neg (by simp; omega), if_neg (by simp; omega)]
        simp at *
        omega
  · have hd : (0x80 + c.val % 0x40).toUInt8.toNat = 0x80 + c.val % 0x40 := toNat_toUInt8 (by omega)
    have hnumber : ((0xE0 + c.val / 0x1000 - 0xE0) * 0x40 + (0x80 + c.val / 0x40 % 0x40 - 0x80)) * 0x40 +
        (0x80 + c.val % 0x40 - 0x80) = c.val := by omega
    unfold utf8Triple? isContinuation
    simp only [UInt8.le_iff_toNat_le, ha, hb, hd, hnumber]
    rw [if_pos]
    · rw [c.ofNat?_val]
      simp [hsurrogate]
    · simp
      omega

/-- A code point of four octets, of which neither two nor three are read as one. Each octet is determined by its
bits, and the four of them add up to the code point again. -/
theorem utf8_of_quad {c : CodePoint} (hlow : 0x10000 ≤ c.val) :
    ∃ a b d e, c.utf8 = [a, b, d, e] ∧ ¬a < 0x80 ∧ utf8Pair? a b = none ∧ Text.leadsOn a b = true ∧
      utf8Triple? a b d = none ∧ (0xF0 ≤ a && isContinuation d) = true ∧
      utf8Quad? a b d e = some c := by
  have hhigh := c.isLt
  refine ⟨(0xF0 + c.val / 0x40000).toUInt8, (0x80 + c.val / 0x1000 % 0x40).toUInt8,
    (0x80 + c.val / 0x40 % 0x40).toUInt8, (0x80 + c.val % 0x40).toUInt8, ?_, ?_, ?_, ?_, ?_, ?_, ?_⟩
  · unfold CodePoint.utf8
    rw [if_neg (by omega), if_neg (by omega), if_neg (by omega)]
  all_goals have ha : (0xF0 + c.val / 0x40000).toUInt8.toNat = 0xF0 + c.val / 0x40000 :=
    toNat_toUInt8 (by omega)
  · rw [UInt8.lt_iff_toNat_lt, ha]
    exact Nat.not_lt.2 (by show 0x80 ≤ 0xF0 + c.val / 0x40000; omega)
  · exact utf8Pair?_of_lead (by omega) _
  · have hb : (0x80 + c.val / 0x1000 % 0x40).toUInt8.toNat = 0x80 + c.val / 0x1000 % 0x40 :=
      toNat_toUInt8 (by omega)
    unfold Text.leadsOn isContinuation
    simp only [UInt8.le_iff_toNat_le, ← UInt8.toNat_inj, ha, hb]
    -- the least and the greatest first octet restrict the second one
    rw [if_neg (by simp; omega), if_neg (by simp; omega)]
    split
    · simp at *
      omega
    · split
      · simp at *
        omega
      · simp at *
        omega
  · exact utf8Triple?_of_lead (by omega) _ _
  all_goals have hd : (0x80 + c.val / 0x40 % 0x40).toUInt8.toNat = 0x80 + c.val / 0x40 % 0x40 :=
    toNat_toUInt8 (by omega)
  · unfold isContinuation
    simp only [UInt8.le_iff_toNat_le, ha, hd]
    simp
    omega
  · have hb : (0x80 + c.val / 0x1000 % 0x40).toUInt8.toNat = 0x80 + c.val / 0x1000 % 0x40 :=
      toNat_toUInt8 (by omega)
    have he : (0x80 + c.val % 0x40).toUInt8.toNat = 0x80 + c.val % 0x40 := toNat_toUInt8 (by omega)
    have hnumber : (((0xF0 + c.val / 0x40000 - 0xF0) * 0x40 + (0x80 + c.val / 0x1000 % 0x40 - 0x80)) * 0x40 +
        (0x80 + c.val / 0x40 % 0x40 - 0x80)) * 0x40 + (0x80 + c.val % 0x40 - 0x80) = c.val := by omega
    unfold utf8Quad? isContinuation
    simp only [UInt8.le_iff_toNat_le, ha, hb, hd, he, hnumber]
    rw [if_pos]
    · exact c.ofNat?_val
    · simp
      omega

namespace Text

/-- **A code point is read from its octets**, whatever follows, by cases over how many there are. In each case
the shorter readings are tried first and fail. -/
theorem readUtf8_utf8 {c : CodePoint} (h : c.isSurrogate = false) (rest : Octets) (out : Text) :
    readUtf8 (c.utf8 ++ rest) out = readUtf8 rest (c :: out) := by
  -- one octet, two, three or four: the first one tells which
  rcases Nat.lt_or_ge c.val 0x80 with hone | hone
  · have hnat : c.val.toUInt8.toNat = c.val := toNat_toUInt8 (by omega)
    have hlt : c.val.toUInt8 < 0x80 := by rw [UInt8.lt_iff_toNat_lt, hnat]; exact hone
    have hback : CodePoint.ofNat c.val.toUInt8.toNat = c := by
      rw [hnat, CodePoint.ofNat, c.ofNat?_val, Option.getD_some]
    rw [CodePoint.utf8_of_ascii hone, List.singleton_append]
    rw [readUtf8.eq_def]
    simp only [if_pos hlt, hback]
  rcases Nat.lt_or_ge c.val 0x800 with htwo | htwo
  · obtain ⟨a, b, hform, ha, hpair⟩ := utf8_of_pair hone htwo
    rw [hform]
    rw [readUtf8.eq_def]
    simp only [List.cons_append, List.nil_append, if_neg ha, hpair]
  rcases Nat.lt_or_ge c.val 0x10000 with hthree | hthree
  · obtain ⟨a, b, d, hform, ha, hpair, -, htriple⟩ := utf8_of_triple htwo hthree h
    rw [hform]
    rw [readUtf8.eq_def]
    simp only [List.cons_append, List.nil_append, if_neg ha, hpair, htriple]
  · obtain ⟨a, b, d, e, hform, ha, hpair, -, htriple, -, hquad⟩ := utf8_of_quad hthree
    rw [hform]
    rw [readUtf8.eq_def]
    simp only [List.cons_append, List.nil_append, if_neg ha, hpair, htriple, hquad]

/-- The reader that replaces faults reads it too, and finds none: it looks at one octet more at a time, and each
of them leads on. -/
theorem readUtf8Lossy_utf8 {c : CodePoint} (h : c.isSurrogate = false) (rest : Octets) (out : Text) :
    readUtf8Lossy (c.utf8 ++ rest) out = readUtf8Lossy rest (c :: out) := by
  -- the same four cases; here three and four octets are also told from what is cut short
  rcases Nat.lt_or_ge c.val 0x80 with hone | hone
  · have hnat : c.val.toUInt8.toNat = c.val := toNat_toUInt8 (by omega)
    have hlt : c.val.toUInt8 < 0x80 := by rw [UInt8.lt_iff_toNat_lt, hnat]; exact hone
    have hback : CodePoint.ofNat c.val.toUInt8.toNat = c := by
      rw [hnat, CodePoint.ofNat, c.ofNat?_val, Option.getD_some]
    rw [CodePoint.utf8_of_ascii hone, List.singleton_append]
    rw [readUtf8Lossy.eq_def]
    simp only [if_pos hlt, hback]
  rcases Nat.lt_or_ge c.val 0x800 with htwo | htwo
  · obtain ⟨a, b, hform, ha, hpair⟩ := utf8_of_pair hone htwo
    rw [hform]
    rw [readUtf8Lossy.eq_def]
    simp only [List.cons_append, List.nil_append, if_neg ha, hpair]
  rcases Nat.lt_or_ge c.val 0x10000 with hthree | hthree
  · obtain ⟨a, b, d, hform, ha, hpair, hlead, htriple⟩ := utf8_of_triple htwo hthree h
    rw [hform]
    rw [readUtf8Lossy.eq_def]
    simp only [List.cons_append, List.nil_append, if_neg ha, hpair, hlead, if_true, htriple]
  · obtain ⟨a, b, d, e, hform, ha, hpair, hlead, htriple, hthird, hquad⟩ := utf8_of_quad hthree
    rw [hform]
    rw [readUtf8Lossy.eq_def]
    simp only [List.cons_append, List.nil_append, if_neg ha, hpair, hlead, if_true, htriple,
      hthird, hquad]

/-- A text without surrogates is read back from its octets. -/
theorem ofUtf8?_utf8 {t : Text} (h : ∀ c ∈ t, c.isSurrogate = false) :
    ofUtf8? (t.flatMap CodePoint.utf8) = some t := by
  have hread (out : Text) : readUtf8 (t.flatMap CodePoint.utf8) out = some (out.reverse ++ t) := by
    induction t generalizing out with
    | nil => rw [List.flatMap_nil, readUtf8.eq_def, List.append_nil]
    | cons c t ih =>
      obtain ⟨hc, ht⟩ := List.forall_mem_cons.1 h
      rw [List.flatMap_cons, readUtf8_utf8 hc, ih ht, List.reverse_cons, List.append_assoc,
        List.singleton_append]
  exact hread []

/-- Reading that replaces faults finds none in what was written. -/
theorem ofUtf8Lossy_utf8 {t : Text} (h : ∀ c ∈ t, c.isSurrogate = false) :
    ofUtf8Lossy (t.flatMap CodePoint.utf8) = t := by
  have hread (out : Text) : readUtf8Lossy (t.flatMap CodePoint.utf8) out = out.reverse ++ t := by
    induction t generalizing out with
    | nil => rw [List.flatMap_nil, readUtf8Lossy.eq_def, List.append_nil]
    | cons c t ih =>
      obtain ⟨hc, ht⟩ := List.forall_mem_cons.1 h
      rw [List.flatMap_cons, readUtf8Lossy_utf8 hc, ih ht, List.reverse_cons, List.append_assoc,
        List.singleton_append]
  exact hread []

end Text

end ClusterClient
