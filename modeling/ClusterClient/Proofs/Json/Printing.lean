import ClusterClient.Json.Writer
import ClusterClient.Proofs.Json.Spelling

/-!
# Documents as they are printed

A printed document consists of its tokens, whatever the layout: gaps stand only between them, a string is a spelling
of the text it prints, and a whole number of the number. So it is read back, if the dialect admits it.

What is printed of a number with a fraction is not looked into here: a document is said to be printed well if each of
its scalars and names is.

## The architecture

* **`Json.leaves`**: the scalars and names of a document (`leaves_list`, `leaves_object`).
* **`Token.inside_escaped`**, **`Token.spells_whole`**: what is printed of a text and of a whole number spells it.
* **`Token.Lexes.append`**: texts of tokens side by side.
* **`Json.lexes_write`**: a document at a depth, by induction on the document; **`Json.read?_toText`** reads it back.
* **`Token.isSurrogate_of_lexes`**: where half a surrogate pair is not admitted, there is none.
-/

namespace ClusterClient

namespace Json

/-! ## Scalars and names -/

/-- The scalars and names of a document, in order. -/
def leaves (document : Json) : List Token := document.tokens.filter fun token => !token.isMark

/-- What stands behind the first item: commas, which are marks, and the items. -/
theorem filter_moreItems (items : List Json) :
    (moreItems items).filter (fun token => !token.isMark) = items.flatMap leaves := by
  induction items with
  | nil => rfl
  | cons item rest ih =>
    rw [moreItems, List.filter_cons_of_neg (by decide), List.filter_append, ih, List.flatMap_cons]
    rfl

/-- What stands behind the first member. Of each member there stay its name and the scalars and names of its
value. -/
theorem filter_moreMembers (members : List (Text × Json)) :
    (moreMembers members).filter (fun token => !token.isMark) =
      members.flatMap fun member => .text member.1 :: member.2.leaves := by
  induction members with
  | nil => rfl
  | cons member rest ih =>
    obtain ⟨name, value⟩ := member
    rw [moreMembers, List.filter_cons_of_neg (by decide), List.filter_cons_of_pos (by rfl),
      List.filter_cons_of_neg (by decide), List.filter_append, ih, List.flatMap_cons]
    rfl

/-- The scalars and names of a list are those of its items; brackets and commas are gone. -/
theorem leaves_list (items : List Json) : (list items).leaves = items.flatMap leaves := by
  cases items with
  | nil => rfl
  | cons item rest =>
    rw [leaves, tokens, List.filter_cons_of_neg (by decide), List.filter_append, List.filter_append, filter_moreItems,
      List.filter_cons_of_neg (by decide), List.filter_nil, List.append_nil, List.flatMap_cons]
    rfl

/-- The scalars and names of an object are, member by member, the name and those of the value. -/
theorem leaves_object (members : List (Text × Json)) :
    (object members).leaves = members.flatMap fun member => .text member.1 :: member.2.leaves := by
  cases members with
  | nil => rfl
  | cons member rest =>
    obtain ⟨name, value⟩ := member
    rw [leaves, tokens, List.filter_cons_of_neg (by decide), List.filter_cons_of_pos (by rfl),
      List.filter_cons_of_neg (by decide), List.filter_append, List.filter_append, filter_moreMembers,
      List.filter_cons_of_neg (by decide), List.filter_nil, List.append_nil, List.flatMap_cons]
    rfl

end Json

namespace Json.Token

variable {dialect : Dialect} {layout : Layout}

/-- What is printed of a scalar or a name. -/
def printed (layout : Layout) : Token → Text
  | null => "null"
  | flag true => "true"
  | flag false => "false"
  | whole n => Whole.toText n
  | real x => x.toText .document
  | text t => string layout t
  | _ => []

/-! ## Strings -/

/-- Digits are printed in lower case and read in both. -/
theorem hexValue?_digit {d : Nat} (h : d < 16) : (CodePoint.digit d).hexValue? = some d := by
  have hall : ∀ d < 16, (CodePoint.digit d).hexValue? = some d := by decide
  exact hall d h

/-- An escape of a unit is one of four digits, which are read as that unit. What is to be shown is that a number
below `0x10000` is made up of its four digits. -/
theorem exists_unitEscape {n : Nat} (h : n < 0x10000) :
    ∃ p q r s, unitEscape n = [CodePoint.ofChar '\\', CodePoint.ofChar 'u', p, q, r, s] ∧
      fourHex? p q r s = some n := by
  refine ⟨_, _, _, _, rfl, ?_⟩
  simp only [fourHex?, hexValue?_digit (Nat.mod_lt _ (show 0 < 16 by decide)), Option.bind_eq_bind, Option.bind_some,
    Option.some.injEq]
  simp only [Nat.pow_eq]
  omega

theorem ofNat_val (c : CodePoint) : CodePoint.ofNat c.val = c := by
  rw [CodePoint.ofNat, CodePoint.ofNat?_val]
  rfl

/-- **A code point that is no half of a surrogate pair is written by its units.** Beyond `0xFFFF` these are two,
which are read together as the code point they were made of. -/
theorem inside_unitEscapes {c : CodePoint} (hc : c.isSurrogate = false) {inside t : Text} (h : Inside inside t) :
    Inside (unitEscapes c ++ inside) (c :: t) := by
  simp only [CodePoint.isSurrogate, Bool.and_eq_false_iff, decide_eq_false_iff_not] at hc
  unfold unitEscapes
  split
  -- one unit stands for itself, and as it is no half of a pair nothing can join with it
  · next hunit =>
    obtain ⟨p, q, r, s, hunit, hfour⟩ := exists_unitEscape hunit
    have hinside := Inside.unit hfour (fun hfirst hlast => by omega) h
    rw [ofNat_val] at hinside
    rwa [hunit]
  -- two units: a high one and a low one, from which the offset comes back
  · next hpair =>
    have hlt := c.isLt
    obtain ⟨p, q, r, s, hhigh, hfour⟩ := exists_unitEscape (n := 0xD800 + (c.val - 0x10000) / 0x400) (by omega)
    obtain ⟨p', q', r', s', hlow, hfour'⟩ := exists_unitEscape (n := 0xDC00 + (c.val - 0x10000) % 0x400) (by omega)
    have hinside := Inside.pair hfour (by omega) hfour' (by omega) h
    have hback : 0x10000 + (0xD800 + (c.val - 0x10000) / 0x400 - 0xD800) * 0x400 +
        (0xDC00 + (c.val - 0x10000) % 0x400 - 0xDC00) = c.val := by omega
    rw [hback, ofNat_val] at hinside
    rwa [hhigh, hlow]

/-- **One code point is written inside a string in one of the ways there are**: by a short escape, by its
number, or as it is. Which one is asked in the order in which the layout decides. -/
theorem inside_escape {c : CodePoint} (hc : layout.ascii = true → c.isSurrogate = false) {inside t : Text}
    (h : Inside inside t) : Inside (escape layout c ++ inside) (c :: t) := by
  unfold escape
  split
  · next hquote => exact hquote ▸ .short rfl h
  next hquote =>
  split
  · next hescape => exact hescape ▸ .short rfl h
  next hescape =>
  split
  · next hline => exact hline ▸ .short rfl h
  split
  · next hreturn => exact hreturn ▸ .short rfl h
  split
  · next htab => exact htab ▸ .short rfl h
  split
  · next hback =>
    -- marks of control that have a letter of their own
    have hval : c = 0x08 := Fin.ext hback
    exact hval ▸ .short rfl h
  split
  · next hfeed =>
    have hval : c = 0x0C := Fin.ext hfeed
    exact hval ▸ .short rfl h
  split
  · next hcontrol =>
    obtain ⟨p, q, r, s, hunit, hfour⟩ := exists_unitEscape (n := c.val) (by omega)
    have hinside := Inside.unit hfour (fun hfirst => by omega) h
    rw [ofNat_val] at hinside
    rwa [hunit]
  next hcontrol =>
  split
  · next hascii => exact inside_unitEscapes (hc (Bool.and_eq_true_iff.1 hascii).1) h
  · exact .plain (by omega) hquote hescape h

/-- **What is printed of a text is the inside of a string that writes it.** Where only ASCII is printed, the
text may not hold half a surrogate pair, as that could join with the other half beside it. -/
theorem inside_escaped {t : Text} (h : layout.ascii = true → ∀ c ∈ t, c.isSurrogate = false) :
    Inside (t.flatMap (escape layout)) t := by
  induction t with
  | nil => exact .nil
  | cons c t ih =>
    rw [List.flatMap_cons]
    exact inside_escape (fun hascii => h hascii c List.mem_cons_self)
      (ih fun hascii d hd => h hascii d (List.mem_cons_of_mem c hd))

/-- A printed text in its quotes is a spelling, if the dialect keeps the text. -/
theorem spells_text {t : Text} (hkeeps : dialect.Keeps t)
    (h : layout.ascii = true → ∀ c ∈ t, c.isSurrogate = false) :
    Spells dialect (.text t) (printed layout (.text t)) :=
  .text (inside_escaped h) hkeeps

/-! ## Whole numbers -/

/-- The digits of a number, as their values. -/
def digitsOf (n : Nat) : List Nat := (Text.ofNat n).map fun c => c.val - 0x30

/-- **The digits that are printed of a number may stand at its front**: they are digits, and there is no zero in
front but in zero itself. -/
theorem isFront_ofNat (n : Nat) : IsFront (Text.ofNat n) (digitsOf n) where
  digits := by
    unfold Numeral.digitRun?
    rw [if_neg (by rw [List.isEmpty_iff]; exact Whole.ofNat_ne_nil n),
      if_pos (List.all_eq_true.2 fun c hc => Whole.isAsciiDigit_of_mem_ofNat hc)]
    rfl
  canonical hzero := by
    -- a zero in front would make the number as short as what is behind it
    have hofDigits : Numeral.ofDigits (digitsOf n) = n := Whole.ofDigits_ofNat n
    have hlength : (Text.ofNat n).length = (digitsOf n).length := (List.length_map _).symm
    have hdigits : ∀ d ∈ digitsOf n, d < 10 := by
      intro d hd
      obtain ⟨c, hc, rfl⟩ := List.mem_map.1 hd
      have hdigit := Whole.isAsciiDigit_of_mem_ofNat hc
      simp only [CodePoint.isAsciiDigit, Bool.and_eq_true, decide_eq_true_eq] at hdigit
      omega
    revert hofDigits hlength hdigits
    cases hrun : digitsOf n with
    | nil => rw [hrun] at hzero; cases hzero
    | cons d rest =>
      intro hofDigits hlength hdigits
      rw [hrun] at hzero
      obtain rfl : d = 0 := Option.some.inj hzero
      by_contra hlong
      have hrest : 0 < rest.length := by
        rw [List.length_cons] at hlong
        omega
      have hlt : n < Nat.pow 10 rest.length := by
        rw [← hofDigits]
        exact Numeral.ofDigits_lt (List.forall_mem_cons.1 hdigits).2
      have hle := (Whole.length_ofNat_le_iff hrest).2 hlt
      rw [hlength, List.length_cons] at hle
      omega

/-- A sign and digits make up the number that they were taken from. -/
theorem signed_digitsOf (n : Int) : Whole.signed (decide (n < 0)) (digitsOf n.natAbs) = n := by
  rw [Whole.signed, digitsOf, Whole.ofDigits_ofNat]
  split
  · next hneg =>
    rw [decide_eq_true_eq] at hneg
    omega
  · next hneg =>
    rw [decide_eq_true_eq] at hneg
    omega

/-- What is printed of a whole number is its sign and the digits without it. -/
theorem toText_eq_minus (n : Int) : Whole.toText n = minus (decide (n < 0)) ++ Text.ofNat n.natAbs := by
  rw [Whole.toText, minus]
  by_cases hneg : n < 0
  · rw [if_pos hneg, if_pos (decide_eq_true hneg)]
    rfl
  · rw [if_neg hneg, if_neg (by simpa using hneg)]
    rfl

/-- **What is printed of a whole number spells it**, if the dialect admits that many digits. -/
theorem spells_whole {n : Int} (h : dialect.Spans (decide (n < 0)) (digitsOf n.natAbs)) :
    Spells dialect (.whole n) (printed layout (.whole n)) := by
  have hspells := Spells.whole (isFront_ofNat n.natAbs) h
  rw [signed_digitsOf, ← toText_eq_minus] at hspells
  exact hspells

/-! ## Texts of tokens -/

/-- Blanks in front of tokens do not matter. -/
theorem Lexes.gap {tokens : List Token} {gap t : Text} (hgap : ∀ c ∈ gap, isGap c = true)
    (h : Lexes dialect tokens t) : Lexes dialect tokens (gap ++ t) := by
  cases h with
  | nil hgap' => exact .nil (List.forall_mem_append.2 ⟨hgap, hgap'⟩)
  | cons hgap' hword hrest =>
    rw [← List.append_assoc]
    exact .cons (List.forall_mem_append.2 ⟨hgap, hgap'⟩) hword hrest

/-- **Texts of tokens stand side by side.** That two words could run together there is seen to elsewhere:
`Lexes` says only which words there are, `Apart` that they are read one by one. -/
theorem Lexes.append {tokens more : List Token} {t u : Text} (h : Lexes dialect tokens t)
    (h' : Lexes dialect more u) : Lexes dialect (tokens ++ more) (t ++ u) := by
  induction h with
  -- blanks behind the last token come in front of what follows
  | nil hgap => exact h'.gap hgap
  | cons hgap hword hrest ih =>
    rw [List.cons_append, List.append_assoc, List.append_assoc]
    exact .cons hgap hword ih

theorem Lexes.of_spells {token : Token} {word : Text} (h : Spells dialect token word) : Lexes dialect [token] word := by
  rw [← List.append_nil word]
  exact .next h (.nil (List.forall_mem_nil _))

theorem Lexes.of_gap {gap : Text} (h : ∀ c ∈ gap, isGap c = true) : Lexes dialect [] gap := .nil h

end Json.Token

/-! ## Documents -/

namespace Json

open Token

variable {dialect : Dialect} {layout : Layout}

/-- What leads a line is the line end and blanks, or nothing at all where a document is printed on one line. -/
theorem isGap_of_mem_lead (layout : Layout) (depth : Nat) : ∀ c ∈ layout.lead depth, isGap c = true := by
  unfold Layout.lead
  cases layout.indent with
  | none => exact List.forall_mem_nil _
  | some width => exact List.forall_mem_cons.2 ⟨rfl, fun c hc => (List.eq_of_mem_replicate hc) ▸ rfl⟩

/-- Between two items there is a comma and blanks, in every layout. -/
theorem lexes_separator (layout : Layout) (depth : Nat) : Lexes dialect [.comma] (layout.separator depth) := by
  have hcomma {gap : Text} (hgap : ∀ c ∈ gap, isGap c = true) :
      Lexes dialect [.comma] (CodePoint.ofChar ',' :: gap) := .next .comma (.nil hgap)
  unfold Layout.separator
  cases layout.indent with
  | none => exact hcomma (List.forall_mem_singleton.2 rfl)
  | some width => exact hcomma (isGap_of_mem_lead layout depth)

theorem lexes_colon : Lexes dialect [.colon] ": " :=
  .next .colon (.nil (List.forall_mem_singleton.2 rfl))

theorem join_singleton (sep part : Text) : Text.join sep [part] = part := by
  simp [Text.join, List.intercalate]

/-- The first two parts and what is between them can be taken for one part. In this form items are added one by
one to what is printed before them, as in `lexes_moreItems`. -/
theorem join_cons_cons (sep part next : Text) (parts : List Text) :
    Text.join sep (part :: next :: parts) = Text.join sep ((part ++ (sep ++ next)) :: parts) := by
  cases parts <;> simp [Text.join, List.intercalate]

/-- Items between brackets: each bracket may have a line of its own, so blanks stand behind the first and in
front of the last. -/
theorem lexes_bracketed {depth : Nat} {first last : Token} {left right item : Text} {items : List Text}
    {tokens : List Token} (hfirst : Spells dialect first left) (hlast : Spells dialect last right)
    (h : Lexes dialect tokens (Text.join (layout.separator (depth + 1)) (item :: items))) :
    Lexes dialect (first :: (tokens ++ [last])) (bracketed layout depth left right (item :: items)) := by
  have hfront := (Lexes.of_spells hfirst).append (.of_gap (isGap_of_mem_lead layout (depth + 1)))
  have hback := (Lexes.of_gap (isGap_of_mem_lead layout depth)).append (.of_spells hlast)
  have hall := (hfront.append h).append hback
  rw [bracketed, if_neg (by simp)]
  simpa only [List.append_assoc, List.append_nil, List.cons_append, List.nil_append] using hall

mutual

/-- **A document is printed as its tokens** at whatever depth, if its scalars and names are. The recursion is
that of the printer: a container is its brackets around what is inside, with line ends and blanks that no token
needs. -/
theorem lexes_write (document : Json) (depth : Nat)
    (h : ∀ token ∈ document.leaves, Spells dialect token (printed layout token)) :
    Lexes dialect document.tokens (write layout depth document) := by
  match document with
  | .null => exact .of_spells .null
  | .flag true => exact .of_spells .yes
  | .flag false => exact .of_spells .no
  | .whole n => exact .of_spells (h _ List.mem_cons_self)
  | .real x => exact .of_spells (h _ List.mem_cons_self)
  | .text t => exact .of_spells (h _ List.mem_cons_self)
  | .list [] => exact .next .openList (.of_spells .closeList)
  | .list (item :: items) =>
    rw [leaves_list, List.flatMap_cons, List.forall_mem_append] at h
    rw [write, writeItems, tokens]
    -- the first item has no separator in front of it
    have hitems := lexes_moreItems items (depth + 1) h.2 (lexes_write item (depth + 1) h.1)
    rw [← List.append_assoc]
    exact lexes_bracketed .openList .closeList hitems
  | .object [] => exact .next .openObject (.of_spells .closeObject)
  | .object ((name, value) :: members) =>
    rw [leaves_object, List.flatMap_cons, List.forall_mem_append, List.forall_mem_cons] at h
    obtain ⟨⟨hname, hvalue⟩, hmembers⟩ := h
    have hstring : Spells dialect (.text name) (string layout name) := hname
    rw [write, writeMembers, tokens]
    have hmember := ((Lexes.of_spells hstring).append lexes_colon).append (lexes_write value (depth + 1) hvalue)
    have hmembers := lexes_moreMembers members (depth + 1) hmembers hmember
    have hobject := lexes_bracketed .openObject .closeObject hmembers
    simpa only [List.append_assoc, List.cons_append, List.nil_append] using hobject

/-- The items behind what has been printed so far, each behind a separator. What a separator adds are gaps
around a comma, so that the tokens of the items come out one after the other. -/
theorem lexes_moreItems (items : List Json) (depth : Nat)
    (h : ∀ token ∈ items.flatMap leaves, Spells dialect token (printed layout token)) {tokens : List Token} {t : Text}
    (ht : Lexes dialect tokens t) :
    Lexes dialect (tokens ++ moreItems items)
      (Text.join (layout.separator depth) (t :: writeItems layout depth items)) := by
  -- the text so far is taken for the first part, so that the induction is on the items alone
  match items with
  | [] =>
    rwa [moreItems, List.append_nil, writeItems, join_singleton]
  | item :: items =>
    rw [List.flatMap_cons, List.forall_mem_append] at h
    have hitem := ht.append ((lexes_separator layout depth).append (lexes_write item depth h.1))
    have hitems := lexes_moreItems items depth h.2 hitem
    rw [writeItems, join_cons_cons, moreItems]
    simpa only [List.append_assoc, List.cons_append, List.nil_append] using hitems

/-- The members behind what has been printed so far; a member is its name, a colon and its value. What has been
printed is carried along, as the separator stands between it and the next member. -/
theorem lexes_moreMembers (members : List (Text × Json)) (depth : Nat)
    (h : ∀ token ∈ members.flatMap fun member => .text member.1 :: member.2.leaves,
      Spells dialect token (printed layout token)) {tokens : List Token} {t : Text} (ht : Lexes dialect tokens t) :
    Lexes dialect (tokens ++ moreMembers members)
      (Text.join (layout.separator depth) (t :: writeMembers layout depth members)) := by
  match members with
  | [] =>
    rwa [moreMembers, List.append_nil, writeMembers, join_singleton]
  | (name, value) :: members =>
    rw [List.flatMap_cons, List.forall_mem_append, List.forall_mem_cons] at h
    obtain ⟨⟨hname, hvalue⟩, hmembers⟩ := h
    have hstring : Spells dialect (.text name) (string layout name) := hname
    have hmember := ((Lexes.of_spells hstring).append lexes_colon).append (lexes_write value depth hvalue)
    have hfront := ht.append ((lexes_separator layout depth).append hmember)
    have hmembers := lexes_moreMembers members depth hmembers hfront
    rw [writeMembers, join_cons_cons, moreMembers]
    simpa only [List.append_assoc, List.cons_append, List.nil_append] using hmembers

end

/-! ## Without half a pair -/

theorem isSurrogate_of_isAscii {c : CodePoint} (h : c.isAscii = true) : c.isSurrogate = false := by
  rw [CodePoint.isAscii, decide_eq_true_eq] at h
  rw [CodePoint.isSurrogate, Bool.and_eq_false_iff, decide_eq_false_iff_not]
  exact .inl (by omega)

/-- Numbers and the words `true`, `false` and `null` are of ASCII. -/
theorem isSurrogate_of_isWordPart {c : CodePoint} (h : isWordPart c = true) : c.isSurrogate = false := by
  refine isSurrogate_of_isAscii ?_
  simp only [isWordPart, CodePoint.isAsciiLetter, CodePoint.isAsciiUpper, CodePoint.isAsciiLower,
    CodePoint.isAsciiDigit, Bool.or_eq_true, Bool.and_eq_true, decide_eq_true_eq] at h
  rw [CodePoint.isAscii, decide_eq_true_eq]
  rcases h with (((((h | h) | h) | rfl) | rfl) | rfl) <;> first | omega | decide

/-- The digits of an escape are of ASCII. -/
theorem isAscii_of_hexValue? {c : CodePoint} (h : c.hexValue?.isSome = true) : c.isAscii = true := by
  simp only [CodePoint.hexValue?, CodePoint.isAsciiDigit, Bool.and_eq_true, decide_eq_true_eq] at h
  rw [CodePoint.isAscii, decide_eq_true_eq]
  split_ifs at h
  · omega
  · omega
  · omega
  · cases h

/-- So are the letters of short escapes. -/
theorem isAscii_of_shortEscape? {e c : CodePoint} (h : shortEscape? e = some c) : e.isAscii = true := by
  simp only [shortEscape?, Bool.or_eq_true, decide_eq_true_eq] at h
  split_ifs at h with hself hb hf hn hr ht
  · rcases hself with (rfl | rfl) | rfl <;> decide
  · exact hb ▸ rfl
  · exact hf ▸ rfl
  · exact hn ▸ rfl
  · exact hr ▸ rfl
  · exact ht ▸ rfl

/-- **The inside of a string has half a surrogate pair only if its text has**: escapes are of ASCII, and what is
no escape stands in the text. -/
theorem isSurrogate_of_inside {inside t : Text} (h : Inside inside t) (ht : ∀ c ∈ t, c.isSurrogate = false) :
    ∀ c ∈ inside, c.isSurrogate = false := by
  -- an escape by number is of ASCII from its mark to its last digit
  have hunit {p q r s : CodePoint} {n : Nat} (hn : fourHex? p q r s = some n) :
      ∀ c ∈ [CodePoint.ofChar '\\', CodePoint.ofChar 'u', p, q, r, s], c.isSurrogate = false := by
    obtain ⟨-, hp, hq, hr, hs⟩ := fourHex?_eq_some hn
    have hdigits : ∀ c ∈ [p, q, r, s], c.isAscii = true := by
      simp only [List.forall_mem_cons, isAscii_of_hexValue? hp, isAscii_of_hexValue? hq, isAscii_of_hexValue? hr,
        isAscii_of_hexValue? hs, true_and]
      exact List.forall_mem_nil _
    exact List.forall_mem_cons.2 ⟨rfl, List.forall_mem_cons.2 ⟨rfl, fun c hc => isSurrogate_of_isAscii (hdigits c hc)⟩⟩
  induction h with
  | nil => exact ht
  | plain hc hquote hescape h ih =>
    obtain ⟨hc, ht⟩ := List.forall_mem_cons.1 ht
    exact List.forall_mem_cons.2 ⟨hc, ih ht⟩
  | short hc h ih =>
    exact List.forall_mem_cons.2 ⟨rfl, List.forall_mem_cons.2
      ⟨isSurrogate_of_isAscii (isAscii_of_shortEscape? hc), ih (List.forall_mem_cons.1 ht).2⟩⟩
  | unit hn halone h ih =>
    exact List.forall_mem_append.2 ⟨hunit hn, ih (List.forall_mem_cons.1 ht).2⟩
  | pair hhigh hfirst hlow hsecond h ih =>
    have hmore := ih (List.forall_mem_cons.1 ht).2
    exact List.forall_mem_append.2 ⟨hunit hhigh, List.forall_mem_append.2 ⟨hunit hlow, hmore⟩⟩

/-- **A text of tokens has half a surrogate pair only if the dialect keeps it.** Strings are the only place for
one; words and blanks are of ASCII. -/
theorem isSurrogate_of_lexes (hdialect : dialect.keepsLoneSurrogates = false) {tokens : List Token} {t : Text}
    (h : Lexes dialect tokens t) : ∀ c ∈ t, c.isSurrogate = false := by
  have hgaps {gap : Text} (hgap : ∀ c ∈ gap, isGap c = true) : ∀ c ∈ gap, c.isSurrogate = false := by
    intro c hc
    have hc := hgap c hc
    simp only [isGap, Bool.or_eq_true, decide_eq_true_eq] at hc
    rcases hc with ((rfl | rfl) | rfl) | rfl <;> rfl
  have hspelled {token : Token} {word : Text} (hword : Spells dialect token word) :
      ∀ c ∈ word, c.isSurrogate = false := by
    -- a word, a string or a mark
    cases hisWord : token.isWord with
    | true =>
      exact fun c hc => isSurrogate_of_isWordPart ((hword.of_isWord hisWord).2.1 c hc)
    | false =>
      cases hword with
      | text hinside hkeeps =>
        have ht := hkeeps.resolve_left (by rw [hdialect]; exact Bool.false_ne_true)
        refine List.forall_mem_cons.2 ⟨rfl, List.forall_mem_append.2 ⟨isSurrogate_of_inside hinside ht, ?_⟩⟩
        exact List.forall_mem_singleton.2 rfl
      | null => cases hisWord
      | yes => cases hisWord
      | no => cases hisWord
      | whole => cases hisWord
      | real => cases hisWord
      | _ => exact List.forall_mem_singleton.2 rfl
  induction h with
  | nil hgap => exact hgaps hgap
  | cons hgap hword hrest ih =>
    exact List.forall_mem_append.2 ⟨hgaps hgap, List.forall_mem_append.2 ⟨hspelled hword, ih⟩⟩

/-- **A document is read back from its text**, if its scalars and names are printed as the dialect spells them and no
container is too deep for it. -/
theorem read?_toText {document : Json} (h : ∀ token ∈ document.leaves, Spells dialect token (printed layout token))
    (hdepth : dialect.Admits document.height) : read? dialect (document.toText layout) = some document :=
  read?_of_isWrittenBy (lexes_write document 0 h) hdepth

end Json

end ClusterClient
