import ClusterClient.Proofs.Json.Printing

/-!
# Documents as they are read

A document that is read is written with the tokens it was read from: none is lost, and none is put in. And the scalars
and names of a document are such as the dialect admits, so that they can be printed and read again.

## The architecture

* **`Reader.Has`**: what a reader has read, told from the containers that are open and from what it expects next;
  `has_place` for a value that is complete, **`has_step`** for a token, `has_run` for all of them.
* **`Json.tokens_of_ofTokens?`**: a document has the tokens that it was read from.
* **`Token.IsAdmitted`**: numbers and strings within what a dialect admits; **`isAdmitted_of_scan?`** by one step of
  the scanner (`isAdmitted_of_step?`).
* **`Json.isAdmitted_of_read?`**: so are the scalars and names of a document that was read.
-/

namespace ClusterClient.Json

/-! ## What a reader has read -/

/-- The tokens of items with commas between them. -/
def itemTokens : List Json → List Token
  | [] => []
  | item :: rest => item.tokens ++ moreItems rest

/-- The tokens of members with commas between them. -/
def memberTokens : List (Text × Json) → List Token
  | [] => []
  | (name, value) :: rest => .text name :: .colon :: (value.tokens ++ moreMembers rest)

/-- The tokens of a list, with the empty list as no exception. -/
theorem tokens_list (items : List Json) : (list items).tokens = .openList :: (itemTokens items ++ [.closeList]) := by
  cases items with
  | nil => rfl
  | cons item rest => rw [tokens, itemTokens, List.append_assoc]

/-- The tokens of an object, with the empty object as no exception. -/
theorem tokens_object (members : List (Text × Json)) :
    (object members).tokens = .openObject :: (memberTokens members ++ [.closeObject]) := by
  cases members with
  | nil => rfl
  | cons member rest => simp [tokens, memberTokens]

/-- Items that another one follows. -/
def itemsBefore (items : List Json) : List Token := if items.isEmpty then [] else itemTokens items ++ [.comma]

/-- Members that another one follows. -/
def membersBefore (members : List (Text × Json)) : List Token :=
  if members.isEmpty then [] else memberTokens members ++ [.comma]

/-- A reader keeps the items with the last one in front, so they are turned around here. -/
theorem itemsBefore_of_ne_nil {items : List Json} (h : items ≠ []) :
    itemsBefore items.reverse = itemTokens items.reverse ++ [.comma] :=
  if_neg (by simpa using h)

theorem membersBefore_of_ne_nil {members : List (Text × Json)} (h : members ≠ []) :
    membersBefore members.reverse = memberTokens members.reverse ++ [.comma] :=
  if_neg (by simpa using h)

/-- One item more is a comma and its tokens. `moreItems` is defined from the front, a reader adds at the end. -/
theorem moreItems_concat (items : List Json) (item : Json) :
    moreItems (items ++ [item]) = moreItems items ++ .comma :: item.tokens := by
  induction items with
  | nil => simp [moreItems]
  | cons first rest ih => simp [moreItems, ih]

/-- The same for one member more. -/
theorem moreMembers_concat (members : List (Text × Json)) (name : Text) (value : Json) :
    moreMembers (members ++ [(name, value)]) =
      moreMembers members ++ .comma :: .text name :: .colon :: value.tokens := by
  induction members with
  | nil => simp [moreMembers]
  | cons first rest ih => simp [moreMembers, ih]

/-- An item that is read takes its place behind those before it, with a comma if there are any. -/
theorem itemTokens_concat (items : List Json) (item : Json) :
    itemTokens (items ++ [item]) = itemsBefore items ++ item.tokens := by
  cases items with
  | nil => simp [itemTokens, itemsBefore, moreItems]
  | cons first rest => simp [itemTokens, itemsBefore, moreItems_concat]

/-- The same for a member, with its name and a colon. -/
theorem memberTokens_concat (members : List (Text × Json)) (name : Text) (value : Json) :
    memberTokens (members ++ [(name, value)]) = membersBefore members ++ .text name :: .colon :: value.tokens := by
  cases members with
  | nil => simp [memberTokens, membersBefore, moreMembers]
  | cons first rest => simp [memberTokens, membersBefore, moreMembers_concat]

theorem tokens_of_leaf? {token : Token} {document : Json} (h : token.leaf? = some document) :
    document.tokens = [token] := by
  cases token <;> first | (cases h; done) | (obtain rfl := Option.some.inj h; rfl)

/-- The tokens of a container that awaits a value. -/
def Frame.opened : Frame → List Token
  | .list items => .openList :: itemsBefore items.reverse
  | .object members name => .openObject :: (membersBefore members.reverse ++ [.text name, .colon])

/-- The tokens of the containers that await a value, given innermost first. -/
def openedAll : List Frame → List Token
  | [] => []
  | frame :: frames => openedAll frames ++ frame.opened

namespace Reader

/-- A reader that has read these tokens: one case for each thing that may come next. Nothing is said of what a
reader can be that is not reached, so the containers that are open always hold what they were opened with. -/
inductive Has : Reader → List Token → Prop
  | value (frames : List Frame) : Has ⟨frames, .value false⟩ (openedAll frames)
  | firstValue (frames : List Frame) : Has ⟨.list [] :: frames, .value true⟩ (openedAll frames ++ [.openList])
  | firstName (frames : List Frame) : Has ⟨frames, .name true []⟩ (openedAll frames ++ [.openObject])
  | name (frames : List Frame) (members : List (Text × Json)) :
    Has ⟨frames, .name false members⟩ (openedAll frames ++ .openObject :: membersBefore members.reverse)
  | colon (frames : List Frame) (members : List (Text × Json)) (name : Text) :
    Has ⟨frames, .colon members name⟩
      (openedAll frames ++ .openObject :: (membersBefore members.reverse ++ [.text name]))
  | moreItems (frames : List Frame) {items : List Json} (h : items ≠ []) :
    Has ⟨.list items :: frames, .more⟩ (openedAll frames ++ .openList :: itemTokens items.reverse)
  | moreMembers (frames : List Frame) {members : List (Text × Json)} (last : Text) (h : members ≠ []) :
    Has ⟨.object members last :: frames, .more⟩ (openedAll frames ++ .openObject :: memberTokens members.reverse)
  | nothing (document : Json) : Has ⟨[], .nothing document⟩ document.tokens

/-- **A value that has been read takes its place**: it is the document, the next item of the innermost list, or
the value of the last name of the innermost object. -/
theorem has_place (document : Json) (frames : List Frame) :
    Has (place document frames) (openedAll frames ++ document.tokens) := by
  match frames with
  | [] => exact .nothing document
  | .list items :: frames =>
    have hhas := Has.moreItems frames (List.cons_ne_nil document items)
    rw [List.reverse_cons, itemTokens_concat] at hhas
    simpa [openedAll, Frame.opened, place] using hhas
  | .object members name :: frames =>
    have hhas := Has.moreMembers frames name (List.cons_ne_nil (name, document) members)
    rw [List.reverse_cons, memberTokens_concat] at hhas
    simpa [openedAll, Frame.opened, place] using hhas

/-- The first token of a value has been read. It is a value of its own, or it opens a container; no other token
begins a value. -/
theorem has_beginValue {frames : List Frame} {token : Token} {next : Reader}
    (h : beginValue? frames token = some next) : Has next (openedAll frames ++ [token]) := by
  -- a value of one token is complete at once
  have hleaf {document : Json} (hdocument : token.leaf? = some document)
      (hplace : some (place document frames) = some next) : Has next (openedAll frames ++ [token]) := by
    obtain rfl := Option.some.inj hplace
    rw [← tokens_of_leaf? hdocument]
    exact has_place document frames
  cases token with
  | openList =>
    obtain rfl := Option.some.inj h
    exact .firstValue frames
  | openObject =>
    obtain rfl := Option.some.inj h
    exact .firstName frames
  | null => exact hleaf rfl h
  | flag b => exact hleaf rfl h
  | whole n => exact hleaf rfl h
  | real x => exact hleaf rfl h
  | text t => exact hleaf rfl h
  | closeList => cases h
  | closeObject => cases h
  | comma => cases h
  | colon => cases h

variable {dialect : Dialect}

/-- Where a value may stand, a token begins one, or ends a list that has no items. This second way is open only
right behind the bracket that opens the list. -/
theorem step?_value {first : Bool} {frames : List Frame} {token : Token} {next : Reader}
    (h : step? dialect token ⟨frames, .value first⟩ = some next) :
    beginValue? frames token = some next ∨
      first = true ∧ token = .closeList ∧
        ∃ items outer, frames = .list items :: outer ∧ next = place (.list []) outer := by
  have hbegin (hvalue : (if first && !mayHold dialect frames.length then none else beginValue? frames token) =
      some next) : beginValue? frames token = some next := by
    split at hvalue
    · cases hvalue
    · exact hvalue
  cases first with
  | false => cases token <;> exact .inl (hbegin h)
  | true =>
    cases token with
    | closeList =>
      refine .inr ⟨rfl, rfl, ?_⟩
      -- only a list can be closed here, and only one without items
      match frames, h with
      | .list items :: outer, h => exact ⟨items, outer, rfl, (Option.some.inj h).symm⟩
    | _ => exact .inl (hbegin h)

/-- **A token that is read extends what was read by itself.** One case for each place in which a reader may
stand; in each of them few tokens are let pass, and these either open a place, complete a value or lead on to
the next part. -/
theorem has_step {reader next : Reader} {token : Token} {tokens : List Token} (hhas : reader.Has tokens)
    (h : step? dialect token reader = some next) : next.Has (tokens ++ [token]) := by
  cases hhas with
  | value frames =>
    rcases step?_value h with hbegin | ⟨hfirst, -⟩
    · exact has_beginValue hbegin
    · cases hfirst
  | firstValue frames =>
    rcases step?_value h with hbegin | ⟨-, rfl, items, outer, houter, rfl⟩
    · exact @has_beginValue (.list [] :: frames) _ _ hbegin
    · obtain ⟨-, rfl⟩ := List.cons.inj houter
      rw [List.append_assoc]
      exact has_place (.list []) frames
  -- an object without members may end here
  | firstName frames =>
    cases token with
    | closeObject =>
      obtain rfl := Option.some.inj h
      rw [List.append_assoc]
      exact has_place (.object []) frames
    | text name =>
      simp only [step?] at h
      split at h
      · cases h
      · obtain rfl := Option.some.inj h
        rw [List.append_assoc]
        exact .colon frames [] name
    | _ => cases h
  -- behind a comma there has to be another name
  | name frames members =>
    cases token with
    | text name =>
      obtain rfl := Option.some.inj h
      rw [List.append_assoc]
      exact .colon frames members name
    | _ => cases h
  | colon frames members name =>
    cases token with
    | colon =>
      obtain rfl := Option.some.inj h
      simpa [openedAll, Frame.opened] using Has.value (.object members name :: frames)
    | _ => cases h
  -- the list goes on, or it is complete and takes the place that was opened for it
  | @moreItems frames items hitems =>
    cases token with
    | comma =>
      obtain rfl := Option.some.inj h
      simpa [openedAll, Frame.opened, itemsBefore_of_ne_nil hitems] using Has.value (.list items :: frames)
    | closeList =>
      obtain rfl := Option.some.inj h
      simpa [tokens_list] using has_place (.list items.reverse) frames
    | _ => cases h
  | @moreMembers frames members last hmembers =>
    cases token with
    | comma =>
      obtain rfl := Option.some.inj h
      simpa [membersBefore_of_ne_nil hmembers] using Has.name frames members
    | closeObject =>
      obtain rfl := Option.some.inj h
      simpa [tokens_object] using has_place (.object members.reverse) frames
    | _ => cases h
  | nothing document => cases token <;> cases h

/-- All tokens have been read after all steps. Induction on the tokens to come, with those that were read before
growing. -/
theorem has_run {reader last : Reader} {more done : List Token} (hhas : reader.Has done)
    (h : run? dialect more reader = some last) : last.Has (done ++ more) := by
  induction more generalizing reader done with
  | nil =>
    obtain rfl := Option.some.inj h
    rwa [List.append_nil]
  | cons token more ih =>
    rw [run?] at h
    split at h
    · next next hstep =>
      have hmore := ih (has_step hhas hstep) h
      rwa [List.append_assoc] at hmore
    · cases h

end Reader

/-- **A document has the tokens that it was read from.** The reader begins with no token read and no container
open, and ends with the document alone. -/
theorem tokens_of_ofTokens? {dialect : Dialect} {tokens : List Token} {document : Json}
    (h : ofTokens? dialect tokens = some document) : document.tokens = tokens := by
  obtain ⟨⟨frames, expects⟩, hrun, hfinish⟩ := Option.bind_eq_some_iff.1 h
  have hhas := Reader.has_run (.value []) hrun
  cases expects with
  | nothing found =>
    obtain rfl := Option.some.inj hfinish
    cases hhas
    rfl
  | _ => cases hfinish

/-! ## What a dialect admits of scalars and names -/

namespace Token

variable {dialect : Dialect}

/-- A number or a text that the dialect admits. -/
def IsAdmitted (dialect : Dialect) : Token → Prop
  | .whole n => dialect.Spans (decide (n < 0)) (digitsOf n.natAbs)
  | .text t => dialect.Keeps t
  | _ => True

/-- What is taken for digits are digits. -/
theorem spanDigits_lt (t : Text) : ∀ d ∈ (Binary64.spanDigits t).1, d < 10 := by
  intro d hd
  unfold Binary64.spanDigits at hd
  rw [List.span_eq_takeWhile_dropWhile] at hd
  obtain ⟨c, hc, rfl⟩ := List.mem_map.1 hd
  have hdigit := List.all_eq_true.1 List.all_takeWhile c hc
  simp only [CodePoint.isAsciiDigit, Bool.and_eq_true, decide_eq_true_eq] at hdigit
  omega

/-- A number has no more digits than it was written with, as zeros in front are gone when it is printed. -/
theorem length_digitsOf_le {digits : List Nat} (hne : digits ≠ []) (hdigits : ∀ d ∈ digits, d < 10) :
    (digitsOf (Numeral.ofDigits digits)).length ≤ digits.length := by
  rw [digitsOf, List.length_map]
  exact (Whole.length_ofNat_le_iff (List.length_pos_iff.2 hne)).2 (Numeral.ofDigits_lt hdigits)

/-- **A whole number that is read has as few digits as the dialect admits**, also when it is printed again.
Zeros in front are gone by then, and so is the sign if the number is zero. -/
theorem isAdmitted_signed {negative : Bool} {digits : List Nat} (hne : digits ≠ []) (hdigits : ∀ d ∈ digits, d < 10)
    (h : dialect.Spans negative digits) : IsAdmitted dialect (.whole (Whole.signed negative digits)) := by
  have hlength := length_digitsOf_le hne hdigits
  have habs : (Whole.signed negative digits).natAbs = Numeral.ofDigits digits := by
    cases negative <;> simp [Whole.signed]
  unfold Dialect.Spans at h
  show Dialect.Spans _ _ _
  rw [Dialect.Spans, habs]
  -- the sign that counts as a digit is gone if the number is zero
  cases negative with
  | false =>
    have hsign : ¬Whole.signed false digits < 0 := by simp [Whole.signed]
    rw [decide_eq_false hsign]
    rw [Bool.and_false, if_neg Bool.false_ne_true] at h ⊢
    exact Nat.le_trans hlength h
  | true =>
    rw [Bool.and_true] at h
    split at h
    · split <;> omega
    · next hlimits =>
      rw [if_neg (by rw [Bool.and_eq_true]; exact fun hboth => hlimits hboth.1)]
      exact Nat.le_trans hlength h

/-- A number that is read is admitted: only a whole number is measured, with a fraction or an exponent nothing
is asked. -/
theorem isAdmitted_of_numberFrom? {negative : Bool} {digits : List Nat} {rest : Text} {token : Token}
    (hdigits : ∀ d ∈ digits, d < 10) (h : numberFrom? dialect negative digits rest = some token) :
    token.IsAdmitted dialect := by
  unfold numberFrom? at h
  dsimp only at h
  generalize hsize : (if dialect.limitsSpans && negative then digits.length + 1 else digits.length) = size at h
  generalize (if rest.head? = some (CodePoint.ofChar '.') then Binary64.spanDigits rest.tail else ([], rest)) = parts
    at h
  split at h
  · cases h
  -- a number has digits in front
  next hrefused =>
  have hne : digits ≠ [] := by
    rintro rfl
    exact hrefused rfl
  split at h
  -- without a fraction and an exponent it is a whole number, within the measure
  · split at h
    · cases h
    next hspans =>
    obtain rfl := Option.some.inj h
    exact isAdmitted_signed hne hdigits (hsize.trans_le (Nat.not_lt.1 hspans))
  · split at h
    · cases h
    · split at h
      · cases h
      · obtain ⟨e, -, rfl⟩ := Option.map_eq_some_iff.1 h
        trivial

/-- A word is a constant, of which nothing is asked, or a number. -/
theorem isAdmitted_of_ofWord? {word : Text} {token : Token} (h : ofWord? dialect word = some token) :
    token.IsAdmitted dialect := by
  unfold ofWord? at h
  split_ifs at h
  all_goals try (obtain rfl := Option.some.inj h; trivial)
  exact isAdmitted_of_numberFrom? (spanDigits_lt _) h

/-- A string is taken as it is by a dialect that keeps surrogates, and by others if it has none. -/
theorem isAdmitted_of_ofString? {inside : Text} {token : Token} (h : ofString? dialect inside = some token) :
    token.IsAdmitted dialect := by
  unfold ofString? at h
  split at h
  · split at h
    · cases h
    · next hkeeps =>
      obtain rfl := Option.some.inj h
      rw [Bool.and_eq_true, Bool.not_eq_true', List.any_eq_true, not_and] at hkeeps
      cases hdialect : dialect.keepsLoneSurrogates with
      | true => exact .inl hdialect
      | false => exact .inr fun c hc => Bool.eq_false_iff.2 fun hc' => hkeeps hdialect ⟨c, hc, hc'⟩
  · cases h

/-- Tokens that a scan has found are admitted after one more code point. Between two tokens it is a gap, the
start of a longer token, which is not there yet, or a mark, which every dialect admits. -/
theorem isAdmitted_of_fromGap? {c : CodePoint} {tokens next : List Token} {scan : Scan}
    (h : fromGap? c tokens = some (scan, next)) (htokens : ∀ token ∈ tokens, token.IsAdmitted dialect) :
    ∀ token ∈ next, token.IsAdmitted dialect := by
  unfold fromGap? at h
  split_ifs at h
  · obtain ⟨-, rfl⟩ := Prod.mk.inj (Option.some.inj h)
    exact htokens
  · obtain ⟨-, rfl⟩ := Prod.mk.inj (Option.some.inj h)
    exact htokens
  · obtain ⟨-, rfl⟩ := Prod.mk.inj (Option.some.inj h)
    exact htokens
  · obtain ⟨mark, hmark, hnext⟩ := Option.map_eq_some_iff.1 h
    obtain ⟨-, rfl⟩ := Prod.mk.inj hnext
    refine List.forall_mem_cons.2 ⟨?_, htokens⟩
    unfold punctuation? at hmark
    split_ifs at hmark <;> (obtain rfl := Option.some.inj hmark; trivial)

/-- **One code point more keeps what was found admitted**: it adds to the token that is being read, or ends it
and adds this token. -/
theorem isAdmitted_of_step? {c : CodePoint} {tokens next : List Token} {scan scan' : Scan}
    (h : step? dialect c tokens scan = some (scan', next)) (htokens : ∀ token ∈ tokens, token.IsAdmitted dialect) :
    ∀ token ∈ next, token.IsAdmitted dialect := by
  cases scan with
  | between => exact isAdmitted_of_fromGap? h htokens
  | word read =>
    rw [step?] at h
    split at h
    · obtain ⟨-, rfl⟩ := Prod.mk.inj (Option.some.inj h)
      exact htokens
    · split at h
      -- the word ends here, and may be a number that has to be admitted
      · next hword => exact isAdmitted_of_fromGap? h (List.forall_mem_cons.2 ⟨isAdmitted_of_ofWord? hword, htokens⟩)
      · cases h
  | string escaped read =>
    cases escaped with
    | true =>
      obtain ⟨-, rfl⟩ := Prod.mk.inj (Option.some.inj h)
      exact htokens
    | false =>
      rw [step?] at h
      split at h
      · obtain ⟨token, htoken, hnext⟩ := Option.map_eq_some_iff.1 h
        obtain ⟨-, rfl⟩ := Prod.mk.inj hnext
        exact List.forall_mem_cons.2 ⟨isAdmitted_of_ofString? htoken, htokens⟩
      · obtain ⟨-, rfl⟩ := Prod.mk.inj (Option.some.inj h)
        exact htokens

/-- At the end of the text the last word is added, and the tokens are turned around. -/
theorem isAdmitted_of_finish? {tokens all : List Token} {scan : Scan} (h : finish? dialect tokens scan = some all)
    (htokens : ∀ token ∈ tokens, token.IsAdmitted dialect) : ∀ token ∈ all, token.IsAdmitted dialect := by
  cases scan with
  | between =>
    obtain rfl := Option.some.inj h
    exact fun token htoken => htokens token (List.mem_reverse.1 htoken)
  | word read =>
    obtain ⟨token, htoken, rfl⟩ := Option.map_eq_some_iff.1 h
    intro other hother
    exact List.forall_mem_cons.2 ⟨isAdmitted_of_ofWord? htoken, htokens⟩ other (List.mem_reverse.1 hother)
  | string escaped read => cases h

/-- **A scan finds only what the dialect admits.** Induction on the text, with the tokens found so far. -/
theorem isAdmitted_of_scan? {t : Text} {tokens : List Token} (h : scan? dialect t = some tokens) :
    ∀ token ∈ tokens, token.IsAdmitted dialect := by
  have hfrom {t : Text} {scan : Scan} {done : List Token} (h : scanFrom? dialect t scan done = some tokens)
      (hdone : ∀ token ∈ done, token.IsAdmitted dialect) : ∀ token ∈ tokens, token.IsAdmitted dialect := by
    induction t generalizing scan done with
    | nil => exact isAdmitted_of_finish? h hdone
    | cons c rest ih =>
      rw [scanFrom?] at h
      split at h
      · next hstep => exact ih h (isAdmitted_of_step? hstep hdone)
      · cases h
  exact hfrom h (List.forall_mem_nil _)

/-- What is admitted is printed as it is spelled, but for numbers with a fraction or an exponent, and for half a
surrogate pair where only ASCII is printed. -/
theorem IsAdmitted.spells_printed {layout : Layout} {token : Token} (h : token.IsAdmitted dialect)
    (hmark : token.isMark = false) (hreal : ∀ x, token ≠ .real x)
    (hhalf : layout.ascii = true → ∀ t, token = .text t → ∀ c ∈ t, c.isSurrogate = false) :
    Spells dialect token (printed layout token) := by
  cases token with
  | null => exact .null
  | flag b => cases b with
    | true => exact .yes
    | false => exact .no
  | whole n => exact spells_whole h
  | real x => exact absurd rfl (hreal x)
  | text t => exact spells_text h fun hascii => hhalf hascii t rfl
  | _ => cases hmark

end Token

/-- **The scalars and names of a document that was read are such as the dialect admits.** -/
theorem isAdmitted_of_read? {dialect : Dialect} {t : Text} {document : Json} (h : read? dialect t = some document) :
    ∀ token ∈ document.leaves, token.IsAdmitted dialect := by
  obtain ⟨tokens, hscan, htokens⟩ := Option.bind_eq_some_iff.1 h
  intro token htoken
  have hmem := (List.mem_filter.1 htoken).1
  rw [tokens_of_ofTokens? htokens] at hmem
  exact Token.isAdmitted_of_scan? hscan token hmem

end ClusterClient.Json
