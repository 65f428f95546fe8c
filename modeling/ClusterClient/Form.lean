import ClusterClient.Checks
import ClusterClient.Percent

/-!
# Forms

A form is a list of named values. It is written as pairs joined by `&`, with `=` between name and
value, `+` for a space, and escapes for all but the unreserved code points. Reading splits first and
decodes afterwards, so that an escaped separator is no separator; blank values are kept.
-/

namespace ClusterClient.Form

/-- Spaces become plus signs. -/
def spaceToPlus (c : CodePoint) : CodePoint := if c = ' ' then '+' else c

/-- Plus signs become spaces. -/
def plusToSpace (c : CodePoint) : CodePoint := if c = '+' then ' ' else c

/-- What is written without an escape; spaces are written as plus signs. -/
def isKept (c : CodePoint) : Bool := Percent.isUnreserved c || c = ' '

/-- The written form of a name or a value. -/
def writePart (t : Text) : Except Unencodable Text :=
  match Percent.encode isKept t with
  | .ok written => .ok (written.map spaceToPlus)
  | .error e => .error e

/-- The written form of one pair. -/
def writePair (pair : Text × Text) : Except Unencodable Text := do
  let name ← writePart pair.1
  let value ← writePart pair.2
  return name ++ "=" ++ value

/-- The written form of a form. -/
def write (pairs : List (Text × Text)) : Except Unencodable Text := do
  let written ← pairs.mapM writePair
  return Text.join "&" written

/-- The name or value that a part writes. -/
def readPart (t : Text) : Text := Percent.decode (t.map plusToSpace)

/-- The pair that a part between two separators writes; a missing value is blank. -/
def readPair (t : Text) : Text × Text :=
  match t.breakAt (· = CodePoint.ofChar '=') with
  | (name, []) => (readPart name, [])
  | (name, _ :: value) => (readPart name, readPart value)

/-- The pairs that a text writes, in order. -/
def read (t : Text) : List (Text × Text) :=
  ((t.splitOn '&').filter fun part => !part.isEmpty).map readPair

/-! ## What is written is read

A part is written without separators, so that a text splits again where the parts were joined. -/

/-- Code points of a written name or value. -/
def isWritten (c : CodePoint) : Bool := Percent.isUnreserved c || c = '+' || c = '%'

theorem isWritten_of_isInEscape {c : CodePoint} (h : Percent.isInEscape c = true) :
    isWritten c = true := by
  simp only [Percent.isInEscape, Bool.or_eq_true, decide_eq_true_eq, Bool.and_eq_true] at h
  simp only [isWritten, Percent.isUnreserved, CodePoint.isAsciiLetter, CodePoint.isAsciiUpper,
    Bool.or_eq_true, decide_eq_true_eq, Bool.and_eq_true]
  rcases h with (rfl | hdigit) | ⟨hlow, hhigh⟩
  · exact .inr rfl
  · exact .inl (.inl (.inl (.inl (.inl (.inl (.inr hdigit))))))
  · exact .inl (.inl (.inl (.inl (.inl (.inl (.inl (.inl ⟨hlow, by omega⟩)))))))

/-- A name or a value as it is written: without surrogates, escaped, and with its spaces changed. -/
theorem of_writePart {t written : Text} (h : writePart t = .ok written) :
    (∀ c ∈ t, c.isSurrogate = false) ∧
      written = (t.flatMap (Percent.protect isKept)).map spaceToPlus := by
  unfold writePart at h
  split at h
  · next escaped hescaped =>
    obtain ⟨hplain, rfl⟩ := Percent.of_encode hescaped
    exact ⟨hplain, (Except.ok.inj h).symm⟩
  · cases h

/-- All that is written may stand in a form: what needs no quoting, escapes, and plus signs, to which blanks are
turned at the end. -/
theorem isWritten_of_writePart {t written : Text} (h : writePart t = .ok written) :
    ∀ c ∈ written, isWritten c = true := by
  obtain ⟨-, rfl⟩ := of_writePart h
  intro c hc
  obtain ⟨d, hd, rfl⟩ := List.mem_map.1 hc
  -- before the blanks are turned to plus signs, there are only code points that are kept, and escapes
  have hspaced : isWritten d = true ∨ d = CodePoint.ofChar ' ' := by
    obtain ⟨e, -, hde⟩ := List.mem_flatMap.1 hd
    rcases Percent.mem_protect hde with ⟨hkept, -⟩ | hin
    · simp only [isKept, Bool.or_eq_true, decide_eq_true_eq] at hkept
      rcases hkept with hunreserved | hspace
      · exact .inl (by simp [isWritten, hunreserved])
      · exact .inr hspace
    · exact .inl (isWritten_of_isInEscape hin)
  unfold spaceToPlus
  split
  · decide
  · next hspace => exact hspaced.resolve_right hspace

/-- A name or a value is read back. A plus sign of its own is quoted, so that the plus signs that are written
all stand for blanks; what is left is a text with escapes. -/
theorem readPart_of_writePart {t written : Text} (h : writePart t = .ok written) :
    readPart written = t := by
  obtain ⟨hplain, rfl⟩ := of_writePart h
  have hspaces : ((t.flatMap (Percent.protect isKept)).map spaceToPlus).map plusToSpace =
      t.flatMap (Percent.protect isKept) := by
    rw [List.map_map]
    refine (List.map_congr_left fun c hc => ?_).trans (List.map_id _)
    obtain ⟨d, -, hd⟩ := List.mem_flatMap.1 hc
    -- a plus sign is not kept, and no escape holds one
    have hplus : c ≠ CodePoint.ofChar '+' := by
      rintro rfl
      rcases Percent.mem_protect hd with ⟨hkept, -⟩ | hin
      · exact absurd hkept (by decide)
      · exact absurd hin (by decide)
    show plusToSpace (spaceToPlus c) = c
    unfold spaceToPlus
    split
    · next hspace => rw [hspace]; decide
    · exact if_neg hplus
  rw [readPart, hspaces, Percent.decode_flatMap_protect (by decide) hplain]

/-- A pair as it is written: its name and its value, each on its own, with the separator between them. -/
theorem of_writePair {pair : Text × Text} {written : Text} (h : writePair pair = .ok written) :
    ∃ name value, writePart pair.1 = .ok name ∧ writePart pair.2 = .ok value ∧
      written = name ++ CodePoint.ofChar '=' :: value := by
  unfold writePair at h
  obtain ⟨name, hname, h⟩ := Except.of_bind h
  obtain ⟨value, hvalue, h⟩ := Except.of_bind h
  refine ⟨name, value, hname, hvalue, ?_⟩
  rw [← Except.ok.inj h, List.append_assoc]
  rfl

theorem isWritten_of_writePair {pair : Text × Text} {written : Text} (h : writePair pair = .ok written) :
    ∀ c ∈ written, isWritten c = true ∨ c = CodePoint.ofChar '=' := by
  obtain ⟨name, value, hname, hvalue, rfl⟩ := of_writePair h
  intro c hc
  rcases List.mem_append.1 hc with hc | hc
  · exact .inl (isWritten_of_writePart hname c hc)
  · rcases List.mem_cons.1 hc with rfl | hc
    · exact .inr rfl
    · exact .inl (isWritten_of_writePart hvalue c hc)

/-- A pair is read back. It is cut at the first `=`, which is the one that was put between name and value: a
written name holds none, as `=` is escaped in it. -/
theorem readPair_of_writePair {pair : Text × Text} {written : Text} (h : writePair pair = .ok written) :
    readPair written = pair := by
  obtain ⟨name, value, hname, hvalue, rfl⟩ := of_writePair h
  have hbreak : (name ++ CodePoint.ofChar '=' :: value).breakAt (· = CodePoint.ofChar '=') =
      (name, CodePoint.ofChar '=' :: value) := by
    refine Text.breakAt_append_of (fun c hc => ?_) (fun c hc => ?_)
    · rw [decide_eq_false_iff_not]
      rintro rfl
      exact absurd (isWritten_of_writePart hname _ hc) (by decide)
    · obtain rfl := Option.some.inj hc
      exact decide_eq_true rfl
  unfold readPair
  rw [hbreak]
  show (readPart name, readPart value) = pair
  rw [readPart_of_writePart hname, readPart_of_writePart hvalue]

/-- The parts that the pairs of a form are written as. -/
theorem of_write {pairs : List (Text × Text)} {written : Text} (h : write pairs = .ok written) :
    ∃ parts, pairs.mapM writePair = .ok parts ∧ written = Text.join "&" parts := by
  unfold write at h
  obtain ⟨parts, hparts, h⟩ := Except.of_bind h
  exact ⟨parts, hparts, (Except.ok.inj h).symm⟩

/-- Each part is a pair as it is written, and is read back. -/
theorem of_mapM_writePair {pairs : List (Text × Text)} {parts : List Text}
    (h : pairs.mapM writePair = .ok parts) :
    parts.map readPair = pairs ∧
      ∀ part ∈ parts, part ≠ [] ∧ ∀ c ∈ part, isWritten c = true ∨ c = CodePoint.ofChar '=' := by
  refine ⟨Except.map_of_mapM h fun _ _ => readPair_of_writePair, fun part hpart => ?_⟩
  obtain ⟨pair, -, hpair⟩ := Except.exists_of_mem_of_mapM h hpart
  obtain ⟨name, value, -, -, heq⟩ := of_writePair hpair
  exact ⟨by rw [heq]; simp, isWritten_of_writePair hpair⟩

/-- **A form is read as it was written**: no pair is lost, and no code point of a name or a value is taken
for a separator. -/
theorem read_of_write {pairs : List (Text × Text)} {written : Text} (h : write pairs = .ok written) :
    read written = pairs := by
  obtain ⟨parts, hparts, rfl⟩ := of_write h
  obtain ⟨hread, hwritten⟩ := of_mapM_writePair hparts
  cases parts with
  | nil =>
    rw [← hread]
    rfl
  | cons part parts =>
    -- no part holds the mark between parts, and none is empty: each holds its own mark at least
    have hsplit : Text.splitOn '&' (Text.join "&" (part :: parts)) = part :: parts := by
      refine Text.splitOn_join (List.cons_ne_nil _ _) fun part' hpart' hmem => ?_
      rcases (hwritten part' hpart').2 _ hmem with hkept | heq
      · exact absurd hkept (by decide)
      · exact absurd heq (by decide)
    have hfull : (part :: parts).filter (fun part => !part.isEmpty) = part :: parts := by
      rw [List.filter_eq_self]
      intro part' hpart'
      rw [Bool.not_eq_true', List.isEmpty_eq_false_iff]
      exact (hwritten part' hpart').1
    rw [read, hsplit, hfull, hread]

/-- What a written form consists of. -/
theorem isWritten_of_write {pairs : List (Text × Text)} {written : Text} (h : write pairs = .ok written) :
    ∀ c ∈ written, isWritten c = true ∨ c = CodePoint.ofChar '=' ∨ c = CodePoint.ofChar '&' := by
  obtain ⟨parts, hparts, rfl⟩ := of_write h
  obtain ⟨-, hwritten⟩ := of_mapM_writePair hparts
  intro c hc
  rcases Text.mem_join hc with ⟨part, hpart, hmem⟩ | hmem
  · rcases (hwritten part hpart).2 c hmem with hkept | heq
    · exact .inl hkept
    · exact .inr (.inl heq)
  · exact .inr (.inr (List.mem_singleton.1 hmem))

/-! ## Forms by name -/

/-- A form in which each name stands once, with its values in order. -/
abbrev Grouped := List (Text × List Text)

namespace Grouped

/-- Adds a value to those of its name. -/
def add (name value : Text) : Grouped → Grouped
  | [] => [(name, [value])]
  | (n, values) :: rest =>
    if n = name then (n, values ++ [value]) :: rest else (n, values) :: add name value rest

/-- The pairs grouped by name, names in the order of their first pair. -/
def ofPairs (pairs : List (Text × Text)) : Grouped :=
  pairs.foldl (fun form pair => add pair.1 pair.2 form) []

/-- Gives a name one value instead of those it has. -/
def put (name value : Text) : Grouped → Grouped
  | [] => [(name, [value])]
  | (n, values) :: rest =>
    if n = name then (n, [value]) :: rest else (n, values) :: put name value rest

/-- The pairs, group by group. -/
def pairs (form : Grouped) : List (Text × Text) :=
  form.flatMap fun group => group.2.map fun value => (group.1, value)

/-- A name that is not there yet is added at the end. -/
theorem put_of_not_mem {name : Text} {form : Grouped} (h : name ∉ form.map Prod.fst) (value : Text) :
    put name value form = form ++ [(name, [value])] := by
  induction form with
  | nil => rfl
  | cons group rest ih =>
    obtain ⟨hname, hrest⟩ := not_or.1 fun hmem => h (List.mem_cons.2 hmem)
    rw [put, if_neg fun heq => hname heq.symm, ih hrest, List.cons_append]

/-- Parameters with names of their own are put into a form in their order. Each of them is new to the form when
its turn comes, both to what was there and to those before it. -/
theorem foldl_put {pairs : List (Text × Text)} (hnames : (pairs.map Prod.fst).Nodup) (form : Grouped)
    (hnew : ∀ name ∈ pairs.map Prod.fst, name ∉ form.map Prod.fst) :
    pairs.foldl (fun form pair => put pair.1 pair.2 form) form =
      form ++ pairs.map fun pair => (pair.1, [pair.2]) := by
  induction pairs generalizing form with
  | nil => rw [List.foldl_nil, List.map_nil, List.append_nil]
  | cons pair pairs ih =>
    rw [List.map_cons, List.nodup_cons] at hnames
    obtain ⟨hpair, hrest⟩ := hnames
    rw [List.foldl_cons, put_of_not_mem (hnew pair.1 List.mem_cons_self), ih hrest, List.map_cons,
      List.append_assoc, List.singleton_append]
    intro name hname hmem
    rw [List.map_append, List.mem_append] at hmem
    rcases hmem with hform | hlast
    · exact hnew name (List.mem_cons_of_mem _ hname) hform
    · obtain rfl := List.mem_singleton.1 hlast
      exact hpair hname

theorem pairs_map_singleton (pairs : List (Text × Text)) :
    Grouped.pairs (pairs.map fun pair => (pair.1, [pair.2])) = pairs := by
  induction pairs with
  | nil => rfl
  | cons pair rest ih =>
    rw [List.map_cons, Grouped.pairs, List.flatMap_cons, ← Grouped.pairs, ih]
    rfl

end Grouped

end ClusterClient.Form
