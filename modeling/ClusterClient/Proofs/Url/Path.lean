import ClusterClient.Url.Reader

/-!
# Dot segments

A path is read segment by segment: one dot leaves no trace, and two dots take away the segment before
them. Escaping a path neither makes such segments nor hides them, because a full stop is never escaped.

## The architecture

* **`HasNoDots`**: a path without dot segments is left as it is, and every path is one afterwards
  (`normalizePath_of_hasNoDots`, `hasNoDots_normalizePath`).
* **`StaysBelow`**: a name never leads out of the place it is appended to. `depth?` counts what
  `Url.addSegment` pushes and takes away for it, and while the count is there the path in front is left
  alone (`normalizePath_append`).
* **`staysBelow_flatMap_protect`**: a name leads where its escaped form leads.
-/

namespace ClusterClient.Url

/-- A segment that is not kept as it stands. -/
def isDots (segment : Text) : Bool := segment = "." || segment = ".."

/-- A path in which every segment is kept as it stands. -/
def HasNoDots (path : Text) : Prop := ∀ segment ∈ path.splitOn '/', isDots segment = false

theorem hasNoDots_nil : HasNoDots [] := by
  intro segment hsegment
  obtain rfl := List.mem_singleton.1 hsegment
  decide

/-- Two paths with a slash between them have the segments of both. -/
theorem hasNoDots_append {front back : Text} :
    HasNoDots (front ++ CodePoint.ofChar '/' :: back) ↔ HasNoDots front ∧ HasNoDots back := by
  unfold HasNoDots
  rw [Text.splitOn_append_cons]
  exact List.forall_mem_append

/-! ## Taking dot segments away -/

/-- What is no dot segment is kept. -/
theorem addSegment_of_not_isDots {segment : Text} (h : isDots segment = false) (done : List Text) :
    addSegment done segment = segment :: done := by
  simp only [isDots, Bool.or_eq_false_iff, decide_eq_false_iff_not] at h
  unfold addSegment
  rw [if_neg h.1, if_neg h.2]

/-- Segments that are no dots are all kept, the last one in front. -/
theorem foldl_addSegment_of_not_isDots {segments : List Text} (h : ∀ segment ∈ segments, isDots segment = false)
    (done : List Text) : segments.foldl addSegment done = segments.reverse ++ done := by
  induction segments generalizing done with
  | nil => rfl
  | cons segment rest ih =>
    obtain ⟨hsegment, hrest⟩ := List.forall_mem_cons.1 h
    rw [List.foldl_cons, addSegment_of_not_isDots hsegment, ih hrest, List.reverse_cons, List.append_assoc,
      List.singleton_append]

/-- What is done holds segments of the path alone, and none of them dots. Induction on the segments; two dots
take one away or leave what is done alone, and never put one in. -/
theorem mem_of_mem_foldl_addSegment {segments done : List Text} {segment : Text}
    (h : segment ∈ segments.foldl addSegment done) :
    segment ∈ done ∨ (segment ∈ segments ∧ isDots segment = false) := by
  induction segments generalizing done with
  | nil => exact .inl h
  | cons next rest ih =>
    -- one segment more: dots are not added, and may only take away
    have hnext : segment ∈ addSegment done next →
        segment ∈ done ∨ (segment ∈ next :: rest ∧ isDots segment = false) := by
      intro hmem
      unfold addSegment at hmem
      split at hmem
      · exact .inl hmem
      · next hone =>
        split at hmem
        · split at hmem
          · exact absurd hmem List.not_mem_nil
          · split at hmem
            · exact .inl hmem
            · exact absurd hmem List.not_mem_nil
          · exact .inl (List.mem_cons_of_mem _ hmem)
        · next htwo =>
          rcases List.mem_cons.1 hmem with rfl | hmem
          · exact .inr ⟨List.mem_cons_self, by simp [isDots, hone, htwo]⟩
          · exact .inl hmem
    rcases ih h with hmem | ⟨hmem, hdots⟩
    · exact hnext hmem
    · exact .inr ⟨List.mem_cons_of_mem _ hmem, hdots⟩

/-- **A path without dot segments is left as it is.** -/
theorem normalizePath_of_hasNoDots {path : Text} (h : HasNoDots path) : normalizePath path = path := by
  have hnone : ((path.splitOn '/').any fun segment => segment = "." || segment = "..") = false :=
    List.any_eq_false.2 fun segment hsegment => by
      rw [show (segment = "." || segment = "..") = isDots segment from rfl, h segment hsegment]
      exact Bool.false_ne_true
  unfold normalizePath
  dsimp only
  rw [hnone]
  rfl

/-- Every path is put together from what is done. `normalizePath` looks first whether there are dots at all;
this says that the result does not depend on it. -/
theorem normalizePath_eq_join (path : Text) :
    normalizePath path = Text.join "/" ((path.splitOn '/').foldl addSegment []).reverse := by
  by_cases h : ((path.splitOn '/').any fun segment => segment = "." || segment = "..") = true
  · unfold normalizePath
    dsimp only
    rw [h]
    rfl
  · have hno : HasNoDots path := fun segment hsegment =>
      Bool.eq_false_iff.2 fun hdots => h (List.any_eq_true.2 ⟨segment, hsegment, hdots⟩)
    rw [normalizePath_of_hasNoDots hno, foldl_addSegment_of_not_isDots hno, List.append_nil,
      List.reverse_reverse]
    exact (Text.join_splitOn '/' path).symm

/-- **Every path is without dot segments afterwards.** Segments hold no slash, so what is put together falls
apart into them again. -/
theorem hasNoDots_normalizePath (path : Text) : HasNoDots (normalizePath path) := by
  rw [normalizePath_eq_join]
  -- each segment was cut at the slashes and has survived as none of dots
  have hmem : ∀ segment ∈ ((path.splitOn '/').foldl addSegment []).reverse,
      CodePoint.ofChar '/' ∉ segment ∧ isDots segment = false := by
    intro segment hsegment
    rcases mem_of_mem_foldl_addSegment (List.mem_reverse.1 hsegment) with hnil | ⟨hsplit, hdots⟩
    · exact absurd hnil List.not_mem_nil
    · exact ⟨Text.not_mem_of_mem_splitOn hsplit, hdots⟩
  generalize ((path.splitOn '/').foldl addSegment []).reverse = segments at hmem
  cases segments with
  | nil => exact hasNoDots_nil
  | cons segment rest =>
    intro found hfound
    have hsplit : Text.splitOn '/' (Text.join "/" (segment :: rest)) = segment :: rest :=
      Text.splitOn_join (List.cons_ne_nil _ _) fun part hpart => (hmem part hpart).1
    rw [hsplit] at hfound
    exact (hmem found hfound).2

/-! ### Rooted paths -/

/-- A path that may follow an authority. -/
def IsRooted (path : Text) : Prop := ∀ c, path.head? = some c → c = CodePoint.ofChar '/'

theorem isRooted_nil : IsRooted [] := fun c hc => by cases hc

theorem isRooted_cons (rest : Text) : IsRooted (CodePoint.ofChar '/' :: rest) :=
  fun _ hc => (Option.some.inj hc).symm

/-- The empty segment in front of a rooted path is never taken away, however many dots there are: at the top two
dots take nothing. -/
theorem foldl_addSegment_of_root (segments above : List Text) :
    ∃ above', segments.foldl addSegment (above ++ [[]]) = above' ++ [[]] := by
  induction segments generalizing above with
  | nil => exact ⟨above, rfl⟩
  | cons segment rest ih =>
    -- a step up at the root takes nothing away, so that the root stays below all others
    have hnext : ∃ above', addSegment (above ++ [[]]) segment = above' ++ [[]] := by
      unfold addSegment
      split
      · exact ⟨above, rfl⟩
      · split
        · cases above with
          | nil => exact ⟨[], rfl⟩
          | cons top above =>
            cases above with
            | nil => exact ⟨[], rfl⟩
            | cons next above => exact ⟨next :: above, rfl⟩
        · exact ⟨segment :: above, rfl⟩
    obtain ⟨above', habove⟩ := hnext
    rw [List.foldl_cons, habove]
    exact ih above'

/-- A rooted path stays rooted. Its first segment is empty, is no dots, and is never taken back, since a step up
takes away the segment before it only if there is one behind the root. -/
theorem isRooted_normalizePath {path : Text} (h : IsRooted path) : IsRooted (normalizePath path) := by
  cases path with
  | nil =>
    rw [normalizePath_of_hasNoDots hasNoDots_nil]
    exact isRooted_nil
  | cons c rest =>
    obtain rfl := h c rfl
    have hsplit : Text.splitOn '/' (CodePoint.ofChar '/' :: rest) = [] :: Text.splitOn '/' rest := by
      rw [Text.splitOn_cons, if_pos rfl]
    obtain ⟨above, habove⟩ := foldl_addSegment_of_root (Text.splitOn '/' rest) []
    have hfold : ([] :: Text.splitOn '/' rest).foldl addSegment [] = above ++ [[]] := by
      rw [List.foldl_cons, addSegment_of_not_isDots (by decide)]
      exact habove
    rw [normalizePath_eq_join, hsplit, hfold, List.reverse_append]
    cases above.reverse with
    | nil => exact isRooted_nil
    | cons segment rest =>
      show IsRooted (Text.join "/" ([] :: segment :: rest))
      rw [Text.join, List.intercalate_cons_cons]
      exact isRooted_cons _

/-! ## Below a path -/

/-- How deep a name leads, segment by segment, below where it starts; `none` if it leads out. -/
def depth? : Nat → List Text → Option Nat
  | depth, [] => some depth
  | depth, segment :: rest =>
    if segment = "." then depth? depth rest
    else if segment = ".." then
      match depth with
      | 0 => none
      | depth + 1 => depth? depth rest
    else depth? (depth + 1) rest

/-- A name that leads below where it starts, and never out of there on its way. -/
def StaysBelow (name : Text) : Prop := ∃ depth, depth? 0 (name.splitOn '/') = some (depth + 1)

/-- As long as a name does not lead out, it takes away what it added itself. `above` is what it has added so
far, as deep as `depth?` counts, and `below` is what was there before. -/
theorem foldl_addSegment_of_depth? (above : List Text) {segments below : List Text} {depth : Nat}
    (hbelow : below ≠ []) (h : depth? above.length segments = some depth) :
    ∃ above', above'.length = depth ∧ segments.foldl addSegment (above ++ below) = above' ++ below := by
  induction segments generalizing above with
  | nil => exact ⟨above, Option.some.inj h, rfl⟩
  | cons segment rest ih =>
    rw [depth?.eq_def] at h
    rw [List.foldl_cons]
    unfold addSegment
    dsimp only at h
    split at h
    · next hone =>
      rw [if_pos hone]
      exact ih above h
    · next hone =>
      rw [if_neg hone]
      split at h
      · next htwo =>
        rw [if_pos htwo]
        cases above with
        | nil => cases h
        | cons top above =>
          -- what lies below is never empty, so the step back takes `top` and nothing more
          cases hrest : above ++ below with
          | nil => exact absurd (List.append_eq_nil_iff.1 hrest).2 hbelow
          | cons next done =>
            rw [List.cons_append, hrest]
            dsimp only
            rw [← hrest]
            exact ih above h
      · next htwo =>
        rw [if_neg htwo]
        exact ih (segment :: above) h

/-- **A name that never leads out of the path it is appended to leaves that path alone.** The path in front has
no dots of its own, and the name takes away none of its segments. -/
theorem normalizePath_append {front name : Text} (hfront : HasNoDots front) (hname : StaysBelow name) :
    ∃ rest, normalizePath (front ++ CodePoint.ofChar '/' :: name) = front ++ CodePoint.ofChar '/' :: rest := by
  obtain ⟨depth, hname⟩ := hname
  have hbelow : (front.splitOn '/').reverse ≠ [] := fun h =>
    Text.splitOn_ne_nil '/' front (List.reverse_eq_nil_iff.1 h)
  obtain ⟨above, hlength, habove⟩ := foldl_addSegment_of_depth? [] hbelow hname
  -- the name leads somewhere below, so that the slash in front of it stays
  have hrest : above.reverse ≠ [] := by
    intro h
    rw [List.reverse_eq_nil_iff.1 h] at hlength
    cases hlength
  refine ⟨Text.join "/" above.reverse, ?_⟩
  rw [normalizePath_eq_join, Text.splitOn_append_cons, List.foldl_append,
    foldl_addSegment_of_not_isDots hfront, List.append_nil]
  rw [List.nil_append] at habove
  rw [habove, List.reverse_append, List.reverse_reverse,
    Text.join_append (Text.splitOn_ne_nil '/' front) hrest]
  exact congrArg (· ++ _) (Text.join_splitOn '/' front)

/-! ## Escaped paths -/

section Escaped

variable {kept : CodePoint → Bool} (hslash : kept '/' = true) (hdot : kept '.' = true)

/-- A text is what it is escaped to, if that holds no escape. What is escaped leaves an escape behind. -/
theorem eq_of_flatMap_protect {t written : Text} (h : t.flatMap (Percent.protect kept) = written)
    (hwritten : ∀ c ∈ written, Percent.isInEscape c = false) : t = written := by
  -- a code point that is not kept would have left an escape
  have hkept : ∀ c ∈ t, kept c = true := by
    intro c hc
    refine Decidable.byContradiction fun hnot => ?_
    have hsub : ∀ d ∈ Percent.escape c, d ∈ written := by
      intro d hd
      rw [← h]
      refine List.mem_flatMap.2 ⟨c, hc, ?_⟩
      rw [Percent.protect, if_neg hnot]
      exact hd
    obtain ⟨d, hd⟩ := Percent.exists_mem_escape c
    have hin := Percent.isInEscape_of_mem_escape hd
    rw [hwritten d (hsub d hd)] at hin
    cases hin
  rw [← h, Percent.flatMap_protect_of_forall hkept]

include hdot in
/-- A segment is dots if and only if it is escaped to them: a full stop is never escaped, so dots are neither
made nor hidden. -/
theorem flatMap_protect_eq_dots {dots : Text} (hdots : dots = "." ∨ dots = "..") (segment : Text) :
    segment.flatMap (Percent.protect kept) = dots ↔ segment = dots := by
  -- there is nothing in dots but full stops, which are kept and belong to no escape
  have hall : ∀ c ∈ dots, c = CodePoint.ofChar '.' := by
    intro c hc
    rcases hdots with rfl | rfl
    · exact List.mem_singleton.1 hc
    · rcases List.mem_cons.1 hc with rfl | hc
      · rfl
      · exact List.mem_singleton.1 hc
  constructor
  · intro h
    refine eq_of_flatMap_protect h fun c hc => ?_
    rw [hall c hc]
    decide
  · rintro rfl
    refine Percent.flatMap_protect_of_forall fun c hc => ?_
    rw [hall c hc]
    exact hdot

include hslash in
/-- Escaping segment by segment is escaping the path, as the slash is kept and no escape holds one. -/
theorem splitOn_flatMap_protect (path : Text) :
    Text.splitOn '/' (path.flatMap (Percent.protect kept)) =
      (path.splitOn '/').map (List.flatMap (Percent.protect kept)) := by
  refine Text.splitOn_flatMap ?_ ?_ path
  · rw [Percent.protect, if_pos hslash]
  · intro c hc hmem
    rcases Percent.mem_protect hmem with ⟨-, heq⟩ | hin
    · exact hc heq.symm
    · exact absurd hin (by decide)

include hslash hdot in
/-- A path without dot segments has none after it is escaped. -/
theorem hasNoDots_flatMap_protect {path : Text} (h : HasNoDots path) :
    HasNoDots (path.flatMap (Percent.protect kept)) := by
  intro segment hsegment
  rw [splitOn_flatMap_protect hslash] at hsegment
  obtain ⟨part, hpart, rfl⟩ := List.mem_map.1 hsegment
  have hplain := h part hpart
  simp only [isDots, Bool.or_eq_false_iff, decide_eq_false_iff_not] at hplain ⊢
  rw [flatMap_protect_eq_dots hdot (.inl rfl), flatMap_protect_eq_dots hdot (.inr rfl)]
  exact hplain

include hdot in
/-- Escaped segments lead as deep, step by step. -/
theorem depth?_map_flatMap_protect (depth : Nat) (segments : List Text) :
    depth? depth (segments.map (List.flatMap (Percent.protect kept))) = depth? depth segments := by
  induction segments generalizing depth with
  | nil => rfl
  | cons segment rest ih =>
    rw [List.map_cons, depth?.eq_def, depth?.eq_def _ (segment :: rest)]
    simp only [flatMap_protect_eq_dots hdot (.inl rfl), flatMap_protect_eq_dots hdot (.inr rfl), ih]

include hslash hdot in
/-- **A name leads as deep as its escaped form.** So what is asked of a name can be asked before it is escaped.
-/
theorem staysBelow_flatMap_protect {name : Text} :
    StaysBelow (name.flatMap (Percent.protect kept)) ↔ StaysBelow name := by
  unfold StaysBelow
  rw [splitOn_flatMap_protect hslash, depth?_map_flatMap_protect hdot]

end Escaped

end ClusterClient.Url
