import ClusterClient.Proofs.Json.Parsing
import ClusterClient.Proofs.Json.Settling

/-!
# How deep documents are

A reader with room for so many open containers reads a document if no more of its containers than that stand inside
each other, and it stops at the first one too many otherwise. Laying a document out needs no more room than reading
it, as long as it has no numbers with a fraction or an exponent, and a document is not deeper for being settled.

## The architecture

* **`Json.depth`**: how many containers stand inside each other, those without items included.
* **`Reader.overflow?_tokens`**: the tokens of a value open as many containers at once as it is deep, by induction on
  the document as in `Reader.run?_tokens`.
* **`Json.tooDeep?_eq_none_iff`**: a document's text is within the room of a reader iff the document is.
* **`Json.depth_settled_le`**, **`Json.levels_le_depth`**: what settling and laying out need.
-/

namespace ClusterClient.Json

mutual

/-- How many containers stand inside each other. A container counts even if it has no items: it is opened before
anybody knows. -/
def depth : Json → Nat
  | list items => depthOfItems items + 1
  | object members => depthOfMembers members + 1
  | _ => 0

def depthOfItems : List Json → Nat
  | [] => 0
  | item :: rest => max item.depth (depthOfItems rest)

def depthOfMembers : List (Text × Json) → Nat
  | [] => 0
  | (_, value) :: rest => max value.depth (depthOfMembers rest)

end

/-! ## What a reader opens -/

/-- A text that is scanned to its end has all its tokens in front of the first fault. The two scans go along the
text together, and the one that stops at a fault never comes to one. -/
theorem Token.found_of_scan? {dialect : Dialect} {t : Text} {tokens : List Token} (h : scan? dialect t = some tokens) :
    found dialect t = tokens := by
  have hfrom {t : Text} {scan : Scan} {done : List Token} (h : scanFrom? dialect t scan done = some tokens) :
      foundFrom dialect t scan done = tokens := by
    induction t generalizing scan done with
    | nil =>
      rw [scanFrom?] at h
      rw [foundFrom, h, Option.getD_some]
    | cons c rest ih =>
      rw [scanFrom?] at h
      rw [foundFrom]
      split at h
      · exact ih h
      · cases h
  exact hfrom h

namespace Reader

variable {dialect : Dialect} {room : Nat}

/-- A value that is complete leaves open what was open before it. -/
@[simp] theorem opened_place (document : Json) (frames : List Frame) :
    (place document frames).opened = frames.length := by
  match frames with
  | [] => rfl
  | .list _ :: _ => rfl
  | .object _ _ :: _ => rfl

/-- No container is one too many iff none is after the first token and none further on. -/
theorem overflow?_cons {token : Token} {rest : List Token} {reader next : Reader}
    (h : step? dialect token reader = some next) :
    overflow? dialect room (token :: rest) reader = none ↔
      next.opened ≤ room ∧ overflow? dialect room rest next = none := by
  simp only [overflow?, h]
  split
  · next hover => exact iff_of_false (Option.some_ne_none token) fun hboth => Nat.not_lt.2 hboth.1 hover
  · next hwithin => exact (and_iff_right (Nat.not_lt.1 hwithin)).symm

/-- A scalar opens nothing. -/
theorem overflow?_leaf (hdialect : ∀ n, dialect.Admits n) {document : Json} {token : Token}
    (hleaf : token.leaf? = some document) (first : Bool) (frames : List Frame) (rest : List Token) :
    overflow? dialect room (token :: rest) ⟨frames, .value first⟩ = none ↔
      frames.length ≤ room ∧ overflow? dialect room rest (place document frames) = none := by
  have hbegin : beginValue? frames token = some (place document frames) := by
    cases token <;> first | (cases hleaf; done) | (obtain rfl := Option.some.inj hleaf; rfl)
  rw [overflow?_cons (step?_of_beginValue (fun _ => hdialect _) hbegin), opened_place]

/-- A name and its colon open the object that they stand in. -/
theorem overflow?_name (hdialect : ∀ n, dialect.Admits n) (first : Bool) (frames : List Frame)
    (members : List (Text × Json)) (name : Text) (rest : List Token) :
    overflow? dialect room (.text name :: .colon :: rest) ⟨frames, .name first members⟩ = none ↔
      frames.length + 1 ≤ room ∧
        overflow? dialect room rest ⟨.object members name :: frames, .value false⟩ = none := by
  have hcolon : step? dialect .colon ⟨frames, .colon members name⟩ =
      some ⟨.object members name :: frames, .value false⟩ := rfl
  rw [overflow?_cons (step?_name fun _ => hdialect _), overflow?_cons hcolon]
  exact and_iff_right_of_imp And.left

mutual

/-- **The tokens of a value open as many containers at once as it is deep**, on top of those that are open, whatever
follows them. The dialect has no limit of its own, so that every token of the value has a place. -/
theorem overflow?_tokens (hdialect : ∀ n, dialect.Admits n) (document : Json) (first : Bool) (frames : List Frame)
    (rest : List Token) :
    overflow? dialect room (document.tokens ++ rest) ⟨frames, .value first⟩ = none ↔
      frames.length + document.depth ≤ room ∧ overflow? dialect room rest (place document frames) = none := by
  have hopen {token : Token} {next : Reader} {more : List Token} (hbegin : beginValue? frames token = some next) :
      overflow? dialect room (token :: more) ⟨frames, .value first⟩ = none ↔
        next.opened ≤ room ∧ overflow? dialect room more next = none :=
    overflow?_cons (step?_of_beginValue (fun _ => hdialect _) hbegin)
  match document with
  | .null => exact overflow?_leaf hdialect rfl first frames rest
  | .flag b => exact overflow?_leaf hdialect rfl first frames rest
  | .whole n => exact overflow?_leaf hdialect rfl first frames rest
  | .real x => exact overflow?_leaf hdialect rfl first frames rest
  | .text t => exact overflow?_leaf hdialect rfl first frames rest
  -- an empty container is open for a moment, and needs its place all the same
  | .list [] =>
    have hclose : step? dialect .closeList ⟨.list [] :: frames, .value true⟩ = some (place (.list []) frames) := rfl
    rw [tokens, List.cons_append, List.cons_append, hopen rfl, overflow?_cons hclose, opened_place]
    exact and_congr_right fun hroom => and_iff_right (Nat.le_of_succ_le hroom)
  -- the first item is read inside the list, and the others behind it
  | .list (item :: items) =>
    have hmore := overflow?_moreItems hdialect items [item] frames rest
    have hitem : place item (.list [] :: frames) = ⟨.list [item] :: frames, .more⟩ := rfl
    simp only [tokens, List.cons_append, List.append_assoc, depth, depthOfItems]
    rw [hopen rfl, overflow?_tokens hdialect item true (.list [] :: frames), hitem, opened, List.length_cons,
      and_left_comm]
    refine (and_congr_right' hmore).trans ?_
    rw [← and_assoc]
    exact and_congr_left' (by omega)
  | .object [] =>
    have hclose : step? dialect .closeObject ⟨frames, .name true []⟩ = some (place (.object []) frames) := rfl
    rw [tokens, List.cons_append, List.cons_append, hopen rfl, overflow?_cons hclose, opened_place]
    exact and_congr_right fun hroom => and_iff_right (Nat.le_of_succ_le hroom)
  | .object ((name, value) :: members) =>
    have hmore := overflow?_moreMembers hdialect members [(name, value)] name frames rest
    have hvalue : place value (.object [] name :: frames) = ⟨.object [(name, value)] name :: frames, .more⟩ := rfl
    simp only [tokens, List.cons_append, List.append_assoc, depth, depthOfMembers]
    rw [hopen rfl, overflow?_name hdialect, overflow?_tokens hdialect value false (.object [] name :: frames), hvalue,
      opened, List.length_cons, and_self_left, and_left_comm]
    refine (and_congr_right' hmore).trans ?_
    rw [← and_assoc]
    exact and_congr_left' (by omega)

/-- The rest of a list, which is open itself to its end. The list has one place in the room for as long as it is
read, and each further item takes what it needs beside it. -/
theorem overflow?_moreItems (hdialect : ∀ n, dialect.Admits n) (items done : List Json) (frames : List Frame)
    (rest : List Token) :
    (frames.length + 1 ≤ room ∧
        overflow? dialect room (moreItems items ++ ([.closeList] ++ rest)) ⟨.list done :: frames, .more⟩ = none) ↔
      frames.length + 1 + depthOfItems items ≤ room ∧
        overflow? dialect room rest (place (.list (done.reverse ++ items)) frames) = none := by
  match items with
  | [] =>
    have hclose : step? dialect .closeList ⟨.list done :: frames, .more⟩ =
      some (place (.list done.reverse) frames) := rfl
    rw [moreItems, List.nil_append, List.singleton_append, overflow?_cons hclose, opened_place, List.append_nil]
    exact and_congr_right fun hroom => and_iff_right (Nat.le_of_succ_le hroom)
  | item :: items =>
    have hcomma : step? dialect .comma ⟨.list done :: frames, .more⟩ = some ⟨.list done :: frames, .value false⟩ := rfl
    have hitem : place item (.list done :: frames) = ⟨.list (item :: done) :: frames, .more⟩ := rfl
    -- the item is read in one more open frame, and the list is where it was behind it
    have hmore := overflow?_moreItems hdialect items (item :: done) frames rest
    rw [List.reverse_cons, List.append_assoc, List.singleton_append] at hmore
    simp only [moreItems, List.cons_append, List.append_assoc, depthOfItems]
    rw [overflow?_cons hcomma, overflow?_tokens hdialect item false (.list done :: frames), hitem, opened,
      List.length_cons, and_self_left, and_left_comm]
    refine (and_congr_right' hmore).trans ?_
    rw [← and_assoc]
    exact and_congr_left' (by omega)

/-- The rest of an object, which is open itself to its end. A name and its colon open nothing, so that only the
values of the members count. -/
theorem overflow?_moreMembers (hdialect : ∀ n, dialect.Admits n) (members done : List (Text × Json)) (name : Text)
    (frames : List Frame) (rest : List Token) :
    (frames.length + 1 ≤ room ∧
        overflow? dialect room (moreMembers members ++ ([.closeObject] ++ rest))
          ⟨.object done name :: frames, .more⟩ = none) ↔
      frames.length + 1 + depthOfMembers members ≤ room ∧
        overflow? dialect room rest (place (.object (done.reverse ++ members)) frames) = none := by
  match members with
  | [] =>
    have hclose : step? dialect .closeObject ⟨.object done name :: frames, .more⟩ =
      some (place (.object done.reverse) frames) := rfl
    rw [moreMembers, List.nil_append, List.singleton_append, overflow?_cons hclose, opened_place, List.append_nil]
    exact and_congr_right fun hroom => and_iff_right (Nat.le_of_succ_le hroom)
  | (next, value) :: members =>
    have hcomma : step? dialect .comma ⟨.object done name :: frames, .more⟩ = some ⟨frames, .name false done⟩ := rfl
    have hvalue : place value (.object done next :: frames) =
      ⟨.object ((next, value) :: done) next :: frames, .more⟩ := rfl
    -- the name opens nothing, and the value is read in the frame of the object
    have hmore := overflow?_moreMembers hdialect members ((next, value) :: done) next frames rest
    rw [List.reverse_cons, List.append_assoc, List.singleton_append] at hmore
    simp only [moreMembers, List.cons_append, List.append_assoc, depthOfMembers]
    rw [overflow?_cons hcomma, overflow?_name hdialect, overflow?_tokens hdialect value false
      (.object done next :: frames), hvalue, opened, List.length_cons, and_self_left, and_self_left, and_left_comm]
    refine (and_congr_right' hmore).trans ?_
    rw [← and_assoc]
    exact and_congr_left' (by omega)

end

end Reader

/-- **A document's text is within the room of a reader iff the document is.** -/
theorem tooDeep?_eq_none_iff {dialect : Dialect} (hdialect : dialect.maxDepth = none) {room : Nat} {t : Text}
    {document : Json} (h : read? dialect t = some document) :
    tooDeep? dialect room t = none ↔ document.depth ≤ room := by
  obtain ⟨tokens, hscan, htokens⟩ := Option.bind_eq_some_iff.1 h
  obtain rfl := tokens_of_ofTokens? htokens
  have hadmits : ∀ n, dialect.Admits n := fun n limit hlimit => by
    rw [hdialect] at hlimit
    cases hlimit
  have htext : Reader.overflow? dialect room (document.tokens ++ []) _ = none ↔ _ :=
    Reader.overflow?_tokens hadmits document false [] []
  rw [List.append_nil] at htext
  rw [tooDeep?, Token.found_of_scan? hscan, Reader.start, htext, List.length_nil, Nat.zero_add]
  exact and_iff_left rfl

/-! ## What settling and laying out need -/

/-- Every value of an object is within its depth. -/
theorem depthOfMembers_le_iff {members : List (Text × Json)} {n : Nat} :
    depthOfMembers members ≤ n ↔ ∀ member ∈ members, member.2.depth ≤ n := by
  induction members with
  | nil => simp [depthOfMembers]
  | cons member rest ih => rw [depthOfMembers, Nat.max_le, ih, List.forall_mem_cons]

/-- A value that is put in makes an object no deeper than it or the object was. -/
theorem depthOfMembers_insertMember_le (members : List (Text × Json)) (name : Text) (value : Json) :
    depthOfMembers (insertMember name value members) ≤ max value.depth (depthOfMembers members) := by
  refine depthOfMembers_le_iff.2 fun member hmember => ?_
  rcases mem_insertMember hmember with rfl | hbefore
  · exact Nat.le_max_left _ _
  · exact Nat.le_trans (depthOfMembers_le_iff.1 (Nat.le_refl _) member hbefore) (Nat.le_max_right _ _)

mutual

/-- **A document that is settled is no deeper than it was.** -/
theorem depth_settled_le (document : Json) : document.settled.depth ≤ document.depth := by
  match document with
  | .null | .flag _ | .whole _ | .real _ | .text _ => exact Nat.le_refl _
  | .list items => exact Nat.succ_le_succ (depthOfItems_settledItems_le items)
  | .object members =>
    have hmembers := depthOfMembers_settledMembers_le members []
    rw [depthOfMembers, Nat.zero_max] at hmembers
    exact Nat.succ_le_succ hmembers

/-- Settling the items of a list makes none of them deeper. -/
theorem depthOfItems_settledItems_le (items : List Json) : depthOfItems (settledItems items) ≤ depthOfItems items := by
  match items with
  | [] => exact Nat.le_refl _
  | item :: rest =>
    have hitem := depth_settled_le item
    have hrest := depthOfItems_settledItems_le rest
    rw [settledItems, depthOfItems, depthOfItems]
    omega

/-- Settling members makes none of them deeper: a name that comes again takes the value that comes last, and the
one before is lost. -/
theorem depthOfMembers_settledMembers_le (members done : List (Text × Json)) :
    depthOfMembers (settledMembers done members) ≤ max (depthOfMembers done) (depthOfMembers members) := by
  match members with
  | [] => exact Nat.le_max_left _ _
  | (name, value) :: rest =>
    have hrest := depthOfMembers_settledMembers_le rest (insertMember name value.settled done)
    have hinsert := depthOfMembers_insertMember_le done name value.settled
    have hvalue := depth_settled_le value
    rw [settledMembers, depthOfMembers]
    omega

end

mutual

/-- **Laying a document out goes no deeper than reading it**, if it has no number with a fraction or an exponent. -/
theorem levels_le_depth (document : Json) (hreal : ∀ x, Token.real x ∉ document.leaves) :
    document.levels ≤ document.depth := by
  match document with
  | .null | .flag _ | .whole _ | .text _ => exact Nat.le_refl _
  | .real x => exact absurd List.mem_cons_self (hreal x)
  | .list items =>
    rw [leaves_list] at hreal
    exact levelsOfItems_le items hreal
  | .object members =>
    rw [leaves_object] at hreal
    exact levelsOfMembers_le members hreal

/-- Without fractions a list takes one level of room more than it is deep at most. -/
theorem levelsOfItems_le (items : List Json) (hreal : ∀ x, Token.real x ∉ items.flatMap leaves) :
    levelsOfItems items ≤ depthOfItems items + 1 := by
  match items with
  | [] => exact Nat.zero_le _
  | item :: rest =>
    simp only [List.flatMap_cons, List.mem_append, not_or] at hreal
    have hitem := levels_le_depth item fun x => (hreal x).1
    have hrest := levelsOfItems_le rest fun x => (hreal x).2
    rw [levelsOfItems, depthOfItems]
    omega

/-- The same for an object, whose names are texts and take no room. -/
theorem levelsOfMembers_le (members : List (Text × Json))
    (hreal : ∀ x, Token.real x ∉ members.flatMap fun member => .text member.1 :: member.2.leaves) :
    levelsOfMembers members ≤ depthOfMembers members + 1 := by
  match members with
  | [] => exact Nat.zero_le _
  | (name, value) :: rest =>
    simp only [List.flatMap_cons, List.mem_append, List.mem_cons, not_or] at hreal
    have hvalue := levels_le_depth value fun x => (hreal x).1.2
    have hrest := levelsOfMembers_le rest fun x => (hreal x).2
    rw [levelsOfMembers, depthOfMembers]
    omega

end

end ClusterClient.Json
