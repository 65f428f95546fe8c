import ClusterClient.Url.Reader

/-!
# Splitting a URL at its marks

`UrlParts.ofText` takes a text apart from the left: the scheme, the authority, the path, and what the
marks `?` and `#` begin. This module says where its cuts fall.

## The architecture

* **Stages**: `splitScheme`, `splitAuthority` and `splitTail` each cut once; `ofText_eq` composes them.
  No stage before the last passes a mark, so that query and fragment depend on what stands behind the
  first mark alone (`tail_ofText`).
* **`ofText_rooted`**: a text that was put together from a scheme, an authority, a rooted path, a query and a
  fragment falls apart into just these.
* **`Authority.ofText_written`**: the same for user information, host and port.
-/

namespace ClusterClient

/-! ## Parts and their marks -/

namespace Url

/-- What stands in a marked part stands in the part or is one of the marks. -/
theorem mem_marked {front part back : Text} {c : CodePoint} (h : c ∈ marked front part back) :
    c ∈ front ∨ c ∈ part ∨ c ∈ back := by
  unfold marked at h
  split at h
  · exact absurd h List.not_mem_nil
  · rcases List.mem_append.1 h with h | hback
    · exact (List.mem_append.1 h).imp_right .inl
    · exact .inr (.inr hback)

/-- What stands in a part behind its mark is the mark or stands in the part. -/
theorem mem_following {mark : CodePoint} {part : Option Text} {c : CodePoint} (h : c ∈ following [mark] part) :
    c = mark ∨ ∃ t ∈ part, c ∈ t := by
  cases part with
  | none => exact absurd h List.not_mem_nil
  | some t => exact (List.mem_cons.1 h).imp_right fun hc => ⟨t, rfl, hc⟩

/-- Such a part begins with its mark. -/
theorem head?_following {mark : CodePoint} {part : Option Text} {c : CodePoint}
    (h : (following [mark] part).head? = some c) : c = mark := by
  cases part with
  | none => cases h
  | some t => exact (Option.some.inj h).symm

end Url

namespace UrlParts

/-! ## The stages -/

/-- The marks that begin a query or a fragment. -/
def isTailMark (c : CodePoint) : Bool := c = '?' || c = '#'

/-- The marks that end an authority. -/
def endsAuthority (c : CodePoint) : Bool := c = '/' || c = '?' || c = '#'

/-- The authority behind two slashes, and what follows it. -/
def splitAuthority (t : Text) : Text × Text :=
  match Text.dropStart? "//" t with
  | some rest => Text.breakAt endsAuthority rest
  | none => ([], t)

/-- The query and the fragment that begin with their marks. -/
def splitTail (t : Text) : Option Text × Option Text :=
  match afterMark '?' t with
  | some rest =>
    let parts := Text.breakAt (· = CodePoint.ofChar '#') rest
    (some parts.1, afterMark '#' parts.2)
  | none => (none, afterMark '#' t)

/-- What follows the authority. -/
def afterAuthority (t : Text) : Text := (splitAuthority (splitScheme t).2).2

/-- **The five stages, each by itself**: the scheme, the authority, the path, the query and the fragment, each
cut from what the stages before it have left. `UrlParts.ofText` cuts them in one go. -/
theorem ofText_eq (t : Text) :
    ofText t =
      { scheme := (splitScheme t).1
        authority := (splitAuthority (splitScheme t).2).1
        path := (Text.breakAt isTailMark (afterAuthority t)).1
        query := (splitTail (Text.breakAt isTailMark (afterAuthority t)).2).1
        fragment := (splitTail (Text.breakAt isTailMark (afterAuthority t)).2).2 } := by
  unfold ofText afterAuthority splitAuthority splitTail
  delta endsAuthority isTailMark
  generalize splitScheme t = cut
  obtain ⟨scheme, rest⟩ := cut
  dsimp only
  -- whether there is an authority or not, the rest is cut in the same way
  cases Text.dropStart? "//" rest
  all_goals
    dsimp only
    generalize Text.breakAt (fun c => c = '?' || c = '#') _ = cut
    obtain ⟨path, tail⟩ := cut
    dsimp only
    cases afterMark '?' tail <;> rfl

/-! ### The scheme -/

/-- A scheme that begins with a letter is found in front of its colon, as it holds no colon itself. -/
theorem splitScheme_append {s : Text} (hfirst : ∃ c, s.head? = some c ∧ c.isAsciiLetter = true)
    (hs : ∀ c ∈ s, isSchemePart c = true) (rest : Text) :
    splitScheme (s ++ CodePoint.ofChar ':' :: rest) = (s, rest) := by
  obtain ⟨c, hhead, hletter⟩ := hfirst
  have hstart : (s ++ CodePoint.ofChar ':' :: rest).head? = some c := by
    rw [List.head?_append, hhead, Option.some_or]
  have htake : (s ++ CodePoint.ofChar ':' :: rest).takeWhile isSchemePart = s := by
    rw [List.takeWhile_append_of_pos hs, List.takeWhile_cons, if_neg (by decide), List.append_nil]
  unfold splitScheme
  rw [hstart, htake]
  simp [hletter]

/-- The scheme and its colon are cut off, or nothing is. A text without a colon, or with something else in front
of it, has no scheme. -/
theorem splitScheme_cases (t : Text) :
    (splitScheme t = ([], t)) ∨
      ∃ s rest, splitScheme t = (s, rest) ∧ t = s ++ CodePoint.ofChar ':' :: rest ∧
        ∀ c ∈ s, isSchemePart c = true := by
  unfold splitScheme
  dsimp only
  generalize hs : (if (t.head?.map fun c => c.isAsciiLetter).getD false = true then
    t.takeWhile isSchemePart else []) = s
  -- whatever is taken for a scheme is the longest beginning of scheme letters, or nothing
  have hstarts : s <+: t ∧ ∀ c ∈ s, isSchemePart c = true := by
    split at hs
    · subst hs
      exact ⟨List.takeWhile_prefix _, fun c hc => List.all_eq_true.1 List.all_takeWhile c hc⟩
    · subst hs
      exact ⟨List.nil_prefix, fun c hc => absurd hc List.not_mem_nil⟩
  obtain ⟨⟨rest, rfl⟩, hpart⟩ := hstarts
  rw [List.drop_left]
  split
  · split
    · next c rest hcolon =>
      subst hcolon
      exact .inr ⟨s, rest, rfl, rfl, hpart⟩
    · exact .inl rfl
  · exact .inl rfl

/-- What is cut off as a scheme is made of what schemes are made of. -/
theorem isSchemePart_of_mem {t : Text} {c : CodePoint} (h : c ∈ (splitScheme t).1) :
    isSchemePart c = true := by
  rcases splitScheme_cases t with heq | ⟨s, rest, heq, -, hpart⟩
  · rw [heq] at h
    exact absurd h List.not_mem_nil
  · rw [heq] at h
    exact hpart c h

/-- A class without the two marks is one of other code points. That the class lacks them is decided. -/
theorem isTailMark_of {p : CodePoint → Bool} (hquery : p '?' = false) (hfragment : p '#' = false)
    {c : CodePoint} (h : p c = true) : isTailMark c = false := by
  rw [Bool.eq_false_iff]
  intro hmark
  simp only [isTailMark, Bool.or_eq_true, decide_eq_true_eq] at hmark
  rcases hmark with rfl | rfl
  · rw [h] at hquery
    cases hquery
  · rw [h] at hfragment
    cases hfragment

theorem isTailMark_of_isSchemePart {c : CodePoint} (h : isSchemePart c = true) : isTailMark c = false :=
  isTailMark_of (by decide) (by decide) h

/-! ### The authority -/

/-- An authority is found between two slashes and a mark that ends it. -/
theorem splitAuthority_append {a rest : Text} (ha : ∀ c ∈ a, endsAuthority c = false)
    (hrest : ∀ c, rest.head? = some c → endsAuthority c = true) :
    splitAuthority ("//" ++ (a ++ rest)) = (a, rest) := by
  unfold splitAuthority
  rw [Text.dropStart?_append]
  exact Text.breakAt_append_of ha hrest

/-- An authority holds none of the marks that end it. -/
theorem endsAuthority_of_mem {t : Text} {c : CodePoint} (h : c ∈ (splitAuthority t).1) :
    endsAuthority c = false := by
  unfold splitAuthority at h
  split at h
  · exact Text.not_of_mem_breakAt_fst h
  · exact absurd h List.not_mem_nil

/-- A class without the three marks lies within an authority. -/
theorem endsAuthority_of {p : CodePoint → Bool} (hslash : p '/' = false) (hquery : p '?' = false)
    (hfragment : p '#' = false) {c : CodePoint} (h : p c = true) : endsAuthority c = false := by
  have hmark := isTailMark_of hquery hfragment h
  simp only [isTailMark, Bool.or_eq_false_iff] at hmark
  simp only [endsAuthority, Bool.or_eq_false_iff, decide_eq_false_iff_not]
  refine ⟨⟨?_, of_decide_eq_false hmark.1⟩, of_decide_eq_false hmark.2⟩
  rintro rfl
  rw [h] at hslash
  cases hslash

/-- The slashes in front of an authority are no marks of what follows it. -/
theorem isTailMark_of_mem_slashes {c : CodePoint} (h : c ∈ Text.ofString "//") : isTailMark c = false := by
  have hall : (Text.ofString "//").all (fun c => !isTailMark c) = true := by decide
  simpa using List.all_eq_true.1 hall c h

/-- What does not end an authority does not begin a query or a fragment. -/
theorem isTailMark_of_endsAuthority {c : CodePoint} (h : endsAuthority c = false) :
    isTailMark c = false := by
  simp only [endsAuthority, Bool.or_eq_false_iff] at h
  simp only [isTailMark, Bool.or_eq_false_iff]
  exact ⟨h.1.2, h.2⟩

/-- An authority is cut from the text. -/
theorem mem_of_mem_splitAuthority {t : Text} {c : CodePoint} (h : c ∈ (splitAuthority t).1) : c ∈ t := by
  unfold splitAuthority at h
  split at h
  · next rest heq =>
    rw [Text.eq_of_dropStart? heq]
    exact List.mem_append_right _ (Text.mem_of_mem_breakAt_fst h)
  · exact absurd h List.not_mem_nil

/-! ### Query and fragment -/

/-- **What the last stage finds is what stands behind the first mark of the text.** So the query and the
fragment can be told without looking at the stages before. -/
theorem tail_afterAuthority (t : Text) :
    (Text.breakAt isTailMark (afterAuthority t)).2 = (Text.breakAt isTailMark t).2 := by
  have hscheme : (Text.breakAt isTailMark (splitScheme t).2).2 = (Text.breakAt isTailMark t).2 := by
    rcases splitScheme_cases t with heq | ⟨s, rest, heq, ht, hpart⟩
    · rw [heq]
    · rw [heq, ht, ← List.singleton_append, ← List.append_assoc]
      refine (Text.breakAt_snd_append (fun c hc => ?_) rest).symm
      rcases List.mem_append.1 hc with hc | hc
      · exact isTailMark_of_isSchemePart (hpart c hc)
      · rw [List.mem_singleton.1 hc]
        decide
  -- neither stage has passed a mark: a scheme holds none, and an authority ends at the first
  rw [← hscheme, afterAuthority]
  generalize (splitScheme t).2 = t
  unfold splitAuthority
  split
  · next rest heq =>
    have hcut := Text.breakAt_append endsAuthority rest
    have ht : t = (Text.ofString "//" ++ (Text.breakAt endsAuthority rest).1) ++
        (Text.breakAt endsAuthority rest).2 := by
      rw [Text.eq_of_dropStart? heq, List.append_assoc, hcut]
    rw [ht]
    refine (Text.breakAt_snd_append (fun c hc => ?_) _).symm
    rcases List.mem_append.1 hc with hc | hc
    · exact isTailMark_of_mem_slashes hc
    · exact isTailMark_of_endsAuthority (Text.not_of_mem_breakAt_fst hc)
  · rfl

theorem query_ofText (t : Text) :
    (ofText t).query = (splitTail (Text.breakAt isTailMark t).2).1 := by
  rw [ofText_eq, tail_afterAuthority]

theorem fragment_ofText (t : Text) :
    (ofText t).fragment = (splitTail (Text.breakAt isTailMark t).2).2 := by
  rw [ofText_eq, tail_afterAuthority]

/-- A query and a fragment begin with their marks. -/
theorem isTailMark_of_head? {q f : Option Text} {c : CodePoint}
    (h : (Url.following "?" q ++ Url.following "#" f).head? = some c) : isTailMark c = true := by
  cases q with
  | some q =>
    obtain rfl := Option.some.inj h
    decide
  | none =>
    obtain rfl : c = CodePoint.ofChar '#' := Url.head?_following h
    decide

/-- A query and a fragment are told apart by the mark of the fragment, which the query does not hold. A fragment
without a query is not taken for one, as its mark is another. -/
theorem splitTail_following {q f : Option Text} (hq : ∀ query ∈ q, CodePoint.ofChar '#' ∉ query) :
    splitTail (Url.following "?" q ++ Url.following "#" f) = (q, f) := by
  have hfragment : ∀ f : Option Text, afterMark '#' (Url.following "#" f) = f := by
    intro f
    cases f <;> rfl
  -- a fragment alone is not taken for a query
  have hnone : afterMark '?' (Url.following "#" f) = none := by
    cases f <;> rfl
  cases q with
  | none =>
    show splitTail (Url.following "#" f) = (none, f)
    unfold splitTail
    rw [hnone]
    exact congrArg _ (hfragment f)
  | some query =>
    have hbreak : (query ++ Url.following "#" f).breakAt (· = CodePoint.ofChar '#') =
        (query, Url.following "#" f) := by
      refine Text.breakAt_append_of (fun c hc => ?_) (fun c hc => ?_)
      · rw [decide_eq_false_iff_not]
        rintro rfl
        exact hq query rfl hc
      · exact decide_eq_true (Url.head?_following hc)
    have hmark : afterMark '?' (Url.following "?" (some query) ++ Url.following "#" f) =
        some (query ++ Url.following "#" f) := rfl
    unfold splitTail
    rw [hmark]
    show (some (Text.breakAt _ _).1, afterMark '#' (Text.breakAt _ _).2) = _
    rw [hbreak, hfragment]

/-- **What stands behind the first mark is the query and the fragment**, whatever stands before it. -/
theorem tail_ofText {front : Text} (hfront : ∀ c ∈ front, isTailMark c = false) {q f : Option Text}
    (hq : ∀ query ∈ q, CodePoint.ofChar '#' ∉ query) :
    (ofText (front ++ (Url.following "?" q ++ Url.following "#" f))).query = q ∧
      (ofText (front ++ (Url.following "?" q ++ Url.following "#" f))).fragment = f := by
  rw [query_ofText, fragment_ofText, Text.breakAt_append_of hfront fun c hc => isTailMark_of_head? hc,
    splitTail_following hq]
  exact ⟨rfl, rfl⟩

/-! ### A text that was put together -/

/-- **A text falls apart into the parts that it was put together from.** Each hypothesis keeps one part from
ending early or late. -/
theorem ofText_rooted {s a p : Text} {q f : Option Text}
    (hfirst : ∃ c, s.head? = some c ∧ c.isAsciiLetter = true) (hs : ∀ c ∈ s, isSchemePart c = true)
    (ha : ∀ c ∈ a, endsAuthority c = false) (hp : ∀ c ∈ p, isTailMark c = false)
    (hrooted : ∀ c, p.head? = some c → c = CodePoint.ofChar '/')
    (hq : ∀ query ∈ q, CodePoint.ofChar '#' ∉ query) :
    ofText (s ++ CodePoint.ofChar ':' :: ("//" ++ (a ++ (p ++ (Url.following "?" q ++ Url.following "#" f))))) =
      ⟨s, a, p, q, f⟩ := by
  have hends : ∀ c, (p ++ (Url.following "?" q ++ Url.following "#" f)).head? = some c →
      endsAuthority c = true := by
    intro c hc
    -- behind the authority stands the slash of the path, or a later mark if there is no path
    cases p with
    | nil =>
      have hmark := isTailMark_of_head? hc
      simp only [isTailMark, Bool.or_eq_true] at hmark
      simp only [endsAuthority, Bool.or_eq_true]
      exact hmark.elim (fun h => .inl (.inr h)) .inr
    | cons d p =>
      obtain rfl := Option.some.inj hc
      rw [hrooted d rfl]
      decide
  rw [ofText_eq, afterAuthority, splitScheme_append hfirst hs, splitAuthority_append ha hends,
    Text.breakAt_append_of hp fun c hc => isTailMark_of_head? hc, splitTail_following hq]

end UrlParts

namespace Url.Authority

/-! ## The authority

A host stands between brackets, or it holds no colon. -/

/-- The host in front, and what follows it. -/
def splitHost (t : Text) : Text × Text :=
  match t with
  | c :: _ =>
    if c = '[' then
      match t.splitLast? ']' with
      | some (front, back) => (front ++ "]", back)
      | none => Text.breakAt (· = CodePoint.ofChar ':') t
    else Text.breakAt (· = CodePoint.ofChar ':') t
  | [] => ([], [])

/-- The two cuts of an authority, each by itself: at the last mark of user information, then behind the host. -/
theorem ofText_eq (t : Text) :
    ofText t =
      let parts := (t.splitLast? '@').getD ([], t)
      { userinfo := parts.1
        host := (splitHost parts.2).1
        port := (UrlParts.afterMark ':' (splitHost parts.2).2).getD (splitHost parts.2).2 } := by
  unfold ofText
  generalize (t.splitLast? '@').getD ([], t) = cut
  obtain ⟨userinfo, rest⟩ := cut
  cases rest with
  | nil => rfl
  | cons c rest => rfl

/-- The two forms of a host inside an authority. -/
def IsHost (host : Text) : Prop :=
  (CodePoint.ofChar ':' ∉ host ∧ host.head? ≠ some (CodePoint.ofChar '[')) ∨
    ∃ inside, host = CodePoint.ofChar '[' :: (inside ++ [CodePoint.ofChar ']'])

/-- Without brackets, the first colon is that of the port. The host holds none, and what follows it begins with
one if it is there at all. -/
theorem splitHost_append_of_not_bracketed {host : Text} (hcolon : CodePoint.ofChar ':' ∉ host)
    (hbracket : host.head? ≠ some (CodePoint.ofChar '[')) (port : Option Text) :
    splitHost (host ++ following ":" port) = (host, following ":" port) := by
  have hbreak : (host ++ following ":" port).breakAt (· = CodePoint.ofChar ':') =
      (host, following ":" port) := by
    refine Text.breakAt_append_of (fun c hc => ?_) fun c hc => decide_eq_true (head?_following hc)
    rw [decide_eq_false_iff_not]
    rintro rfl
    exact hcolon hc
  -- an empty host is followed by a colon, and not by a bracket
  have hhead : (host ++ following ":" port).head? ≠ some (CodePoint.ofChar '[') := by
    cases host with
    | nil =>
      intro hhead
      exact absurd (head?_following hhead) (by decide)
    | cons c host => exact hbracket
  unfold splitHost
  split
  · next c rest heq =>
    rw [heq] at hhead
    rw [if_neg fun hc => hhead (congrArg some hc), hbreak]
  · next heq =>
    obtain ⟨rfl, hempty⟩ := List.append_eq_nil_iff.1 heq
    rw [hempty]

/-- With brackets, the host ends with the last one, and the colons inside do not matter. There is no closing
bracket in the port behind it, so that the last one is that of the host. -/
theorem splitHost_append_of_bracketed (inside : Text) {port : Option Text}
    (hport : ∀ p ∈ port, CodePoint.ofChar ']' ∉ p) :
    splitHost (CodePoint.ofChar '[' :: (inside ++ [CodePoint.ofChar ']']) ++ following ":" port) =
      (CodePoint.ofChar '[' :: (inside ++ [CodePoint.ofChar ']']), following ":" port) := by
  have hbehind : CodePoint.ofChar ']' ∉ following ":" port := by
    intro hmem
    rcases mem_following hmem with heq | ⟨p, hp, hmem⟩
    · exact absurd heq (by decide)
    · exact hport p hp hmem
  have hsplit := Text.splitLast?_append_cons hbehind (CodePoint.ofChar '[' :: inside)
  rw [List.cons_append, List.append_assoc, List.singleton_append]
  unfold splitHost
  dsimp only
  rw [if_pos rfl, ← List.cons_append, hsplit]
  rfl

/-- In both forms the host is found in front of its port. -/
theorem splitHost_append {host : Text} (hhost : IsHost host) {port : Option Text}
    (hport : ∀ p ∈ port, CodePoint.ofChar ']' ∉ p) :
    splitHost (host ++ following ":" port) = (host, following ":" port) := by
  rcases hhost with ⟨hcolon, hbracket⟩ | ⟨inside, rfl⟩
  · exact splitHost_append_of_not_bracketed hcolon hbracket port
  · exact splitHost_append_of_bracketed inside hport

/-- **An authority falls apart into its user information, its host and its port.** User information ends at the
last at sign, so that neither the host nor the port may hold one; and the host ends at its bracket or at the
colon of the port. -/
theorem ofText_written {userinfo host : Text} {port : Option Text} (hhost : IsHost host)
    (hat : CodePoint.ofChar '@' ∉ host)
    (hport : ∀ p ∈ port, CodePoint.ofChar '@' ∉ p ∧ CodePoint.ofChar ']' ∉ p) :
    ofText (marked [] userinfo "@" ++ host ++ following ":" port) = ⟨userinfo, host, port.getD []⟩ := by
  -- the last at sign is the one that ends the user information, if there is any
  have hrest : CodePoint.ofChar '@' ∉ host ++ following ":" port := by
    intro hmem
    rcases List.mem_append.1 hmem with hmem | hmem
    · exact hat hmem
    · rcases mem_following hmem with heq | ⟨p, hp, hmem⟩
      · exact absurd heq (by decide)
      · exact (hport p hp).1 hmem
  have hparts : ((marked [] userinfo "@" ++ host ++ following ":" port).splitLast? '@').getD
      ([], marked [] userinfo "@" ++ host ++ following ":" port) = (userinfo, host ++ following ":" port) := by
    rw [List.append_assoc]
    unfold marked
    split
    · next hempty =>
      rw [List.isEmpty_iff.1 hempty, List.nil_append, Text.splitLast?_eq_none hrest, Option.getD_none]
    · rw [List.nil_append, List.append_assoc]
      rw [show Text.ofString "@" ++ (host ++ following ":" port) =
        CodePoint.ofChar '@' :: (host ++ following ":" port) from rfl]
      rw [Text.splitLast?_append_cons hrest, Option.getD_some]
  rw [ofText_eq, hparts]
  show Authority.mk userinfo _ _ = _
  rw [splitHost_append hhost fun p hp => (hport p hp).2]
  cases port <;> rfl

/-- A host is taken from its authority, and user information ends before it. All that is cut off behind is the
port. -/
theorem of_mem_host {t : Text} {c : CodePoint} (h : c ∈ (ofText t).host) :
    c ∈ t ∧ c ≠ CodePoint.ofChar '@' := by
  -- the second cut takes from what the first one has left
  have hrest : ∀ rest, c ∈ (splitHost rest).1 → c ∈ rest := by
    intro rest hmem
    unfold splitHost at hmem
    split at hmem
    · split at hmem
      · split at hmem
        · next front back heq =>
          obtain ⟨ht, -⟩ := Text.eq_of_splitLast? heq
          rw [ht, ← List.singleton_append, ← List.append_assoc]
          exact List.mem_append_left _ hmem
        · exact Text.mem_of_mem_breakAt_fst hmem
      · exact Text.mem_of_mem_breakAt_fst hmem
    · exact hmem
  rw [ofText_eq] at h
  have hmem := hrest _ h
  cases hsplit : t.splitLast? '@' with
  | none =>
    rw [hsplit] at hmem
    refine ⟨hmem, ?_⟩
    rintro rfl
    exact Text.not_mem_of_splitLast? hsplit hmem
  | some parts =>
    obtain ⟨userinfo, rest⟩ := parts
    rw [hsplit] at hmem
    obtain ⟨rfl, hat⟩ := Text.eq_of_splitLast? hsplit
    refine ⟨List.mem_append_right _ (List.mem_cons_of_mem _ hmem), ?_⟩
    rintro rfl
    exact hat hmem

end Url.Authority

end ClusterClient
