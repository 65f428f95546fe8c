import ClusterClient.Proofs.Json.Printing
import ClusterClient.Proofs.Payload.KeySpace

/-!
# What a document says

An object that gives a name twice says what it gives last. Two documents say the same if their lists say the same item
by item, and their objects name by name. A document that is settled says what it said before, and says each name once:
settling it again changes nothing.

## The architecture

* **`Json.SameValue`**: two documents say the same.
* **`Json.lastMember?_settledMembers`**: settling keeps the last value of each name; **`sameValue_settled`**.
* **`Json.AreSettled`**: members with different names and settled values; **`settled_settled`**.
* **`Json.mem_leaves_settled`**: nothing is put in.
-/

namespace ClusterClient.Json

/-- Two documents say the same. -/
inductive SameValue : Json → Json → Prop
  | same (document : Json) : SameValue document document
  | list {items items' : List Json} (h : List.Forall₂ SameValue items items') : SameValue (.list items) (.list items')
  | object {members members' : List (Text × Json)}
    (h : ∀ name, Option.Rel SameValue (lastMember? members name) (lastMember? members' name)) :
    SameValue (.object members) (.object members')

/-! ## One member after the other -/

/-- A name that no member has stands for nothing, and the other way about. -/
theorem lastMember?_eq_none_iff {members : List (Text × Json)} {name : Text} :
    lastMember? members name = none ↔ name ∉ members.map Prod.fst := by
  rw [lastMember?_eq, Option.map_eq_none_iff, List.getLast?_eq_none_iff, List.filter_eq_nil_iff, List.mem_map]
  simp only [decide_eq_true_eq, not_exists, not_and]

/-- What a name stands for is one of the members. -/
theorem mem_of_lastMember? {members : List (Text × Json)} {name : Text} {value : Json}
    (h : lastMember? members name = some value) : (name, value) ∈ members := by
  rw [lastMember?_eq, Option.map_eq_some_iff] at h
  obtain ⟨⟨found, _⟩, hlast, rfl⟩ := h
  obtain ⟨hmem, hname⟩ := List.mem_filter.1 (List.mem_of_getLast? hlast)
  obtain rfl : found = name := of_decide_eq_true hname
  exact hmem

/-- A new name goes to the end. -/
theorem insertMember_of_notMem {members : List (Text × Json)} {name : Text} (h : name ∉ members.map Prod.fst)
    (value : Json) : insertMember name value members = members ++ [(name, value)] := by
  induction members with
  | nil => rfl
  | cons member rest ih =>
    rw [List.map_cons, List.mem_cons, not_or] at h
    rw [insertMember, if_neg (Ne.symm h.1), ih h.2, List.cons_append]

/-- A name that was there keeps its place; only its value is another. -/
theorem names_insertMember_of_mem {members : List (Text × Json)} {name : Text} (h : name ∈ members.map Prod.fst)
    (value : Json) : (insertMember name value members).map Prod.fst = members.map Prod.fst := by
  induction members with
  | nil => cases h
  | cons member rest ih =>
    rw [insertMember]
    split
    · rfl
    · next hname =>
      rw [List.map_cons, List.mem_cons] at h
      rw [List.map_cons, List.map_cons, ih (h.resolve_left (Ne.symm hname))]

/-- A member that is put in is the one that was put in or was there before. -/
theorem mem_insertMember {members : List (Text × Json)} {name : Text} {value : Json} {member : Text × Json}
    (h : member ∈ insertMember name value members) : member = (name, value) ∨ member ∈ members := by
  induction members with
  | nil => exact .inl (List.mem_singleton.1 h)
  | cons first rest ih =>
    rw [insertMember] at h
    split at h
    · next hname =>
      rw [hname] at h
      exact (List.mem_cons.1 h).imp_right (List.mem_cons_of_mem first)
    · rcases List.mem_cons.1 h with rfl | hrest
      · exact .inr List.mem_cons_self
      · exact (ih hrest).imp_right (List.mem_cons_of_mem first)

/-- **Names stay different**, whether the name is new or not, so that an object that is settled says each name
once. -/
theorem nodup_insertMember {members : List (Text × Json)} (h : (members.map Prod.fst).Nodup) (name : Text)
    (value : Json) : ((insertMember name value members).map Prod.fst).Nodup := by
  by_cases hname : name ∈ members.map Prod.fst
  · rwa [names_insertMember_of_mem hname]
  · rw [insertMember_of_notMem hname, List.map_append]
    -- the new name stands behind names that are all others
    have happart : ∀ n ∈ members.map Prod.fst, ∀ n' ∈ [name], n ≠ n' := by
      rintro n hn n' hn' rfl
      exact hname (List.mem_singleton.1 hn' ▸ hn)
    exact List.nodup_append.2 ⟨h, List.pairwise_singleton _ _, happart⟩

/-- **The name that is put in stands for the value that came with it, every other name for what it stood for.**
This is how a mapping is updated, said of a list of members. -/
theorem lastMember?_insertMember {members : List (Text × Json)} (h : (members.map Prod.fst).Nodup) (name : Text)
    (value : Json) (sought : Text) :
    lastMember? (insertMember name value members) sought =
      if name = sought then some value else lastMember? members sought := by
  induction members with
  | nil => rfl
  | cons member rest ih =>
    obtain ⟨n, v⟩ := member
    obtain ⟨hfirst, hrest⟩ := List.nodup_cons.1 h
    rw [insertMember]
    split
    · next hn =>
      obtain rfl := hn
      rw [lastMember?_cons, lastMember?_cons]
      split
      · next hsought =>
        -- the name does not stand again behind its place, so the new value is the last one
        obtain rfl := hsought
        rw [lastMember?_eq_none_iff.2 hfirst, Option.none_or]
      · rfl
    · next hn =>
      rw [lastMember?_cons, lastMember?_cons, ih hrest]
      split
      · next hsought =>
        rw [if_neg fun hn' => hn (hn'.trans hsought.symm)]
        rfl
      · rfl

/-- **Settling gives each name its last value, settled.** Induction on the members to come, with any members
done before: what comes later counts more, what was done before counts least. -/
theorem lastMember?_settledMembers {done : List (Text × Json)} (h : (done.map Prod.fst).Nodup)
    (members : List (Text × Json)) (name : Text) :
    lastMember? (settledMembers done members) name =
      ((lastMember? members name).map settled).or (lastMember? done name) := by
  induction members generalizing done with
  | nil => rfl
  | cons member rest ih =>
    obtain ⟨n, v⟩ := member
    rw [settledMembers, ih (nodup_insertMember h n v.settled), lastMember?_insertMember h, lastMember?_cons]
    cases lastMember? rest name with
    | some value => rfl
    | none => split <;> rfl

example :
    (object [("a", .whole 1), ("b", .null), ("a", .whole 2)]).settled = object [("a", .whole 2), ("b", .null)] := by
  rfl

/-! ## What is settled says the same -/

mutual

/-- **A document that is settled says what it said.** Lists are compared item by item, objects by what each name
stands for, which settling keeps. -/
theorem sameValue_settled (document : Json) : SameValue document document.settled := by
  match document with
  | .null | .flag _ | .whole _ | .real _ | .text _ => exact .same _
  | .list items => exact .list (sameValue_settledItems items)
  | .object members =>
    refine .object fun name => ?_
    have hnone : (([] : List (Text × Json)).map Prod.fst).Nodup := List.nodup_nil
    rw [lastMember?_settledMembers hnone, lastMember?_nil, Option.or_none]
    cases hlast : lastMember? members name with
    | none => exact .none
    | some value => exact .some (sameValue_of_mem members (name, value) (mem_of_lastMember? hlast))

/-- The items of a list, one by one. -/
theorem sameValue_settledItems (items : List Json) : List.Forall₂ SameValue items (settledItems items) := by
  match items with
  | [] => exact .nil
  | item :: rest => exact .cons (sameValue_settled item) (sameValue_settledItems rest)

/-- The values of members, each by itself. The last value of a name is one of them. -/
theorem sameValue_of_mem (members : List (Text × Json)) :
    ∀ member ∈ members, SameValue member.2 member.2.settled := by
  match members with
  | [] => exact List.forall_mem_nil _
  | (_, value) :: rest => exact List.forall_mem_cons.2 ⟨sameValue_settled value, sameValue_of_mem rest⟩

end

/-! ## What is settled stays as it is -/

/-- Members with different names, whose values are settled. -/
structure AreSettled (members : List (Text × Json)) : Prop where
  names : (members.map Prod.fst).Nodup
  values : ∀ member ∈ members, member.2.settled = member.2

namespace AreSettled

theorem nil : AreSettled [] := ⟨List.nodup_nil, List.forall_mem_nil _⟩

/-- A settled value may be put in under any name. -/
theorem insertMember {members : List (Text × Json)} (h : AreSettled members) (name : Text) {value : Json}
    (hvalue : value.settled = value) : AreSettled (insertMember name value members) where
  names := nodup_insertMember h.names name value
  values member hmember := by
    rcases mem_insertMember hmember with rfl | hbefore
    · exact hvalue
    · exact h.values member hbefore

/-- **Settled members are entered as they are**: none of the names comes again, so each is put at the end. -/
theorem settledMembers_eq {done members : List (Text × Json)} (h : AreSettled (done ++ members)) :
    settledMembers done members = done ++ members := by
  induction members generalizing done with
  | nil => exact (List.append_nil done).symm
  | cons member rest ih =>
    obtain ⟨name, value⟩ := member
    -- the name is none of those that are done
    have hnew : name ∉ done.map Prod.fst := by
      have hnames := h.names
      rw [List.map_append] at hnames
      exact fun hmem => (List.nodup_append.1 hnames).2.2 _ hmem _ List.mem_cons_self rfl
    rw [List.append_cons] at h ⊢
    rw [settledMembers, h.values (name, value) (by simp), insertMember_of_notMem hnew, ih h]

end AreSettled

mutual

/-- **What is settled is settled**: settling it again changes nothing, not even the order of the members. -/
theorem settled_settled (document : Json) : document.settled.settled = document.settled := by
  match document with
  | .null | .flag _ | .whole _ | .real _ | .text _ => rfl
  | .list items => exact congrArg list (settledItems_settledItems items)
  | .object members => exact congrArg object (areSettled_settledMembers members .nil).settledMembers_eq

/-- The items of a list, one by one. -/
theorem settledItems_settledItems (items : List Json) :
    settledItems (settledItems items) = settledItems items := by
  match items with
  | [] => rfl
  | item :: rest =>
    rw [settledItems, settledItems, settled_settled item, settledItems_settledItems rest]

/-- Members are settled one after the other, and what is done by then stays settled. -/
theorem areSettled_settledMembers (members : List (Text × Json)) {done : List (Text × Json)}
    (h : AreSettled done) : AreSettled (settledMembers done members) := by
  match members with
  | [] => exact h
  | (name, value) :: rest =>
    exact areSettled_settledMembers rest (h.insertMember name (settled_settled value))

end

/-! ## Nothing is put in -/

theorem mem_leaves_object {members : List (Text × Json)} {token : Token} :
    token ∈ (object members).leaves ↔ ∃ member ∈ members, token = .text member.1 ∨ token ∈ member.2.leaves := by
  simp only [leaves_object, List.mem_flatMap, List.mem_cons]

mutual

/-- **A document that is settled has only scalars and names that it had.** -/
theorem mem_leaves_settled (document : Json) {token : Token} (h : token ∈ document.settled.leaves) :
    token ∈ document.leaves := by
  match document with
  | .null | .flag _ | .whole _ | .real _ | .text _ => exact h
  | .list items =>
    rw [settled, leaves_list] at h
    rw [leaves_list]
    exact mem_leaves_settledItems items h
  | .object members =>
    rw [settled] at h
    rcases mem_leaves_settledMembers members h with hnil | hmembers
    · cases hnil
    · exact hmembers

/-- The items of a list, one by one. -/
theorem mem_leaves_settledItems (items : List Json) {token : Token}
    (h : token ∈ (settledItems items).flatMap leaves) : token ∈ items.flatMap leaves := by
  match items with
  | [] => exact h
  | item :: rest =>
    rw [settledItems, List.flatMap_cons, List.mem_append] at h
    rw [List.flatMap_cons, List.mem_append]
    exact h.imp (mem_leaves_settled item) (mem_leaves_settledItems rest)

/-- What stands in the members in the end stood in those that were done or in those to come. Values that a later
member of the same name drives out are left behind, so this is no equality. -/
theorem mem_leaves_settledMembers (members : List (Text × Json)) {done : List (Text × Json)} {token : Token}
    (h : token ∈ (object (settledMembers done members)).leaves) :
    token ∈ (object done).leaves ∨ token ∈ (object members).leaves := by
  match members with
  | [] => exact .inl h
  | (name, value) :: rest =>
    rcases mem_leaves_settledMembers rest h with hdone | hrest
    · -- the first member is among those that are done by now
      obtain ⟨member, hmember, htoken⟩ := mem_leaves_object.1 hdone
      rcases mem_insertMember hmember with rfl | hbefore
      · exact .inr (mem_leaves_object.2
          ⟨(name, value), List.mem_cons_self, htoken.imp_right (mem_leaves_settled value)⟩)
      · exact .inl (mem_leaves_object.2 ⟨member, hbefore, htoken⟩)
    · obtain ⟨member, hmember, htoken⟩ := mem_leaves_object.1 hrest
      exact .inr (mem_leaves_object.2 ⟨member, List.mem_cons_of_mem _ hmember, htoken⟩)

end

end ClusterClient.Json
