import ClusterClient.Proofs.Json.Spelling
import ClusterClient.Proofs.Payload.Wording
import Mathlib.Data.List.Induction

/-!
# Results of the key space, as they are written

An object writes a node if each field is one member under the name that the cluster sends, in whatever order, where
a field without a value may be null or absent; what else the object holds bears none of these names. A directory
holds the nodes below it in a list.

Whatever the shape of the tree, a result is read from every text that writes it, with every node in its place.

## The architecture

* **`FieldName.Gives`**, **`FieldName.MayGive`**: what an object says of one field (`optional_of_mayGive`).
* **`Node.IsWritten`**: a document that writes a node; **`Node.ofJson_of_isWritten`** reads it, by induction on the
  tree, with `Node.nodesAt_of_areWritten` for the nodes below.
* **`results_are_read_as_written`**: from the octets to the result, within the limits of the reader of documents.
-/

namespace ClusterClient

/-! ## Members of an object -/

namespace Json

/-- The last member of a name is the last among those that bear it. -/
theorem lastMember?_eq (members : List (Text × Json)) (name : Text) :
    lastMember? members name = ((members.filter fun member => member.1 = name).getLast?).map Prod.snd := by
  induction members using List.reverseRecOn with
  | nil => rfl
  | append_singleton members member ih =>
    rw [lastMember?_append, List.filter_append]
    by_cases hname : member.1 = name
    · rw [if_pos hname, List.filter_cons_of_pos (by simpa using hname), List.filter_nil, List.getLast?_concat]
      rfl
    · rw [if_neg hname, List.filter_cons_of_neg (by simpa using hname), List.filter_nil, List.append_nil, ih]

/-- The first member is the last of its name if none behind it has that name. -/
theorem lastMember?_cons (name : Text) (value : Json) (rest : List (Text × Json)) (sought : Text) :
    lastMember? ((name, value) :: rest) sought =
      (lastMember? rest sought).or (if name = sought then some value else none) := by
  simp only [lastMember?_eq]
  by_cases hname : name = sought
  · rw [if_pos hname, List.filter_cons_of_pos (by simpa using hname), List.getLast?_cons]
    cases (rest.filter fun member => decide (member.1 = sought)).getLast? <;> rfl
  · rw [if_neg hname, List.filter_cons_of_neg (by simpa using hname), Option.or_none]

end Json

namespace Reading

variable {α : Type} {field : FieldName} {members : List (Text × Json)}

namespace FieldName

/-- The members that bear one of the names of a field. -/
def given (field : FieldName) (members : List (Text × Json)) : List (Text × Json) :=
  members.filter fun member => member.1 = field.sent || member.1 = field.own

/-- An object gives a field this value: one member bears its names, and that is the name that the cluster sends. -/
def Gives (field : FieldName) (members : List (Text × Json)) (json : Json) : Prop :=
  field.given members = [(field.sent, json)]

/-- An object gives a field a value, or none: by null, or by no member at all. -/
def MayGive (field : FieldName) (members : List (Text × Json)) : Option Json → Prop
  | some json => field.Gives members json
  | none => field.given members = [] ∨ field.Gives members .null

theorem MayGive.absent (h : field.given members = []) : field.MayGive members none := .inl h

/-- Of the members that give a field, those of one of its two names are all the members of that name. -/
theorem filter_given (field : FieldName) (members : List (Text × Json)) {name : Text}
    (h : name = field.sent ∨ name = field.own) :
    (field.given members).filter (fun member => member.1 = name) = members.filter fun member => member.1 = name := by
  rw [given, List.filter_filter]
  refine List.filter_congr fun member _ => ?_
  rcases h with rfl | rfl <;> simp +contextual

theorem Gives.value? {json : Json} (h : field.Gives members json) : field.value? members = some json := by
  have hsent := filter_given field members (.inl rfl)
  rw [h, List.filter_cons_of_pos (by simp), List.filter_nil] at hsent
  rw [FieldName.value?, FieldName.find?, Json.lastMember?_eq, ← hsent]
  rfl

theorem value?_of_given_eq_nil (h : field.given members = []) : field.value? members = none := by
  have hnone {name : Text} (hname : name = field.sent ∨ name = field.own) : Json.lastMember? members name = none := by
    have hfilter := filter_given field members hname
    rw [h, List.filter_nil] at hfilter
    rw [Json.lastMember?_eq, ← hfilter]
    rfl
  rw [FieldName.value?, FieldName.find?, hnone (.inl rfl), hnone (.inr rfl)]
  rfl

end FieldName

theorem required_of_gives {read : Reading α} {json : Json} {a : α} (h : field.Gives members json)
    (hread : read json = .ok a) : required members field read = .ok a :=
  required_eq_ok.2 ⟨json, h.value?, hread⟩

/-- A field that may be given is read, whichever way its absence is told. -/
theorem optional_of_mayGive {read : Reading α} {given : Option Json} {found : Option α}
    (h : field.MayGive members given)
    (hread : Option.Rel (fun json a => nullable read json = .ok (some a)) given found) :
    optional members field none (nullable read) = .ok found := by
  refine optional_eq_ok.2 ?_
  cases hread with
  | some hread => exact .inr ⟨_, FieldName.Gives.value? h, hread⟩
  | none =>
    rcases h with hnone | hnull
    · exact .inl ⟨FieldName.value?_of_given_eq_nil hnone, rfl⟩
    · exact .inr ⟨.null, hnull.value?, rfl⟩

/-- A field that holds a scalar. -/
theorem optional_of_mayGive_map {read : Reading α} {write : α → Json} {a? : Option α}
    (h : field.MayGive members (a?.map write)) (hread : ∀ a, nullable read (write a) = .ok (some a)) :
    optional members field none (nullable read) = .ok a? := by
  refine optional_of_mayGive h ?_
  cases a? with
  | none => exact .none
  | some a => exact .some (hread a)

end Reading

/-! ## Nodes -/

open Reading

namespace Node

/-- What the members of an object say of a node, but for the nodes below it. -/
structure IsGiven (node : Node) (members : List (Text × Json)) : Prop where
  createdIndex : FieldName.MayGive ⟨"createdIndex", "created_index"⟩ members (node.createdIndex.map .whole)
  dir : FieldName.MayGive "dir" members (node.dir.map .flag)
  expiration : FieldName.MayGive "expiration" members (node.expiration.map .text)
  key : FieldName.MayGive "key" members (node.key.map .text)
  modifiedIndex : FieldName.MayGive ⟨"modifiedIndex", "modified_index"⟩ members (node.modifiedIndex.map .whole)
  ttl : FieldName.MayGive "ttl" members (node.ttl.map .whole)
  value : FieldName.MayGive "value" members (node.value.map .text)

mutual

/-- A document that writes a node, with the nodes below it. -/
inductive IsWritten : Node → Json → Prop
  | plain {node : Node} {members : List (Text × Json)} (hfields : node.IsGiven members) (hnodes : node.nodes = none)
    (hgiven : FieldName.MayGive "nodes" members none) : IsWritten node (.object members)
  | directory {node : Node} {nodes : List Node} {members : List (Text × Json)} {items : List Json}
    (hfields : node.IsGiven members) (hnodes : node.nodes = some nodes)
    (hgiven : FieldName.MayGive "nodes" members (some (.list items))) (hbelow : AreWritten nodes items) :
    IsWritten node (.object members)

/-- Documents that write nodes, one after the other. -/
inductive AreWritten : List Node → List Json → Prop
  | nil : AreWritten [] []
  | cons {node : Node} {item : Json} {nodes : List Node} {items : List Json} (hnode : IsWritten node item)
    (hnodes : AreWritten nodes items) : AreWritten (node :: nodes) (item :: items)

end

/-- The nodes of a directory are one field among the others, and errors in them are told under its name. They
are read by a recursion of their own, which looks at the rest of the members first, so that the last member of
the name prevails here too. -/
theorem nodesIn?_eq (members : List (Text × Json)) :
    nodesIn? members =
      (FieldName.value? "nodes" members).map fun json => (nodesFrom json).within (.key nodesName) := by
  have hvalue (members : List (Text × Json)) :
      FieldName.value? "nodes" members = Json.lastMember? members nodesName := by
    show ((FieldName.same nodesName).find? members).map Prod.snd = _
    unfold FieldName.find? FieldName.same
    cases Json.lastMember? members nodesName <;> rfl
  induction members with
  | nil => rfl
  | cons member rest ih =>
    obtain ⟨name, json⟩ := member
    -- the rest is looked at first, so that the last member of the name prevails
    rw [nodesIn?, ih, hvalue, hvalue, Json.lastMember?_cons]
    cases Json.lastMember? rest nodesName with
    | some json => rfl
    | none => by_cases hname : name = nodesName <;> simp [hname]

/-- A node is read from its fields and the nodes below it. -/
theorem ofMembers_of_isGiven {node : Node} {members : List (Text × Json)} (h : node.IsGiven members) :
    ofMembers members (.ok node.nodes) = .ok node := by
  unfold ofMembers
  rw [optional_of_mayGive_map h.createdIndex fun _ => rfl, optional_of_mayGive_map h.dir fun _ => rfl,
    optional_of_mayGive_map h.expiration fun _ => rfl, optional_of_mayGive_map h.key fun _ => rfl,
    optional_of_mayGive_map h.modifiedIndex fun _ => rfl, optional_of_mayGive_map h.ttl fun _ => rfl,
    optional_of_mayGive_map h.value fun _ => rfl]
  cases node
  rfl

mutual

/-- **A node is read from every document that writes it.** The recursion is on how the node is written. A node
without nodes below it has its fields alone; those of a directory are written in turn, and read one by one. -/
theorem ofJson_of_isWritten {node : Node} {json : Json} (h : node.IsWritten json) : ofJson json = .ok node := by
  -- the recursion is on how the node is written: further members hold documents that are no nodes
  match h with
  | @IsWritten.plain _ members hfields hnodes hgiven =>
    have hread : (nodesIn? members).getD (.ok none) = .ok node.nodes := by
      rw [nodesIn?_eq, hnodes]
      rcases hgiven with habsent | hnull
      · rw [FieldName.value?_of_given_eq_nil habsent]
        rfl
      · rw [hnull.value?]
        rfl
    rw [ofJson, hread]
    exact ofMembers_of_isGiven hfields
  | @IsWritten.directory _ _ members _ hfields hnodes hgiven hbelow =>
    have hread : (nodesIn? members).getD (.ok none) = .ok node.nodes := by
      rw [nodesIn?_eq, hnodes, FieldName.Gives.value? hgiven, Option.map_some, nodesFrom,
        nodesAt_of_areWritten hbelow 0]
      rfl
    rw [ofJson, hread]
    exact ofMembers_of_isGiven hfields

/-- Nodes that are written one by one are read one by one. By induction on how the whole tree is written: each
node is read before those next to it, and its own nodes before it is. -/
theorem nodesAt_of_areWritten {nodes : List Node} {items : List Json} (h : AreWritten nodes items) (i : Nat) :
    nodesAt i items = .ok nodes := by
  match h with
  | .nil => rfl
  | .cons hnode hnodes =>
    rw [nodesAt, ofJson_of_isWritten hnode, nodesAt_of_areWritten hnodes (i + 1)]
    rfl

end

end Node

/-! ## Results -/

namespace KeyValueInfo

/-- What the members of an object say of a result. -/
structure IsGiven (info : KeyValueInfo) (members : List (Text × Json)) : Prop where
  action : FieldName.Gives "action" members (.text info.action.word)
  node : ∃ json, FieldName.Gives "node" members json ∧ info.node.IsWritten json
  previous : ∃ json, FieldName.MayGive ⟨"prevNode", "prev_node"⟩ members json ∧
    Option.Rel (fun json node => Node.IsWritten node json) json info.previous

/-- A document that writes a result. -/
def IsWritten (info : KeyValueInfo) (document : Json) : Prop :=
  ∃ members, document = .object members ∧ info.IsGiven members

/-- A result is read from every document that writes it: its action by the word for it, its node, and the node
before it if there is one and it is not null. -/
theorem ofJson_of_isWritten {info : KeyValueInfo} {document : Json} (h : info.IsWritten document) :
    ofJson document = .ok info := by
  obtain ⟨members, rfl, haction, ⟨json, hjson, hnode⟩, ⟨previous, hgiven, hprevious⟩⟩ := h
  have hword : Action.ofJson (.text info.action.word) = .ok info.action := by
    rw [Action.ofJson, Action.ofWord?_word]
  have hnullable {json : Json} {node : Node} (h : node.IsWritten json) :
      nullable Node.ofJson json = .ok (some node) := by
    refine nullable_eq_ok.2 (.inr ⟨?_, node, Node.ofJson_of_isWritten h, rfl⟩)
    rintro rfl
    cases h
  have hrel : Option.Rel (fun json node => nullable Node.ofJson json = .ok (some node)) previous info.previous := by
    generalize info.previous = found at hprevious ⊢
    cases hprevious with
    | some h => exact .some (hnullable h)
    | none => exact .none
  show (KeyValueInfo.mk <$> _ <*> _ <*> _ : Checked KeyValueInfo) = _
  rw [required_of_gives haction hword, required_of_gives hjson (Node.ofJson_of_isWritten hnode),
    optional_of_mayGive hgiven hrel]
  rfl

end KeyValueInfo

/-- A text is read back from the octets that it is written as. -/
theorem Text.ofUtf8?_of_encode {t : Text} {octets : Octets} (h : t.encode .utf8 = .ok octets) :
    Text.ofUtf8? octets = some t := by
  have hplain : ∀ c ∈ t, c.isSurrogate = false := Text.of_encode h
  obtain rfl : t.flatMap CodePoint.utf8 = octets := Except.ok.inj ((Text.encode_of_forall hplain).symm.trans h)
  exact Text.ofUtf8?_utf8 hplain

/-- **A result is read from every text that writes it**: whatever the order of the members, the gaps, the escapes and
the further members, and whichever way an absent field is told. No container with items is deeper than two hundred
others; that the text writes its document in the strict dialect says that no string has half a surrogate pair and
that no number is longer than the limit on digits, further members included. -/
theorem results_are_read_as_written {info : KeyValueInfo} {document : Json} {t : Text} {body : Octets}
    (hwritten : info.IsWritten document) (htext : document.IsWrittenBy .strict t) (hdepth : document.height ≤ 200)
    (hbody : t.encode .utf8 = .ok body) : Schema.keyValue.decode body = .ok (.keyValue info) := by
  have hread : Json.read? .strict t = some document := by
    refine Json.read?_of_isWrittenBy htext fun limit hlimit => ?_
    obtain rfl := Option.mem_some_iff.1 hlimit
    exact hdepth
  rw [Schema.decode, Reading.decode, Text.ofUtf8?_of_encode hbody, Option.bind_some, hread]
  show Payload.keyValue <$> KeyValueInfo.ofJson document = _
  rw [KeyValueInfo.ofJson_of_isWritten hwritten]
  rfl

open Json.Token in
/-- A directory with a node below it, written in no particular order, with an escape, a null and further members. -/
theorem directory_is_read_as_written :
    ∃ document t body,
      (⟨.set, ⟨none, some true, none, none, none, some [⟨some 7, none, none, some "/a", none, none, none, none⟩], none,
          none⟩, none⟩ : KeyValueInfo).IsWritten document ∧
        document.IsWrittenBy .strict t ∧ document.height ≤ 200 ∧
        t = "\x7b\"node\":\x7b\"nodes\":[\x7b\"x\":[-1],\"key\":\"\\/a\",\"createdIndex\": 7\x7d]," ++
          "\"ttl\":null,\"dir\":true\x7d,\"action\":\"set\"\x7d" ∧
        t.encode .utf8 = .ok body ∧
        Schema.keyValue.decode body = .ok (.keyValue ⟨.set, ⟨none, some true, none, none, none,
          some [⟨some 7, none, none, some "/a", none, none, none, none⟩], none, none⟩, none⟩) := by
  -- from the inside out: the node below, the directory, and the two scalars that are spelled in a way of their
  -- own
  have hbelow : (⟨some 7, none, none, some "/a", none, none, none, none⟩ : Node).IsWritten
      (.object [("x", .list [.whole (-1)]), ("key", .text "/a"), ("createdIndex", .whole 7)]) :=
    .plain ⟨rfl, .absent rfl, .absent rfl, rfl, .absent rfl, .absent rfl, .absent rfl⟩ rfl (.absent rfl)
  have hnode : (⟨none, some true, none, none, none, some [⟨some 7, none, none, some "/a", none, none, none, none⟩],
      none, none⟩ : Node).IsWritten (.object [("nodes", .list [.object [("x", .list [.whole (-1)]), ("key", .text "/a"),
        ("createdIndex", .whole 7)]]), ("ttl", .null), ("dir", .flag true)]) :=
    .directory ⟨.absent rfl, rfl, .absent rfl, .absent rfl, .absent rfl, .inr rfl, .absent rfl⟩ rfl rfl
      (.cons hbelow .nil)
  have hkey : Spells .strict (.text "/a") "\"\\/a\"" :=
    .text (.short rfl (.of_isPlain (t := "a") rfl))
      (.inr (List.forall_mem_cons.2 ⟨rfl, List.forall_mem_singleton.2 rfl⟩))
  have hone : Spells .strict (.whole (-1)) "-1" := @Spells.whole _ true "1" [1] ⟨rfl, nofun⟩ (Nat.le_of_ble_eq_true rfl)
  have hseven : Spells .strict (.whole 7) "7" := @Spells.whole _ false "7" [7] ⟨rfl, nofun⟩ (Nat.le_of_ble_eq_true rfl)
  have hspace : ∀ c ∈ (" " : Text), isGap c = true := List.forall_mem_singleton.2 rfl
  have hlexes : Lexes .strict _ _ :=
    -- one token after the other, with the only gap in front of the seven
    .next .openObject <| .next (.of_isPlain (t := "node") rfl) <| .next .colon <| .next .openObject <|
      .next (.of_isPlain (t := "nodes") rfl) <| .next .colon <| .next .openList <| .next .openObject <|
      .next (.of_isPlain (t := "x") rfl) <| .next .colon <| .next .openList <| .next hone <| .next .closeList <|
      .next .comma <| .next (.of_isPlain (t := "key") rfl) <| .next .colon <| .next hkey <| .next .comma <|
      .next (.of_isPlain (t := "createdIndex") rfl) <| .next .colon <| .cons hspace hseven <|
      .next .closeObject <| .next .closeList <| .next .comma <| .next (.of_isPlain (t := "ttl") rfl) <| .next .colon <|
      .next .null <| .next .comma <| .next (.of_isPlain (t := "dir") rfl) <| .next .colon <| .next .yes <|
      .next .closeObject <| .next .comma <| .next (.of_isPlain (t := "action") rfl) <| .next .colon <|
      .next (.of_isPlain (t := "set") rfl) <| .next .closeObject <| .nil (List.forall_mem_nil _)
  have hinfo : KeyValueInfo.IsWritten ⟨.set, _, none⟩ _ :=
    ⟨_, rfl, (rfl : FieldName.Gives "action" [("node", _), ("action", .text "set")] _), ⟨_, rfl, hnode⟩,
      none, .absent rfl, .none⟩
  exact ⟨_, _, _, hinfo, hlexes, by decide, by decide +kernel, rfl,
    results_are_read_as_written hinfo hlexes (by decide) rfl⟩

open Json.Token in
/-- Half a surrogate pair in a further member keeps a result from being read. -/
theorem result_refused_for_a_further_member :
    ∃ document t body,
      (⟨.get, ⟨none, none, none, none, none, none, none, none⟩, none⟩ : KeyValueInfo).IsWritten document ∧
        document.IsWrittenBy .lenient t ∧ document.height ≤ 200 ∧
        t = "\x7b\"action\":\"get\",\"node\":\x7b\x7d,\"x\":\"\\ud800\"\x7d" ∧ t.encode .utf8 = .ok body ∧
        Schema.keyValue.decode body = .fail .notJson := by
  have hnode : (⟨none, none, none, none, none, none, none, none⟩ : Node).IsWritten (.object []) :=
    .plain ⟨.absent rfl, .absent rfl, .absent rfl, .absent rfl, .absent rfl, .absent rfl, .absent rfl⟩ rfl (.absent rfl)
  have hhalf : Spells .lenient (.text [CodePoint.ofNat 0xD800]) "\"\\ud800\"" :=
    .text (.unit rfl (fun _ _ => not_beginsLow_nil) .nil) (.inl rfl)
  have hlexes : Lexes .lenient _ _ :=
    .next .openObject <| .next (.of_isPlain (t := "action") rfl) <| .next .colon <|
      .next (.of_isPlain (t := "get") rfl) <| .next .comma <| .next (.of_isPlain (t := "node") rfl) <| .next .colon <|
      .next .openObject <| .next .closeObject <| .next .comma <| .next (.of_isPlain (t := "x") rfl) <| .next .colon <|
      .next hhalf <| .next .closeObject <| .nil (List.forall_mem_nil _)
  have hrefused {t : Text} {body : Octets} (hscan : scan? .strict t = none) (hbody : t.encode .utf8 = .ok body) :
      Schema.keyValue.decode body = .fail .notJson := by
    rw [Schema.decode, Reading.decode, Text.ofUtf8?_of_encode hbody, Option.bind_some, Json.read?, hscan]
    rfl
  refine ⟨.object [("action", .text "get"), ("node", .object []), ("x", .text [CodePoint.ofNat 0xD800])],
    _, _, ⟨_, rfl, ?_, ⟨_, ?_, hnode⟩, ⟨none, ?_, .none⟩⟩, hlexes, by decide, rfl, rfl, ?_⟩
  · rfl
  · rfl
  · exact FieldName.MayGive.absent rfl
  · exact hrefused (t := "\x7b\"action\":\"get\",\"node\":\x7b\x7d,\"x\":\"\\ud800\"\x7d") (by decide +kernel) rfl

end ClusterClient
