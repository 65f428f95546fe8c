import ClusterClient.Proofs.Payload.KeySpace

/-!
# Null for empty collections

The cluster may send null where a collection is empty. Fields that hold members, roles or users take it for the empty
collection; addresses of a member, lists of permissions and followers do not, though they may be left out as well.

A body in which null stands for empty collections is read as the body without, if all these fields take null. If not,
it is refused, with one issue for each place where the field does not.

## The architecture

* **`CollectionField`**: the fields that hold a collection and are empty when they are left out.
* **`Rewording`**: how null may stand for empty collections in a document, and at which places; one definition for
  each way of reading, put together for each kind of payload.
* **`Reading.Follows`**: what is read from a reworded document; one lemma for each way of reading.
* **`null_stands_for_empty_collections`**: from the octets to the payload, whatever is expected (`Schema.follows`).
-/

namespace ClusterClient

/-! ## Places -/

/-- A field that holds a collection, which is empty if the field is left out. -/
inductive CollectionField where
  | members
  | peerUrls
  | clientUrls
  | followers
  | readable
  | writable
  | roles
  | roleNames
  | users
  deriving DecidableEq, Repr

namespace CollectionField

/-- Whether the field takes null for the empty collection. -/
def takesNull : CollectionField → Bool
  | members | roles | roleNames | users => true
  | peerUrls | clientUrls | followers | readable | writable => false

/-- The empty collection. -/
def empty : CollectionField → Json
  | followers => .object []
  | _ => .list []

/-- What is wrong with null where it is not taken. -/
def refusal : CollectionField → IssueKind
  | followers => .notMapping
  | _ => .notList

end CollectionField

/-- A place where null stands for an empty collection. -/
structure NullPlace where
  path : List Step
  field : CollectionField
  deriving DecidableEq, Repr

namespace NullPlace

/-- The place, seen from one step further out. -/
def within (step : Step) (place : NullPlace) : NullPlace := { place with path := step :: place.path }

/-- The issue at a place where null is not taken. -/
def issue (place : NullPlace) : Issue := ⟨place.path, place.field.refusal⟩

/-- The issues at these places, in order. -/
def issues (places : List NullPlace) : List Issue :=
  (places.filter fun place => !place.field.takesNull).map issue

/-- Issues are collected from left to right, so those of two parts come one after the other. -/
theorem issues_append (places more : List NullPlace) : issues (places ++ more) = issues places ++ issues more := by
  rw [issues, List.filter_append, List.map_append]
  rfl

/-- Seen from further out, the same places are at fault; only their paths begin one step earlier. -/
theorem issues_within (step : Step) (places : List NullPlace) :
    issues (places.map (within step)) =
      (issues places).map fun issue => { issue with path := step :: issue.path } := by
  rw [issues, List.filter_map, List.map_map, issues, List.map_map]
  rfl

end NullPlace

/-! ## Reworded documents -/

/-- Which documents a document may be reworded to, with null for empty collections at which places. -/
abbrev Rewording := Json → Json → List NullPlace → Prop

/-- The same for the members of an object. -/
abbrev MembersRewording := List (Text × Json) → List (Text × Json) → List NullPlace → Prop

namespace MembersRewording

/-- Nothing is looked at. -/
inductive nothing : MembersRewording
  | intro (members members' : List (Text × Json)) : nothing members members' []

/-- One field is reworded where it is found; what else the object holds is not looked at. -/
inductive field (name : Reading.FieldName) (reworded : Rewording) : MembersRewording
  | absent {members members' : List (Text × Json)} (h : name.find? members = none) (h' : name.find? members' = none) :
    field name reworded members members' []
  | given {members members' : List (Text × Json)} {found : Text} {json json' : Json} {places : List NullPlace}
    (h : name.find? members = some (found, json)) (h' : name.find? members' = some (found, json'))
    (hvalue : reworded json json' places) :
    field name reworded members members' (places.map (NullPlace.within (.key found)))

/-- Fields are reworded side by side. -/
inductive both (first second : MembersRewording) : MembersRewording
  | intro {members members' : List (Text × Json)} {places more : List NullPlace} (h : first members members' places)
    (hmore : second members members' more) : both first second members members' (places ++ more)

/-- A single field, in the form that `fields` gives to a list of rows: behind a part that looks at nothing. -/
theorem field.alone {name : Reading.FieldName} {reworded : Rewording} {members members' : List (Text × Json)}
    {places : List NullPlace} (h : field name reworded members members' places) :
    both nothing (field name reworded) members members' places :=
  both.intro (nothing.intro members members') h

/-- These fields are reworded. -/
def fields (rows : List (Reading.FieldName × Rewording)) : MembersRewording :=
  rows.foldl (fun before row => both before (field row.1 row.2)) nothing

end MembersRewording

namespace Rewording

/-- A document stays as it is. -/
inductive same : Rewording
  | intro (json : Json) : same json json []

/-- The items from a position on are reworded one by one. -/
inductive items (reworded : Rewording) : Nat → List Json → List Json → List NullPlace → Prop
  | nil (i : Nat) : items reworded i [] [] []
  | cons {i : Nat} {item item' : Json} {rest rest' : List Json} {places more : List NullPlace}
    (hitem : reworded item item' places) (hrest : items reworded (i + 1) rest rest' more) :
    items reworded i (item :: rest) (item' :: rest') (places.map (NullPlace.within (.index i)) ++ more)

/-- A list is reworded item by item; what is no list stays as it is. -/
inductive listOf (reworded : Rewording) : Rewording
  | same (json : Json) : listOf reworded json json []
  | list {json json' : List Json} {places : List NullPlace} (h : items reworded 0 json json' places) :
    listOf reworded (.list json) (.list json') places

/-- An object is reworded by its fields. -/
inductive objectOf (rows : List (Reading.FieldName × Rewording)) : Rewording
  | object {members members' : List (Text × Json)} {places : List NullPlace}
    (h : MembersRewording.fields rows members members' places) :
    objectOf rows (.object members) (.object members') places

/-- A collection is reworded inside, or, if it is empty, to null. -/
inductive collection (field : CollectionField) (reworded : Rewording) : Rewording
  | inside {json json' : Json} {places : List NullPlace} (h : reworded json json' places) :
    collection field reworded json json' places
  | null : collection field reworded field.empty .null [⟨[], field⟩]

end Rewording

open Rewording

/-- A member: both lists of addresses may be null, each with its own place. The tables from here on follow the
records of the answers field by field, so that a field added to a record is one more row here. -/
def Member.reworded : Rewording :=
  objectOf [("id", same), ("name", same), (⟨"peerURLs", "peer_urls"⟩, collection .peerUrls same),
    (⟨"clientURLs", "client_urls"⟩, collection .clientUrls same)]

def MemberList.reworded : Rewording := objectOf [("members", collection .members (listOf Member.reworded))]

def LeaderStats.reworded : Rewording := objectOf [("leader", same), ("followers", collection .followers same)]

def KvPermissions.reworded : Rewording :=
  objectOf [("read", collection .readable same), ("write", collection .writable same)]

def Permissions.reworded : Rewording := objectOf [("kv", KvPermissions.reworded)]

def Role.reworded : Rewording := objectOf [(⟨"role", "name"⟩, same), ("permissions", Permissions.reworded)]

def RoleList.reworded : Rewording := objectOf [("roles", collection .roles (listOf Role.reworded))]

def User.reworded : Rewording :=
  objectOf [(⟨"user", "name"⟩, same), (⟨"roles", "role_names"⟩, collection .roleNames (listOf same))]

def UserDetail.reworded : Rewording :=
  objectOf [(⟨"user", "name"⟩, same), ("roles", collection .roles (listOf Role.reworded))]

def UserDetailList.reworded : Rewording := objectOf [("users", collection .users (listOf UserDetail.reworded))]

/-- How what is expected may be reworded. -/
def Schema.reworded : Schema → Rewording
  | member => Member.reworded
  | memberList | members => MemberList.reworded
  | leader => LeaderStats.reworded
  | kvPermissions => KvPermissions.reworded
  | permissions => Permissions.reworded
  | role => Role.reworded
  | roleList | roles => RoleList.reworded
  | user => User.reworded
  | userDetail => UserDetail.reworded
  | userDetailList | users => UserDetailList.reworded
  | _ => same

/-! ## What is read from them -/

namespace Checked

variable {α β : Type}

/-- What is read where null stands for empty collections at these places, if this is read without. -/
def withNull (a : α) (places : List NullPlace) : Checked α :=
  match NullPlace.issues places with
  | [] => .ok a
  | issues => .refused issues

theorem map_withNull (f : α → β) (a : α) (places : List NullPlace) :
    f <$> withNull a places = withNull (f a) places := by
  unfold withNull
  cases NullPlace.issues places <;> rfl

/-- **The places of two parts side by side are those of the first and those of the second.** All issues are
told, not the first alone, and they are told in the order of the fields. -/
theorem seq_withNull (f : α → β) (a : α) (places more : List NullPlace) :
    withNull f places <*> withNull a more = withNull (f a) (places ++ more) := by
  unfold withNull
  rw [NullPlace.issues_append]
  -- issues of both parts are collected, those of the first in front
  cases NullPlace.issues places with
  | nil => cases NullPlace.issues more <;> rfl
  | cons issue rest =>
    cases NullPlace.issues more with
    | nil => rw [List.append_nil]; rfl
    | cons issue' rest' => rfl

/-- A part is seen from the whole with the places it has. -/
theorem within_withNull (step : Step) (a : α) (places : List NullPlace) :
    (withNull a places).within step = withNull a (places.map (NullPlace.within step)) := by
  unfold withNull
  rw [NullPlace.issues_within]
  cases NullPlace.issues places <;> rfl

end Checked

namespace Reading

open Checked

variable {α β : Type} {field : FieldName} {reworded : Rewording}

/-- What is read from a reworded document follows from what is read without. -/
def Follows (read : Reading α) (reworded : Rewording) : Prop :=
  ∀ ⦃json json' : Json⦄ ⦃places : List NullPlace⦄ ⦃a : α⦄, reworded json json' places → read json = .ok a →
    read json' = withNull a places

/-- The same for the members of an object. -/
def MembersFollow (read : List (Text × Json) → Checked α) (reworded : MembersRewording) : Prop :=
  ∀ ⦃members members' : List (Text × Json)⦄ ⦃places : List NullPlace⦄ ⦃a : α⦄, reworded members members' places →
    read members = .ok a → read members' = withNull a places

theorem follows_same (read : Reading α) : Follows read .same := by
  rintro _ _ _ a ⟨json⟩ h
  exact h

/-- What follows still does when it is seen from one step further out, and so do its places. -/
theorem Follows.within {read : Reading α} (h : Follows read reworded) {json json' : Json} {places : List NullPlace}
    {a : α} (hreworded : reworded json json' places) (step : Step) (hread : (read json).within step = .ok a) :
    (read json').within step = withNull a (places.map (NullPlace.within step)) := by
  rw [h hreworded (within_eq_ok.1 hread), within_withNull]

/-- A field that must be there: if it is read at all it is found, and then its value follows. -/
theorem follows_required {read : Reading α} (h : Follows read reworded) (field : FieldName) :
    MembersFollow (fun members => required members field read) (.field field reworded) := by
  intro members members' places a hreworded hread
  dsimp only at hread ⊢
  -- an absent field is no reading to follow from, as this one is required
  cases hreworded with
  | absent hnone hnone' =>
    rw [required, hnone] at hread
    cases hread
  | given hfound hfound' hvalue =>
    rw [required, hfound] at hread
    rw [required, hfound']
    exact h.within hvalue _ hread

/-- A field that may be absent is absent in both, or found in both by the same name. That null is put in place
of a collection never takes a field away. -/
theorem follows_optional {read : Reading α} (h : Follows read reworded) (field : FieldName) (default : α) :
    MembersFollow (fun members => optional members field default read) (.field field reworded) := by
  intro members members' places a hreworded hread
  dsimp only at hread ⊢
  cases hreworded with
  | absent hnone hnone' =>
    rw [optional, hnone] at hread
    rw [optional, hnone']
    exact hread
  | given hfound hfound' hvalue =>
    rw [optional, hfound] at hread
    rw [optional, hfound']
    exact h.within hvalue _ hread

/-- The first field of a record, given to its constructor. There is no field before it to have places of its
own. -/
theorem MembersFollow.first {read : List (Text × Json) → Checked α} {reworded : MembersRewording}
    (h : MembersFollow read reworded) (f : α → β) :
    MembersFollow (fun members => f <$> read members) (.both .nothing reworded) := by
  rintro members members' _ b ⟨⟨⟩, hmore⟩ hread
  obtain ⟨a, ha, rfl⟩ := map_eq_ok.1 hread
  dsimp only
  rw [h hmore ha, map_withNull]
  rfl

/-- One more field of a record: the places so far come in front of those of the field. -/
theorem MembersFollow.and {read : List (Text × Json) → Checked (α → β)} {next : List (Text × Json) → Checked α}
    {first second : MembersRewording} (h : MembersFollow read first) (h' : MembersFollow next second) :
    MembersFollow (fun members => read members <*> next members) (.both first second) := by
  rintro members members' _ b ⟨hfirst, hsecond⟩ hread
  obtain ⟨f, a, hf, ha, rfl⟩ := seq_eq_ok.1 hread
  dsimp only
  rw [h hfirst hf, h' hsecond ha, seq_withNull]

/-- An object follows if its fields do, whatever else it holds. -/
theorem follows_objectOf {read : List (Text × Json) → Checked α} {rows : List (FieldName × Rewording)}
    (h : MembersFollow read (.fields rows)) : Follows (objectOf read) (.objectOf rows) := by
  rintro _ _ _ a ⟨hmembers⟩ hread
  exact h hmembers hread

/-- **Items are read one by one, so their places come one after the other**, each from the position of its item
on. Induction on how the items are reworded; the positions go up with it. -/
theorem itemsFrom_follows {read : Reading α} (h : Follows read reworded) {i : Nat} {items items' : List Json}
    {places : List NullPlace} {as : List α} (hitems : reworded.items i items items' places)
    (hread : itemsFrom read i items = .ok as) : itemsFrom read i items' = withNull as places := by
  induction hitems generalizing as with
  | nil i => exact hread
  | cons hitem hrest ih =>
    obtain ⟨_, rest, hfirst, hrest', rfl⟩ := seq_eq_ok.1 hread
    obtain ⟨a, ha, rfl⟩ := map_eq_ok.1 hfirst
    rw [itemsFrom, h.within hitem _ ha, ih hrest', map_withNull, seq_withNull]

/-- **Null is taken for the empty list** by a field that is read so: there is no issue, and the same is read.
The field is reworded inside a list that is there, or null is put in place of an empty one; in the first case
the items follow one by one. -/
theorem follows_nullAsEmpty {read : Reading α} (h : Follows read reworded) {field : CollectionField}
    (hnull : field.takesNull = true) (hempty : field.empty = .list []) :
    Follows (nullAsEmpty (listOf read)) (.collection field (.listOf reworded)) := by
  intro json json' places as hreworded hread
  cases hreworded with
  | inside hinside =>
    -- null may stand there before, and what is read from it is the same
    cases hinside with
    | same => exact hread
    | list hitems => exact itemsFrom_follows h hitems hread
  | null =>
    rw [hempty] at hread
    rw [withNull, NullPlace.issues, List.filter_cons_of_neg (by simp [hnull])]
    exact hread

/-- **Null is refused where a collection is read as it is**, with the issue that the reading itself gives for
null. -/
theorem follows_of_refusal {read : Reading (List α)} (h : Follows read reworded) {field : CollectionField}
    (hnull : field.takesNull = false) (hrefusal : read .null = .fail field.refusal) :
    Follows read (.collection field reworded) := by
  intro json json' places a hreworded hread
  cases hreworded with
  | inside hinside => exact h hinside hread
  | null =>
    rw [hrefusal, withNull, NullPlace.issues, List.filter_cons_of_pos (by simp [hnull])]
    rfl

end Reading

/-! ## What is expected -/

open Reading

/-- A member: its addresses are read as they are, so that null is refused for both. The readings and the tables
are put together alike for all records, one combinator for each field, which is all that the next proofs do. -/
theorem Member.follows : Follows Member.ofJson Member.reworded :=
  follows_objectOf <| (((((follows_required (follows_same text) "id").first Member.mk).and
    (follows_optional (follows_same text) "name" [])).and
    (follows_optional (follows_of_refusal (follows_same (listOf text)) rfl rfl) ⟨"peerURLs", "peer_urls"⟩ [])).and
    (follows_optional (follows_of_refusal (follows_same (listOf text)) rfl rfl) ⟨"clientURLs", "client_urls"⟩ []))

theorem MemberList.follows : Follows MemberList.ofJson MemberList.reworded :=
  follows_objectOf <| (follows_optional (follows_nullAsEmpty Member.follows rfl rfl) "members" []).first MemberList.mk

/-- Followers are a mapping, and null in its place is refused as no mapping. -/
theorem LeaderStats.follows : Follows LeaderStats.ofJson LeaderStats.reworded :=
  follows_objectOf <| ((follows_required (follows_same text) "leader").first LeaderStats.mk).and
    (follows_optional (follows_of_refusal (follows_same (mappingOf FollowerStats.ofJson)) rfl rfl) "followers" [])

/-- Lists of permissions are read as they are. -/
theorem KvPermissions.follows : Follows KvPermissions.ofJson KvPermissions.reworded :=
  follows_objectOf <|
    ((follows_optional (follows_of_refusal (follows_same (listOf text)) rfl rfl) "read" []).first KvPermissions.mk).and
      (follows_optional (follows_of_refusal (follows_same (listOf text)) rfl rfl) "write" [])

/-- What is around permissions is no collection and holds no place of its own. -/
theorem Permissions.follows : Follows Permissions.ofJson Permissions.reworded :=
  follows_objectOf <| (follows_optional KvPermissions.follows "kv" ⟨[], []⟩).first Permissions.mk

/-- A role has the places of its permissions. -/
theorem Role.follows : Follows Role.ofJson Role.reworded :=
  follows_objectOf <| ((follows_required (follows_same text) ⟨"role", "name"⟩).first Role.mk).and
    (follows_optional Permissions.follows "permissions" ⟨⟨[], []⟩⟩)

theorem RoleList.follows : Follows RoleList.ofJson RoleList.reworded :=
  follows_objectOf <| (follows_optional (follows_nullAsEmpty Role.follows rfl rfl) "roles" []).first RoleList.mk

theorem User.follows : Follows User.ofJson User.reworded :=
  follows_objectOf <| ((follows_required (follows_same text) ⟨"user", "name"⟩).first User.mk).and
    (follows_optional (follows_nullAsEmpty (follows_same text) rfl rfl) ⟨"roles", "role_names"⟩ [])

/-- A user with roles in full: null may stand for the roles, and inside each of them for its permissions. -/
theorem UserDetail.follows : Follows UserDetail.ofJson UserDetail.reworded :=
  follows_objectOf <| ((follows_required (follows_same text) ⟨"user", "name"⟩).first UserDetail.mk).and
    (follows_optional (follows_nullAsEmpty Role.follows rfl rfl) "roles" [])

theorem UserDetailList.follows : Follows UserDetailList.ofJson UserDetailList.reworded :=
  follows_objectOf <| (follows_optional (follows_nullAsEmpty UserDetail.follows rfl rfl) "users" []).first
    UserDetailList.mk

/-- A payload is made of a record without looking at places. -/
theorem Reading.Follows.map {α β : Type} {read : Reading α} {reworded : Rewording} (h : Follows read reworded)
    (f : α → β) : Follows (fun json => f <$> read json) reworded := by
  intro json json' places b hreworded hread
  obtain ⟨a, ha, rfl⟩ := Checked.map_eq_ok.1 hread
  dsimp only
  rw [h hreworded ha, Checked.map_withNull]

/-- **Whatever is expected, what is read of a reworded document follows from what is read without null.** One
case for each kind of payload that holds a collection; the others stay as they are. -/
theorem Schema.follows (schema : Schema) : Follows schema.read schema.reworded := by
  cases schema with
  | member => exact Member.follows.map _
  | memberList => exact MemberList.follows.map _
  | members => exact MemberList.follows.map _
  | leader => exact LeaderStats.follows.map _
  | kvPermissions => exact KvPermissions.follows.map _
  | permissions => exact Permissions.follows.map _
  | role => exact Role.follows.map _
  | roleList => exact RoleList.follows.map _
  | roles => exact RoleList.follows.map _
  | user => exact User.follows.map _
  | userDetail => exact UserDetail.follows.map _
  | userDetailList => exact UserDetailList.follows.map _
  | users => exact UserDetailList.follows.map _
  | _ => exact follows_same _

/-! ## Bodies -/

/-- The document of a body. -/
def documentOf? (body : Octets) : Option Json := (Text.ofUtf8? body).bind (Json.read? .strict)

/-- A body is read through its document alone, so two bodies with the same document are read alike. -/
theorem Schema.decode_of_documentOf? {schema : Schema} {body : Octets} {json : Json}
    (h : documentOf? body = some json) : schema.decode body = schema.read json := by
  rw [documentOf?] at h
  rw [decode, Reading.decode, h]

/-- A body whose tokens are those of a document has this document. It is used with bodies that are written out,
where the tokens are found by evaluation and the depth is in sight. -/
theorem documentOf?_of_scan? {t : Text} {body : Octets} {document : Json} (hbody : t.encode .utf8 = .ok body)
    (hscan : Json.Token.scan? .strict t = some document.tokens) (hdepth : document.height ≤ 200) :
    documentOf? body = some document := by
  have hadmits : Json.Dialect.strict.Admits document.height := by
    intro limit hlimit
    obtain rfl := Option.some.inj hlimit
    exact hdepth
  rw [documentOf?, Text.ofUtf8?_of_encode hbody, Option.bind_some, Json.read?, hscan]
  exact Json.ofTokens?_tokens hadmits

/-- **Null stands for empty collections** where all the fields in which it does take it: then a body is read as the
body without. Otherwise it is refused, with one issue for each field that does not take null, where it does not. -/
theorem null_stands_for_empty_collections (schema : Schema) {body body' : Octets} {json json' : Json}
    {places : List NullPlace} {payload : Payload} (hbody : documentOf? body = some json)
    (hbody' : documentOf? body' = some json') (hreworded : schema.reworded json json' places)
    (hread : schema.decode body = .ok payload) :
    ((∀ place ∈ places, place.field.takesNull = true) → schema.decode body' = .ok payload) ∧
      ((∃ place ∈ places, place.field.takesNull = false) →
        schema.decode body' = .refused (NullPlace.issues places)) := by
  rw [Schema.decode_of_documentOf? hbody] at hread
  rw [Schema.decode_of_documentOf? hbody', schema.follows hreworded hread, Checked.withNull]
  constructor
  · intro hall
    have hnone : NullPlace.issues places = [] := by
      rw [NullPlace.issues, List.filter_eq_nil_iff.2 fun place hplace => by simp [hall place hplace]]
      rfl
    rw [hnone]
  · rintro ⟨place, hplace, hrefused⟩
    have hissue : place.issue ∈ NullPlace.issues places :=
      List.mem_map_of_mem (List.mem_filter.2 ⟨hplace, by simp [hrefused]⟩)
    cases hissues : NullPlace.issues places with
    | nil => rw [hissues] at hissue; cases hissue
    | cons issue rest => rfl

/-- A user among others whose roles are none. The place is three steps deep: in the users, at the first of them,
under its roles; and null is taken there. -/
theorem null_stands_for_empty_collections_of_a_user :
    ∃ body body', Text.encode .utf8 "\x7b\"users\":[\x7b\"user\":\"u\",\"roles\":[]\x7d]\x7d" = .ok body ∧
      Text.encode .utf8 "\x7b\"users\":[\x7b\"user\":\"u\",\"roles\":null\x7d]\x7d" = .ok body' ∧
      Schema.users.decode body = .ok (.users [⟨"u", []⟩]) ∧ Schema.users.decode body' = .ok (.users [⟨"u", []⟩]) := by
  have hbody : documentOf? _ = some (.object [("users", .list [.object [("user", .text "u"), ("roles", .list [])]])]) :=
    documentOf?_of_scan? (t := "\x7b\"users\":[\x7b\"user\":\"u\",\"roles\":[]\x7d]\x7d") rfl (by decide +kernel)
      (by decide)
  have hbody' : documentOf? _ = some (.object [("users", .list [.object [("user", .text "u"), ("roles", .null)]])]) :=
    documentOf?_of_scan? (t := "\x7b\"users\":[\x7b\"user\":\"u\",\"roles\":null\x7d]\x7d") rfl (by decide +kernel)
      (by decide)
  have hname : MembersRewording.field ⟨"user", "name"⟩ .same [("user", .text "u"), ("roles", .list [])]
      [("user", .text "u"), ("roles", .null)] [] := .given rfl rfl (Rewording.same.intro (.text "u"))
  have hroles : MembersRewording.field "roles" (.collection .roles (.listOf Role.reworded))
      [("user", .text "u"), ("roles", .list [])] [("user", .text "u"), ("roles", .null)] [⟨[.key "roles"], .roles⟩] :=
    .given rfl rfl Rewording.collection.null
  have huser : UserDetail.reworded _ _ [⟨[.key "roles"], .roles⟩] :=
    .object (MembersRewording.both.intro hname.alone hroles)
  have husers : MembersRewording.field "users" (.collection .users (.listOf UserDetail.reworded))
      [("users", .list [.object [("user", .text "u"), ("roles", .list [])]])]
      [("users", .list [.object [("user", .text "u"), ("roles", .null)]])]
      [⟨[.key "users", .index 0, .key "roles"], .roles⟩] :=
    .given rfl rfl (Rewording.collection.inside (Rewording.listOf.list (Rewording.items.cons huser (.nil 1))))
  have hread : Schema.users.decode _ = .ok (.users [⟨"u", []⟩]) := Schema.decode_of_documentOf? hbody
  have hnull := null_stands_for_empty_collections .users hbody hbody' (.object husers.alone) hread
  exact ⟨_, _, rfl, rfl, hread, hnull.1 (by simp [CollectionField.takesNull])⟩

/-- A member is refused for null in place of its addresses. -/
theorem null_refused_for_addresses_of_a_member :
    ∃ body body', Text.encode .utf8 "\x7b\"members\":[\x7b\"id\":\"a\",\"peerURLs\":[]\x7d]\x7d" = .ok body ∧
      Text.encode .utf8 "\x7b\"members\":[\x7b\"id\":\"a\",\"peerURLs\":null\x7d]\x7d" = .ok body' ∧
      Schema.memberList.decode body = .ok (.memberList ⟨[⟨"a", [], [], []⟩]⟩) ∧
      Schema.memberList.decode body' = .refused [⟨[.key "members", .index 0, .key "peerURLs"], .notList⟩] := by
  have hbody : documentOf? _ = some (.object [("members", .list [.object [("id", .text "a"),
      ("peerURLs", .list [])]])]) :=
    documentOf?_of_scan? (t := "\x7b\"members\":[\x7b\"id\":\"a\",\"peerURLs\":[]\x7d]\x7d") rfl (by decide +kernel)
      (by decide)
  have hbody' : documentOf? _ = some (.object [("members", .list [.object [("id", .text "a"),
      ("peerURLs", .null)]])]) :=
    documentOf?_of_scan? (t := "\x7b\"members\":[\x7b\"id\":\"a\",\"peerURLs\":null\x7d]\x7d") rfl (by decide +kernel)
      (by decide)
  exact ⟨_, _, rfl, rfl, Schema.decode_of_documentOf? hbody, Schema.decode_of_documentOf? hbody'⟩

end ClusterClient
