import ClusterClient.Calls.Access
import ClusterClient.Proofs.Exchange.Documents
import ClusterClient.Proofs.Payload.Wording
import Mathlib.Data.List.Forall2

/-!
# What calls about access control send

A call that creates or changes a user or a role sends an object with a row for each of its arguments; a row without a
value is left out. From the object the arguments are read back, with nothing in place of what was left out, so that
no two of them are sent alike. What creates a role or a user is also an answer that tells of this role or user.

## The architecture

* **`Json.membersOf`**: the members of rows; **`FieldName.IsRowOf`** finds a field in its row (`required_eq`,
  `optional_eq`).
* **`rowUnless`**: a list or permissions, left out if there is nothing in it, and that it is read back.
* **`AccessChange.IsCarried`**: what is sent for a kind of change carries it (**`AreRows.isCarried`**).
* **`NewUser.change`**, **`UserUpdate.change`**, **`NewRole.change`**, **`RoleUpdate.change`**: the kinds of change,
  each with its rows.
* **`changes_are_sent_as_given`**: all of them are carried.
-/

namespace ClusterClient

open Reading

/-! ## Rows of an object -/

namespace Checked

variable {α β : Type} {a : α}

/-- A reading that succeeds, taken on by a function. Beside `map_eq_ok`, which takes such a reading apart, this
builds one, as the lemmas below do field by field. -/
theorem map_ok {x : Checked α} (h : x = .ok a) (f : α → β) : f <$> x = .ok (f a) := map_eq_ok.2 ⟨a, h, rfl⟩

/-- The same for one more field of a record: the constructor has been given the fields before, and is given this
one. -/
theorem seq_ok {f : Checked (α → β)} {g : α → β} {x : Checked α} (hf : f = .ok g) (h : x = .ok a) :
    f <*> x = .ok (g a) := seq_eq_ok.2 ⟨g, a, hf, h, rfl⟩

end Checked

namespace Json

/-- The members of rows that have a value. -/
def membersOf (rows : List (Text × Option Json)) : List (Text × Json) :=
  rows.filterMap fun row => row.2.map fun document => (row.1, document)

variable {rows : List (Text × Option Json)}

/-- The first row by itself, in front of the others, so that a row that is left out and one that is not are
treated alike (`areWrittenAs_row`). -/
theorem membersOf_cons (row : Text × Option Json) (rows : List (Text × Option Json)) :
    membersOf (row :: rows) = membersOf [row] ++ membersOf rows :=
  List.filterMap_append (l := [row])

/-- A member is a row that has a value. -/
theorem mem_membersOf {member : Text × Json} : member ∈ membersOf rows ↔ (member.1, some member.2) ∈ rows := by
  obtain ⟨name, document⟩ := member
  constructor
  · intro h
    obtain ⟨⟨_, row⟩, hrow, hvalue⟩ := List.mem_filterMap.1 h
    obtain ⟨_, rfl, hmember⟩ := Option.map_eq_some_iff.1 hvalue
    obtain ⟨rfl, rfl⟩ := Prod.mk.inj hmember
    exact hrow
  · exact fun h => List.mem_filterMap.2 ⟨_, h, rfl⟩

/-- Leaving rows out does not reorder the names of those that stay. Induction on the rows, with one case for a
row that is left out and one for a row that stays. -/
theorem names_membersOf (rows : List (Text × Option Json)) :
    ((membersOf rows).map Prod.fst).Sublist (rows.map Prod.fst) := by
  induction rows with
  | nil => exact .slnil
  | cons row rest ih =>
    obtain ⟨name, _ | document⟩ := row
    · exact ih.cons name
    · exact ih.cons_cons name

/-- Rows of different names make members of different names, and so an object that says nothing twice. -/
theorem nodup_membersOf (h : (rows.map Prod.fst).Nodup) : ((membersOf rows).map Prod.fst).Nodup :=
  h.sublist (names_membersOf rows)

theorem lastMember?_membersOf_eq_none {name : Text} (h : name ∉ rows.map Prod.fst) :
    lastMember? (membersOf rows) name = none :=
  lastMember?_eq_none_iff.2 fun hname => h ((names_membersOf rows).subset hname)

/-- **A name stands for the value of its row**, or for nothing if the row has none. As no other row has the
name, it does not matter that the last member of a name is the one that counts. -/
theorem lastMember?_membersOf (hrows : (rows.map Prod.fst).Nodup) {name : Text} {value : Option Json}
    (h : (name, value) ∈ rows) : lastMember? (membersOf rows) name = value := by
  induction rows with
  | nil => cases h
  | cons row rest ih =>
    obtain ⟨hfirst, hrest⟩ := List.nodup_cons.1 hrows
    rcases List.mem_cons.1 h with rfl | hmem
    -- no later row has the name, so that this one is the last
    · have hnone := lastMember?_membersOf_eq_none hfirst
      cases value with
      | none => exact hnone
      | some document =>
        show lastMember? ((name, document) :: membersOf rest) name = _
        rw [lastMember?_cons, hnone, if_pos rfl]
        rfl
    · have hname : row.1 ≠ name := fun hsame => hfirst (hsame ▸ List.mem_map_of_mem hmem)
      obtain ⟨first, _ | document⟩ := row
      · exact ih hrest hmem
      · show lastMember? ((first, document) :: membersOf rest) name = _
        rw [lastMember?_cons, ih hrest hmem, if_neg hname, Option.or_none]

/-- Rows of texts, in containers that are not deeper than this. -/
def AreOfTexts (n : Nat) (rows : List (Text × Option Json)) : Prop :=
  ∀ row ∈ rows, row.1.IsUnicode ∧ ∀ document ∈ row.2, OfTexts n document

theorem AreOfTexts.nil {n : Nat} : AreOfTexts n [] := List.forall_mem_nil _

theorem AreOfTexts.cons {n : Nat} {name : String} {value : Option Json} (h : AreOfTexts n rows)
    (hvalue : ∀ document ∈ value, OfTexts n document) : AreOfTexts n ((Text.ofString name, value) :: rows) :=
  List.forall_mem_cons.2 ⟨⟨Text.isUnicode_ofString name, hvalue⟩, h⟩

theorem AreOfTexts.consSome {n : Nat} {name : String} {document : Json} (h : AreOfTexts n rows)
    (hdocument : OfTexts n document) : AreOfTexts n ((Text.ofString name, some document) :: rows) :=
  h.cons fun _ hmem => Option.some.inj hmem ▸ hdocument

/-- The object is one container around what its rows hold. This is where the count of containers grows, which is
compared with the room there is when the object is written. -/
theorem AreOfTexts.object {n : Nat} (h : AreOfTexts n rows) : OfTexts (n + 1) (.object (membersOf rows)) :=
  .object (fun _ hmember => (h _ (mem_membersOf.1 hmember)).1) fun _ hmember => (h _ (mem_membersOf.1 hmember)).2 _ rfl

end Json

open Json

namespace Reading

variable {α : Type} {rows : List (Text × Option Json)} {field : FieldName} {read : Reading α} {value : Option Json}
  {json : Json} {a default : α}

/-- The row of a field, whose other name stands for nothing else. -/
structure FieldName.IsRowOf (field : FieldName) (rows : List (Text × Option Json)) (value : Option Json) : Prop where
  names : (rows.map Prod.fst).Nodup
  row : (field.sent, value) ∈ rows
  own : field.own = field.sent ∨ field.own ∉ rows.map Prod.fst

/-- **A field has the value of its row.** If the row is left out, the field is not found by its other name
either. -/
theorem FieldName.IsRowOf.value?_eq (h : field.IsRowOf rows value) : field.value? (membersOf rows) = value := by
  have hsent := lastMember?_membersOf h.names h.row
  rw [value?, find?, hsent]
  cases value with
  | some json => rfl
  | none =>
    have hown : lastMember? (membersOf rows) field.own = none := by
      rcases h.own with hsame | hnone
      · rwa [hsame]
      · exact lastMember?_membersOf_eq_none hnone
    rw [hown]
    rfl

/-- A value is read from what a row has, or is what stands for a row without a value. -/
def IsReadFrom (read : Reading α) (default : α) (value : Option Json) (a : α) : Prop :=
  value = none ∧ default = a ∨ ∃ json, value = some json ∧ read json = .ok a

theorem FieldName.IsRowOf.required_eq (h : field.IsRowOf rows (some json)) (hread : read json = .ok a) :
    required (membersOf rows) field read = .ok a :=
  required_eq_ok.2 ⟨json, h.value?_eq, hread⟩

/-- A field that may be absent is read from its row, or is the default if there is none. -/
theorem FieldName.IsRowOf.optional_eq (h : field.IsRowOf rows value) (hread : IsReadFrom read default value a) :
    optional (membersOf rows) field default read = .ok a := by
  rw [optional_eq_ok, h.value?_eq]
  exact hread

/-- Texts come back from the list that is sent for them. The position that is counted for messages is arbitrary,
so the induction is for all of them. -/
theorem listOf_text (ts : List Text) : listOf text (.list (ts.map .text)) = .ok ts := by
  have hitems (i : Nat) : itemsFrom text i (ts.map .text) = .ok ts := by
    induction ts generalizing i with
    | nil => rfl
    | cons t rest ih =>
      rw [List.map_cons, itemsFrom, ih]
      rfl
  exact hitems 0

end Reading

/-! ## Rows without a value -/

/-- A value that is left out if there is nothing in it. -/
def rowUnless (isEmpty : Bool) (document : Json) : Option Json := if isEmpty then none else some document

/-- What is left out is read back where the default is what there is nothing in. -/
theorem isReadFrom_rowUnless {α : Type} {read : Reading α} {default a : α} {isEmpty : Bool} {document : Json}
    (hempty : isEmpty = true → default = a) (hread : read document = .ok a) :
    IsReadFrom read default (rowUnless isEmpty document) a := by
  cases isEmpty with
  | true => exact .inl ⟨rfl, hempty rfl⟩
  | false => exact .inr ⟨document, rfl, hread⟩

/-- A row that may be left out is of texts if its document is. -/
theorem ofTexts_of_mem_rowUnless {n : Nat} {isEmpty : Bool} {document : Json} (h : OfTexts n document) :
    ∀ other ∈ rowUnless isEmpty document, OfTexts n other := by
  intro other hother
  cases isEmpty with
  | true => cases hother
  | false => exact Option.some.inj hother ▸ h

/-- What is left out of a value is left out of what is written for it. -/
theorem areWrittenAs_rowUnless {n : Nat} (name : Text) {isEmpty : Bool} {value : Value} {document : Json}
    (h : value.toJson n = .ok document) :
    Value.AreWrittenAs n (if isEmpty then [] else [(name, value)]) (membersOf [(name, rowUnless isEmpty document)]) := by
  cases isEmpty with
  | true => exact .nil
  | false => exact .cons ⟨rfl, h⟩ .nil

/-- A row in front of others is written in front of them. -/
theorem areWrittenAs_row {n : Nat} {values more : List (Text × Value)} {row : Text × Option Json}
    {rows : List (Text × Option Json)} (h : Value.AreWrittenAs n values (membersOf [row]))
    (hmore : Value.AreWrittenAs n more (membersOf rows)) :
    Value.AreWrittenAs n (values ++ more) (membersOf (row :: rows)) := by
  rw [membersOf_cons]
  exact List.rel_append h hmore

/-- A list as a row has it. -/
def rowOfTexts (ts : List Text) : Option Json := rowUnless ts.isEmpty (.list (ts.map .text))

/-- A list is read back from its row, the empty list from a row that is left out. -/
theorem isReadFrom_rowOfTexts {read : Reading (List Text)} {ts : List Text}
    (h : read (.list (ts.map .text)) = .ok ts) : IsReadFrom read [] (rowOfTexts ts) ts :=
  isReadFrom_rowUnless (fun hempty => (List.isEmpty_iff.1 hempty).symm) h

/-- `nonEmptyList` leaves out an empty list by looking at it before it is written, the row by having no value; both come
to the same members. -/
theorem areWrittenAs_nonEmptyList (n : Nat) (name : Text) (ts : List Text) :
    Value.AreWrittenAs (n + 1) (nonEmptyList name ts) (membersOf [(name, rowOfTexts ts)]) :=
  areWrittenAs_rowUnless name (Value.toJson_texts n ts)

/-! ## Permissions -/

namespace KvPermissions

/-- The two lists, both of which are sent. -/
def lists (p : KvPermissions) : List (Text × Option Json) :=
  [("read", some (.list (p.read.map .text))), ("write", some (.list (p.write.map .text)))]

/-- What is around them. -/
def rows (p : KvPermissions) : List (Text × Option Json) := [("kv", some (.object (membersOf p.lists)))]

/-- Permissions as they are sent. -/
def sent (p : KvPermissions) : Json := .object (membersOf p.rows)

/-- Permissions as they are read from what is sent, where no list may be missing. -/
def ofSent : Reading KvPermissions :=
  objectOf fun members => required members "kv" (objectOf fun lists =>
    KvPermissions.mk <$> required lists "read" (listOf text) <*> required lists "write" (listOf text))

variable (p : KvPermissions)

/-- The two lists and what is around them, each found by its name and by no other. -/
theorem isRowOf_read : FieldName.IsRowOf "read" p.lists (some (.list (p.read.map .text))) :=
  ⟨(by decide : (["read", "write"] : List Text).Nodup), List.mem_cons_self, .inl rfl⟩

theorem isRowOf_write : FieldName.IsRowOf "write" p.lists (some (.list (p.write.map .text))) :=
  ⟨(by decide : (["read", "write"] : List Text).Nodup), List.mem_cons_of_mem _ List.mem_cons_self, .inl rfl⟩

theorem isRowOf_kv : FieldName.IsRowOf "kv" p.rows (some (.object (membersOf p.lists))) :=
  ⟨List.pairwise_singleton _ _, List.mem_cons_self, .inl rfl⟩

/-- Permissions are read back from what is sent for them. -/
theorem ofSent_sent : ofSent p.sent = .ok p := by
  have hread := p.isRowOf_read.required_eq (listOf_text p.read)
  have hwrite := p.isRowOf_write.required_eq (listOf_text p.write)
  exact p.isRowOf_kv.required_eq (Checked.seq_ok (Checked.map_ok hread KvPermissions.mk) hwrite)

/-- An answer reads them too, though it lets lists be absent: here none is. -/
theorem ofJson_sent : Permissions.ofJson p.sent = .ok ⟨p⟩ := by
  have hread : optional (membersOf p.lists) "read" [] (listOf text) = .ok p.read :=
    p.isRowOf_read.optional_eq (.inr ⟨_, rfl, listOf_text p.read⟩)
  have hwrite : optional (membersOf p.lists) "write" [] (listOf text) = .ok p.write :=
    p.isRowOf_write.optional_eq (.inr ⟨_, rfl, listOf_text p.write⟩)
  have hkv : optional (membersOf p.rows) "kv" ⟨[], []⟩ KvPermissions.ofJson = .ok p :=
    p.isRowOf_kv.optional_eq (.inr ⟨_, rfl, Checked.seq_ok (Checked.map_ok hread KvPermissions.mk) hwrite⟩)
  exact Checked.map_ok hkv Permissions.mk

/-- Permissions take room for three containers: a list, what holds the two lists, and what is around that. -/
theorem toJson_toValue (n : Nat) : p.toValue.toJson (n + 3) = .ok p.sent := by
  have hlists : Value.AreWrittenAs (n + 1) [("read", .texts p.read), ("write", .texts p.write)] (membersOf p.lists) :=
    .cons ⟨rfl, Value.toJson_texts n p.read⟩ (.cons ⟨rfl, Value.toJson_texts n p.write⟩ .nil)
  have hkv := Value.toJson_document hlists p.isRowOf_read.names
  exact Value.toJson_document (.cons ⟨rfl, hkv⟩ .nil) p.isRowOf_kv.names

/-- The texts of permissions. -/
def texts : List Text := p.read ++ p.write

variable {p}

/-- Permissions are three containers deep, counted as in `toJson_toValue`. -/
theorem ofTexts_sent (h : ∀ t ∈ p.texts, t.IsUnicode) : OfTexts 3 p.sent := by
  obtain ⟨hread, hwrite⟩ := List.forall_mem_append.1 h
  have hlists : AreOfTexts 1 p.lists :=
    (AreOfTexts.nil.consSome (.texts hwrite)).consSome (.texts hread)
  have hkv : AreOfTexts 2 p.rows := AreOfTexts.nil.consSome hlists.object
  exact hkv.object

end KvPermissions

/-- Permissions as a row has them. -/
def rowOfPermissions (p : KvPermissions) : Option Json := rowUnless p.isEmpty p.sent

/-- Permissions that are left out are those without any prefix, which is what an absent row is read as. -/
theorem isReadFrom_rowOfPermissions (p : KvPermissions) :
    IsReadFrom KvPermissions.ofSent ⟨[], []⟩ (rowOfPermissions p) p := by
  refine isReadFrom_rowUnless (fun hempty => ?_) p.ofSent_sent
  obtain ⟨read, write⟩ := p
  -- empty permissions have two empty lists
  obtain ⟨hread, hwrite⟩ := Bool.and_eq_true_iff.1 hempty
  obtain rfl : read = [] := List.isEmpty_iff.1 hread
  obtain rfl : write = [] := List.isEmpty_iff.1 hwrite
  rfl

/-- The same as `areWrittenAs_nonEmptyList`, with three containers to leave room for. -/
theorem areWrittenAs_nonEmptyPermissions (n : Nat) (name : Text) (p : KvPermissions) :
    Value.AreWrittenAs (n + 3) (nonEmptyPermissions name p) (membersOf [(name, rowOfPermissions p)]) :=
  areWrittenAs_rowUnless name (p.toJson_toValue n)

/-! ## What is sent for a change -/

/-- A kind of change: the call that asks for it, the texts that it is made of, the names of what is sent for it, and
how it is read from that. -/
structure AccessChange (α : Type) where
  call : α → RequestSpec
  texts : α → List Text
  names : List Text
  ofSent : Reading α

namespace AccessChange

variable {α : Type} {change : AccessChange α}

/-- What is sent carries the change, wherever the call is made: it is an object with names of the change, each at most
once, from which the change is read; and changes that are sent alike are the same. -/
structure IsCarried (change : AccessChange α) : Prop where
  back : ∀ room a, (∀ t ∈ change.texts a, t.IsUnicode) → ∃ members,
    (change.call a).Sends room 4 (.object members) ∧ (members.map Prod.fst).Sublist change.names ∧
      change.ofSent (.object members) = .ok a
  apart : ∀ room room' a b, (∀ t ∈ change.texts a, t.IsUnicode) → (∀ t ∈ change.texts b, t.IsUnicode) →
    ∀ content headers headers', (change.call a).body room = .ok ⟨content, headers⟩ →
      (change.call b).body room' = .ok ⟨content, headers'⟩ → a = b

/-- The rows of a change: its call writes them, they are of its texts, and it is read from them. To write them takes
no more room than there always is. -/
structure AreRows (change : AccessChange α) (rows : α → List (Text × Option Json)) : Prop where
  names : ∀ a, (rows a).map Prod.fst = change.names
  form : ∀ a, (change.call a).form = none
  written : ∀ a, ∃ value, (change.call a).document = some value ∧
    ∀ n, value.toJson (n + 4) = .ok (.object (membersOf (rows a)))
  texts : ∀ a, (∀ t ∈ change.texts a, t.IsUnicode) → AreOfTexts 3 (rows a)
  read : ∀ a, change.ofSent (.object (membersOf (rows a))) = .ok a

/-- **A change sends its rows**: one object with a member for each row that has a document. -/
theorem AreRows.sends {rows : α → List (Text × Option Json)} (h : change.AreRows rows) (room : Room) {a : α}
    (ha : ∀ t ∈ change.texts a, t.IsUnicode) : (change.call a).Sends room 4 (.object (membersOf (rows a))) := by
  obtain ⟨value, hdocument, hwritten⟩ := h.written a
  obtain ⟨n, hroom⟩ : ∃ n, room.sent = n + 4 := ⟨room.sent - 4, by have := room.enough; omega⟩
  exact RequestSpec.sends_of_toJson (h.form a) hdocument (hroom ▸ hwritten n) (h.texts a ha).object

/-- **A change that is sent in rows is carried.** -/
theorem AreRows.isCarried {rows : α → List (Text × Option Json)} (h : change.AreRows rows) : change.IsCarried where
  back room a ha := ⟨_, h.sends room ha, h.names a ▸ names_membersOf (rows a), h.read a⟩
  apart room room' a b ha hb content headers headers' hbody hbody' := by
    have hsame := (h.sends room ha).inj (h.sends room' hb) hbody hbody'
    have hread := h.read a
    rw [hsame, h.read b] at hread
    exact (Checked.ok.inj hread).symm

end AccessChange

/-! ## The four changes -/

namespace NewUser

def texts (u : NewUser) : List Text := u.name :: u.password :: u.roles

def rows (u : NewUser) : List (Text × Option Json) :=
  [("user", some (.text u.name)), ("password", some (.text u.password)), ("roles", rowOfTexts u.roles)]

/-- A user to create, as it is read from what is sent; roles that are absent are none. -/
def ofSent : Reading NewUser :=
  objectOf fun members => NewUser.mk <$> required members "user" text <*> required members "password" text <*>
    optional members "roles" [] (listOf text)

def change : AccessChange NewUser := ⟨AccessCall.createUser, texts, ["user", "password", "roles"], ofSent⟩

variable (u : NewUser)

theorem names_rows : (u.rows.map Prod.fst).Nodup := (by decide : (["user", "password", "roles"] : List Text).Nodup)

/-- **A user to create comes back from what is sent**, field by field, each from its row. -/
theorem ofSent_rows : ofSent (.object (membersOf u.rows)) = .ok u := by
  have huser : required (membersOf u.rows) "user" text = .ok u.name :=
    FieldName.IsRowOf.required_eq ⟨u.names_rows, .head _, .inl rfl⟩ rfl
  have hpassword : required (membersOf u.rows) "password" text = .ok u.password :=
    FieldName.IsRowOf.required_eq ⟨u.names_rows, .tail _ (.head _), .inl rfl⟩ rfl
  have hroles : optional (membersOf u.rows) "roles" [] (listOf text) = .ok u.roles :=
    FieldName.IsRowOf.optional_eq ⟨u.names_rows, .tail _ (.tail _ (.head _)), .inl rfl⟩
      (isReadFrom_rowOfTexts (listOf_text u.roles))
  exact Checked.seq_ok (Checked.seq_ok (Checked.map_ok huser NewUser.mk) hpassword) hroles

/-- An answer tells of the user that is created. -/
theorem ofJson_rows : User.ofJson (.object (membersOf u.rows)) = .ok ⟨u.name, u.roles⟩ := by
  have huser : required (membersOf u.rows) ⟨"user", "name"⟩ text = .ok u.name :=
    FieldName.IsRowOf.required_eq ⟨u.names_rows, .head _,
      .inr (by decide : ("name" : Text) ∉ (["user", "password", "roles"] : List Text))⟩ rfl
  have hroles : optional (membersOf u.rows) ⟨"roles", "role_names"⟩ [] (nullAsEmpty (listOf text)) = .ok u.roles :=
    FieldName.IsRowOf.optional_eq ⟨u.names_rows, .tail _ (.tail _ (.head _)),
      .inr (by decide : ("role_names" : Text) ∉ (["user", "password", "roles"] : List Text))⟩
      (isReadFrom_rowOfTexts (listOf_text u.roles))
  exact Checked.seq_ok (Checked.map_ok huser User.mk) hroles

/-- What is sent for a new user: the only row that may be left out is that of the roles. -/
theorem areRows : change.AreRows rows where
  names _ := rfl
  form _ := rfl
  written u := ⟨u.toValue, rfl, fun n => Value.toJson_document
    (.cons ⟨rfl, rfl⟩ (.cons ⟨rfl, rfl⟩ (areWrittenAs_nonEmptyList (n + 2) "roles" u.roles)))
    (nodup_membersOf u.names_rows)⟩
  texts u h := by
    obtain ⟨hname, hmore⟩ := List.forall_mem_cons.1 h
    obtain ⟨hpassword, hroles⟩ := List.forall_mem_cons.1 hmore
    exact ((AreOfTexts.nil.cons (ofTexts_of_mem_rowUnless (.texts hroles))).consSome (.text hpassword)).consSome
      (.text hname)
  read := ofSent_rows

end NewUser

namespace UserUpdate

def texts (u : UserUpdate) : List Text := u.name :: (u.password.toList ++ (u.grant ++ u.revoke))

def rows (u : UserUpdate) : List (Text × Option Json) :=
  [("user", some (.text u.name)), ("password", u.password.map .text), ("grant", rowOfTexts u.grant),
    ("revoke", rowOfTexts u.revoke)]

/-- Changes to a user, as they are read from what is sent; a password that is absent is none, and so are roles. -/
def ofSent : Reading UserUpdate :=
  objectOf fun members => UserUpdate.mk <$> required members "user" text <*>
    optional members "password" none (fun json => some <$> text json) <*> optional members "grant" [] (listOf text) <*>
    optional members "revoke" [] (listOf text)

def change : AccessChange UserUpdate := ⟨AccessCall.updateUser, texts, ["user", "password", "grant", "revoke"], ofSent⟩

variable (u : UserUpdate)

theorem names_rows : (u.rows.map Prod.fst).Nodup :=
  (by decide : (["user", "password", "grant", "revoke"] : List Text).Nodup)

/-- **Changes to a user come back from what is sent.** Three of the four rows may be left out, and each absent
row is read as what it was left out for. -/
theorem ofSent_rows : ofSent (.object (membersOf u.rows)) = .ok u := by
  have huser : required (membersOf u.rows) "user" text = .ok u.name :=
    FieldName.IsRowOf.required_eq ⟨u.names_rows, .head _, .inl rfl⟩ rfl
  have hpassword : optional (membersOf u.rows) "password" none (fun json => some <$> text json) = .ok u.password := by
    refine FieldName.IsRowOf.optional_eq ⟨u.names_rows, .tail _ (.head _), .inl rfl⟩ ?_
    cases u.password with
    | none => exact .inl ⟨rfl, rfl⟩
    | some password => exact .inr ⟨_, rfl, rfl⟩
  have hgrant : optional (membersOf u.rows) "grant" [] (listOf text) = .ok u.grant :=
    FieldName.IsRowOf.optional_eq ⟨u.names_rows, .tail _ (.tail _ (.head _)), .inl rfl⟩
      (isReadFrom_rowOfTexts (listOf_text u.grant))
  have hrevoke : optional (membersOf u.rows) "revoke" [] (listOf text) = .ok u.revoke :=
    FieldName.IsRowOf.optional_eq ⟨u.names_rows, .tail _ (.tail _ (.tail _ (.head _))), .inl rfl⟩
      (isReadFrom_rowOfTexts (listOf_text u.revoke))
  exact Checked.seq_ok (Checked.seq_ok (Checked.seq_ok (Checked.map_ok huser UserUpdate.mk) hpassword) hgrant) hrevoke

/-- The value is built in steps that each may add nothing, so the rows are lined up with them one by one. -/
theorem toJson_toValue (n : Nat) : u.toValue.toJson (n + 4) = .ok (.object (membersOf u.rows)) := by
  have hlists := areWrittenAs_row (areWrittenAs_nonEmptyList (n + 2) "grant" u.grant)
    (areWrittenAs_nonEmptyList (n + 2) "revoke" u.revoke)
  have hnames := nodup_membersOf u.names_rows
  obtain ⟨name, password, grant, revoke⟩ := u
  -- without a password its row is left out, and the lists follow the name
  cases password with
  | none => exact Value.toJson_document (.cons ⟨rfl, rfl⟩ hlists) hnames
  | some password => exact Value.toJson_document (.cons ⟨rfl, rfl⟩ (.cons ⟨rfl, rfl⟩ hlists)) hnames

/-- What is sent for changes to a user. A password is left out only if there is none; an empty one is sent. The
two lists of roles are left out if they are empty, so that whoever reads what is sent cannot tell an empty list
from one that is not there, and need not. -/
theorem areRows : change.AreRows rows where
  names _ := rfl
  form _ := rfl
  written u := ⟨u.toValue, rfl, u.toJson_toValue⟩
  texts u h := by
    obtain ⟨hname, hmore⟩ := List.forall_mem_cons.1 h
    obtain ⟨hpassword, hlists⟩ := List.forall_mem_append.1 hmore
    obtain ⟨hgrant, hrevoke⟩ := List.forall_mem_append.1 hlists
    have hpassword' : ∀ document ∈ u.password.map Json.text, OfTexts 3 document := by
      intro document hdocument
      obtain ⟨password, hsome, rfl⟩ := Option.map_eq_some_iff.1 hdocument
      exact .text (hpassword password (Option.mem_toList.2 hsome))
    exact (((AreOfTexts.nil.cons (ofTexts_of_mem_rowUnless (.texts hrevoke))).cons
      (ofTexts_of_mem_rowUnless (.texts hgrant))).cons hpassword').consSome (.text hname)
  read := ofSent_rows

end UserUpdate

namespace NewRole

def texts (r : NewRole) : List Text := r.name :: r.permissions.texts

def rows (r : NewRole) : List (Text × Option Json) :=
  [("role", some (.text r.name)), ("permissions", some r.permissions.sent)]

/-- A role to create, as it is read from what is sent. -/
def ofSent : Reading NewRole :=
  objectOf fun members =>
    NewRole.mk <$> required members "role" text <*> required members "permissions" KvPermissions.ofSent

def change : AccessChange NewRole := ⟨AccessCall.createRole, texts, ["role", "permissions"], ofSent⟩

variable (r : NewRole)

theorem names_rows : (r.rows.map Prod.fst).Nodup := (by decide : (["role", "permissions"] : List Text).Nodup)

/-- **A role to create comes back from what is sent**, with both of its lists. -/
theorem ofSent_rows : ofSent (.object (membersOf r.rows)) = .ok r := by
  have hrole : required (membersOf r.rows) "role" text = .ok r.name :=
    FieldName.IsRowOf.required_eq ⟨r.names_rows, .head _, .inl rfl⟩ rfl
  have hpermissions : required (membersOf r.rows) "permissions" KvPermissions.ofSent = .ok r.permissions :=
    FieldName.IsRowOf.required_eq ⟨r.names_rows, .tail _ (.head _), .inl rfl⟩ r.permissions.ofSent_sent
  exact Checked.seq_ok (Checked.map_ok hrole NewRole.mk) hpermissions

/-- An answer tells of the role that is created. -/
theorem ofJson_rows : Role.ofJson (.object (membersOf r.rows)) = .ok ⟨r.name, ⟨r.permissions⟩⟩ := by
  have hrole : required (membersOf r.rows) ⟨"role", "name"⟩ text = .ok r.name :=
    FieldName.IsRowOf.required_eq ⟨r.names_rows, .head _,
      .inr (by decide : ("name" : Text) ∉ (["role", "permissions"] : List Text))⟩ rfl
  have hpermissions : optional (membersOf r.rows) "permissions" ⟨⟨[], []⟩⟩ Permissions.ofJson = .ok ⟨r.permissions⟩ :=
    FieldName.IsRowOf.optional_eq ⟨r.names_rows, .tail _ (.head _), .inl rfl⟩
      (.inr ⟨_, rfl, r.permissions.ofJson_sent⟩)
  exact Checked.seq_ok (Checked.map_ok hrole Role.mk) hpermissions

/-- What is sent for a new role: nothing is left out, empty permissions are sent as two empty lists. -/
theorem areRows : change.AreRows rows where
  names _ := rfl
  form _ := rfl
  written r := ⟨r.toValue, rfl, fun n => Value.toJson_document
    (.cons ⟨rfl, rfl⟩ (.cons ⟨rfl, r.permissions.toJson_toValue n⟩ .nil)) r.names_rows⟩
  texts r h := by
    obtain ⟨hname, hpermissions⟩ := List.forall_mem_cons.1 h
    exact (AreOfTexts.nil.consSome (KvPermissions.ofTexts_sent hpermissions)).consSome (.text hname)
  read := ofSent_rows

end NewRole

namespace RoleUpdate

def texts (r : RoleUpdate) : List Text := r.name :: (r.grant.texts ++ r.revoke.texts)

def rows (r : RoleUpdate) : List (Text × Option Json) :=
  [("role", some (.text r.name)), ("grant", rowOfPermissions r.grant), ("revoke", rowOfPermissions r.revoke)]

/-- Changes to a role, as they are read from what is sent; permissions that are absent are none. -/
def ofSent : Reading RoleUpdate :=
  objectOf fun members => RoleUpdate.mk <$> required members "role" text <*>
    optional members "grant" ⟨[], []⟩ KvPermissions.ofSent <*> optional members "revoke" ⟨[], []⟩ KvPermissions.ofSent

def change : AccessChange RoleUpdate := ⟨AccessCall.updateRole, texts, ["role", "grant", "revoke"], ofSent⟩

variable (r : RoleUpdate)

theorem names_rows : (r.rows.map Prod.fst).Nodup := (by decide : (["role", "grant", "revoke"] : List Text).Nodup)

/-- **Changes to a role come back from what is sent**: what is granted and what is revoked are not mixed up, as
each has its own row. -/
theorem ofSent_rows : ofSent (.object (membersOf r.rows)) = .ok r := by
  have hrole : required (membersOf r.rows) "role" text = .ok r.name :=
    FieldName.IsRowOf.required_eq ⟨r.names_rows, .head _, .inl rfl⟩ rfl
  have hgrant : optional (membersOf r.rows) "grant" ⟨[], []⟩ KvPermissions.ofSent = .ok r.grant :=
    FieldName.IsRowOf.optional_eq ⟨r.names_rows, .tail _ (.head _), .inl rfl⟩ (isReadFrom_rowOfPermissions r.grant)
  have hrevoke : optional (membersOf r.rows) "revoke" ⟨[], []⟩ KvPermissions.ofSent = .ok r.revoke :=
    FieldName.IsRowOf.optional_eq ⟨r.names_rows, .tail _ (.tail _ (.head _)), .inl rfl⟩
      (isReadFrom_rowOfPermissions r.revoke)
  exact Checked.seq_ok (Checked.seq_ok (Checked.map_ok hrole RoleUpdate.mk) hgrant) hrevoke

/-- What is sent for changes to a role. Permissions without a prefix are left out, whichever of the two they
are. -/
theorem areRows : change.AreRows rows where
  names _ := rfl
  form _ := rfl
  written r := ⟨r.toValue, rfl, fun n => Value.toJson_document (.cons ⟨rfl, rfl⟩
    (areWrittenAs_row (areWrittenAs_nonEmptyPermissions n "grant" r.grant)
      (areWrittenAs_nonEmptyPermissions n "revoke" r.revoke))) (nodup_membersOf r.names_rows)⟩
  texts r h := by
    obtain ⟨hname, hmore⟩ := List.forall_mem_cons.1 h
    obtain ⟨hgrant, hrevoke⟩ := List.forall_mem_append.1 hmore
    exact ((AreOfTexts.nil.cons (ofTexts_of_mem_rowUnless (KvPermissions.ofTexts_sent hrevoke))).cons
      (ofTexts_of_mem_rowUnless (KvPermissions.ofTexts_sent hgrant))).consSome (.text hname)
  read := ofSent_rows

end RoleUpdate

/-! ## Together -/

/-- **A document that is sent is read as an answer.** It is within the depth that readers of answers admit,
which is far more than any of the four changes has. -/
theorem RequestSpec.Sends.decode_eq_ok {α : Type} {room : Room} {spec : RequestSpec} {n : Nat} {document : Json}
    (h : spec.Sends room n document) (hn : n ≤ 200) {read : Reading α} {a : α} (hread : read document = .ok a) :
    ∃ octets headers, spec.body room = .ok ⟨some octets, headers⟩ ∧ read.decode octets = .ok a := by
  obtain ⟨octets, headers, t, hbody, ht, hdocument⟩ := h
  refine ⟨octets, headers, hbody, ?_⟩
  -- readers of answers set a limit to the depth; what is sent stays below it
  have hstrict : Dialect.strict.Admits n := by
    intro limit hlimit
    obtain rfl := Option.some.inj hlimit
    exact hn
  rw [decode, ht, Option.bind_some, hdocument .strict hstrict]
  exact hread

/-- **Changes are sent as they are given**, if their texts are of Unicode: each kind is read back from what is sent
for it, and what creates a user or a role is an answer that tells of it. There is room for all of them wherever a
client is used. -/
theorem changes_are_sent_as_given :
    NewUser.change.IsCarried ∧ UserUpdate.change.IsCarried ∧ NewRole.change.IsCarried ∧ RoleUpdate.change.IsCarried ∧
    (∀ (room : Room) (u : NewUser), (∀ t ∈ u.texts, t.IsUnicode) →
      ∃ octets headers, (AccessCall.createUser u).body room = .ok ⟨some octets, headers⟩ ∧
        User.ofJson.decode octets = .ok ⟨u.name, u.roles⟩) ∧
    ∀ (room : Room) (r : NewRole), (∀ t ∈ r.texts, t.IsUnicode) →
      ∃ octets headers role, (AccessCall.createRole r).body room = .ok ⟨some octets, headers⟩ ∧
        Role.ofJson.decode octets = .ok role ∧ role.name = r.name ∧ role.readable = r.permissions.read ∧
        role.writable = r.permissions.write := by
  refine ⟨NewUser.areRows.isCarried, UserUpdate.areRows.isCarried, NewRole.areRows.isCarried,
    RoleUpdate.areRows.isCarried, fun room u hu => ?_, fun room r hr => ?_⟩
  · exact (NewUser.areRows.sends room hu).decode_eq_ok (by decide) u.ofJson_rows
  · obtain ⟨octets, headers, hbody, hrole⟩ := (NewRole.areRows.sends room hr).decode_eq_ok (by decide) r.ofJson_rows
    exact ⟨octets, headers, _, hbody, hrole, rfl, rfl, rfl⟩

/-- A password with a quote and a line end, two roles that differ in what a prefix is for, and a prefix beyond ASCII. -/
theorem changes_are_sent_as_given_beyond_ascii :
    (∃ members, (AccessCall.updateUser ⟨"ann", some "é\"\n", [], ["r"]⟩).Sends .usual 4 (.object members) ∧
      UserUpdate.ofSent (.object members) = .ok ⟨"ann", some "é\"\n", [], ["r"]⟩) ∧
    (∀ content headers headers', (AccessCall.createRole ⟨"r", ⟨["/a"], []⟩⟩).body .usual = .ok ⟨content, headers⟩ →
      (AccessCall.createRole ⟨"r", ⟨[], ["/a"]⟩⟩).body .usual ≠ .ok ⟨content, headers'⟩) ∧
    ∃ octets headers role, (AccessCall.createRole ⟨"r", ⟨["/é/*"], []⟩⟩).body .usual = .ok ⟨some octets, headers⟩ ∧
      Role.ofJson.decode octets = .ok role ∧ role.readable = ["/é/*"] := by
  obtain ⟨-, hupdate, hrole, -, -, hanswer⟩ := changes_are_sent_as_given
  refine ⟨?_, fun content headers headers' hbody hbody' => ?_, ?_⟩
  · obtain ⟨members, hsends, -, hback⟩ := hupdate.back .usual ⟨"ann", some "é\"\n", [], ["r"]⟩
      (Text.isUnicode_of_mem_map ["ann", "é\"\n", "r"])
    exact ⟨members, hsends, hback⟩
  · have hsame := hrole.apart .usual .usual ⟨"r", ⟨["/a"], []⟩⟩ ⟨"r", ⟨[], ["/a"]⟩⟩ (Text.isUnicode_of_mem_map ["r", "/a"])
      (Text.isUnicode_of_mem_map ["r", "/a"]) content headers headers' hbody hbody'
    exact absurd hsame (by decide)
  · obtain ⟨octets, headers, role, hbody, hdecode, -, hreadable, -⟩ :=
      hanswer .usual ⟨"r", ⟨["/é/*"], []⟩⟩ (Text.isUnicode_of_mem_map ["r", "/é/*"])
    exact ⟨octets, headers, role, hbody, hdecode, hreadable⟩

end ClusterClient
