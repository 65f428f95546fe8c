import ClusterClient.Console.BodyText
import ClusterClient.Proofs.Json.Depth

/-!
# Bodies, as they are shown

A body that is a document is shown as another text of the same document, each name once; a body that is none is shown
as it is. What is shown is shown as it is: a printed document is printed from what it is read as, and a text that is
no document does not become one.

All this is so within the room there is. A text that is too deep to be read is not shown, and neither is a document
that is too deep to be laid out: the walk fails, and the error is all there is. Where there is as much room for laying
out as for reading, the depth of the text decides alone.

Numbers with a fraction or an exponent are left out: what is printed of them is another numeral.

## The architecture

* **`IsShownAs`**, **`IsUnshown`**: how a text is shown, or why it is not, whatever it comes as.
* **`IsWithin`**: the room that a text needs; `ofText_eq_ok_iff` and `ofText_eq_error` for both sides of it.
* **`read?_laidOut`**: what is shown of a document is read as the document, settled, and **`isWithin_laidOut`** needs
  no more room.
* **`bodies_are_shown_as_they_say`**: both kinds of bodies, and what is shown once more.
-/

namespace ClusterClient.Console.BodyText

/-- A text is shown as this, whether it comes as a text or as its octets. -/
structure IsShownAs (room : Room) (t shown : Text) : Prop where
  fromText : ofValue room (.text t) = .ok shown
  fromOctets : ∀ octets, Text.ofUtf8? octets = some t → ofOctets room octets = .ok shown

/-- A text is not shown for this error, whether it comes as a text or as its octets. -/
structure IsUnshown (room : Room) (t : Text) (e : External) : Prop where
  fromText : ofValue room (.text t) = .error e
  fromOctets : ∀ octets, Text.ofUtf8? octets = some t → ofOctets room octets = .error e

/-- A text that is not too deep to be read, nor, if it is a document, too deep to be laid out once each of its names
has its last value. -/
structure IsWithin (room : Room) (t : Text) : Prop where
  read : Json.tooDeep? .lenient room.read t = none
  laidOut : ∀ document, Json.read? .lenient t = some document → document.settled.levels ≤ room.laidOut

/-- The text that a body is shown as, if there is room for it. -/
def said (t : Text) : Text :=
  match Json.read? .lenient t with
  | some document => document.settled.toText .indented
  | none => t

variable {room : Room} {t : Text} {document : Json}

/-- What a body is shown as is how it is to be shown: read and written again if there is room for both, and as
it stands if it is no document. -/
theorem isShownAs_of_ofText {shown : Text} (h : ofText room t = .ok shown) : IsShownAs room t shown where
  fromText := h
  fromOctets octets hoctets := by rw [ofOctets, hoctets, ← h]

/-- A body that is not shown is a document for which there is no room. -/
theorem isUnshown_of_ofText {e : External} (h : ofText room t = .error e) : IsUnshown room t e where
  fromText := h
  fromOctets octets hoctets := by rw [ofOctets, hoctets, ← h]

theorem said_of_read? (h : Json.read? .lenient t = some document) :
    said t = document.settled.toText .indented := by
  rw [said, h]

theorem said_of_read?_eq_none (h : Json.read? .lenient t = none) : said t = t := by
  rw [said, h]

/-- A text that there is room for is shown as what it says. -/
theorem ofText_of_isWithin (h : IsWithin room t) : ofText room t = .ok (said t) := by
  rw [ofText, h.read, said]
  cases hread : Json.read? .lenient t with
  | none => rfl
  | some document => exact if_pos (h.laidOut document hread)

/-- A text that there is no room for is not shown, and the error says which walk has failed. -/
theorem ofText_of_not_isWithin (h : ¬IsWithin room t) :
    ∃ e, ofText room t = .error e ∧ e.kind = .recursion := by
  rw [ofText]
  cases hdeep : Json.tooDeep? .lenient room.read t with
  | some token => exact ⟨tooDeepToRead token, rfl, by cases token <;> rfl⟩
  | none =>
    cases hread : Json.read? .lenient t with
    | none => exact absurd ⟨hdeep, fun document hdocument => by rw [hread] at hdocument; cases hdocument⟩ h
    | some document =>
      refine ⟨tooDeepToLayOut, if_neg fun hlevels => h ⟨hdeep, fun other hother => ?_⟩, rfl⟩
      obtain rfl := Option.some.inj (hread.symm.trans hother)
      exact hlevels

/-! ## A document that is laid out -/

/-- **What is shown of a document is read as the document**, settled. -/
theorem read?_laidOut (h : Json.read? .lenient t = some document)
    (hreal : ∀ x, Json.Token.real x ∉ document.leaves) :
    Json.read? .lenient (document.settled.toText .indented) = some document.settled := by
  refine Json.read?_toText (fun token htoken => ?_) ?_
  · have hbefore := Json.mem_leaves_settled document htoken
    have hmark := (List.mem_filter.1 htoken).2
    rw [Bool.not_eq_true'] at hmark
    refine (Json.isAdmitted_of_read? h token hbefore).spells_printed hmark (fun x hx => hreal x (hx ▸ hbefore)) ?_
    exact fun hascii => Bool.noConfusion hascii
  · exact fun limit hlimit => absurd hlimit (Option.not_mem_none limit)

/-- **What is shown of a document needs no more room than the document did**: it is as deep as the settled document,
and settling it once more leaves it as it is. -/
theorem isWithin_laidOut (h : IsWithin room t) (hread : Json.read? .lenient t = some document)
    (hreal : ∀ x, Json.Token.real x ∉ document.leaves) : IsWithin room (document.settled.toText .indented) where
  read := by
    have hdepth := (Json.tooDeep?_eq_none_iff rfl hread).1 h.read
    exact (Json.tooDeep?_eq_none_iff rfl (read?_laidOut hread hreal)).2
      (Nat.le_trans (Json.depth_settled_le document) hdepth)
  laidOut other hother := by
    obtain rfl := Option.some.inj ((read?_laidOut hread hreal).symm.trans hother)
    rw [Json.settled_settled]
    exact h.laidOut document hread

/-- What is said of a text says the same of itself. -/
theorem said_said (hreal : ∀ document, Json.read? .lenient t = some document → ∀ x, Json.Token.real x ∉ document.leaves) :
    said (said t) = said t := by
  cases hread : Json.read? .lenient t with
  | none => rw [said_of_read?_eq_none hread, said_of_read?_eq_none hread]
  | some document =>
    rw [said_of_read? hread, said_of_read? (read?_laidOut hread (hreal document hread)), Json.settled_settled]

/-- Where there is as much room for laying out as for reading, what can be read is within the room. -/
theorem isWithin_of_read (hroom : room.read ≤ room.laidOut) (hdeep : Json.tooDeep? .lenient room.read t = none)
    (hreal : ∀ document, Json.read? .lenient t = some document → ∀ x, Json.Token.real x ∉ document.leaves) :
    IsWithin room t where
  read := hdeep
  laidOut document hread := by
    have hsettled : ∀ x, Json.Token.real x ∉ document.settled.leaves := fun x hx =>
      hreal document hread x (Json.mem_leaves_settled document hx)
    calc document.settled.levels
      _ ≤ document.settled.depth := Json.levels_le_depth _ hsettled
      _ ≤ document.depth := Json.depth_settled_le document
      _ ≤ room.read := (Json.tooDeep?_eq_none_iff rfl hread).1 hdeep
      _ ≤ room.laidOut := hroom

/-- **A body is shown as what it says**, if there is room for it and it has no number with a fraction or an exponent:
a document as a text that is read as a document that says the same, anything else as it is; and what is shown is shown
as it is. The room for reading is enough where there is no less for laying out. Without the room, all there is to see
is that the stack ran out. -/
theorem bodies_are_shown_as_they_say (room : Room) (t : Text)
    (hreal : ∀ document, Json.read? .lenient t = some document → ∀ x, Json.Token.real x ∉ document.leaves) :
    (IsWithin room t →
      ∃ shown, IsShownAs room t shown ∧ IsShownAs room shown shown ∧
        (∀ document, Json.read? .lenient t = some document →
          ∃ again, Json.read? .lenient shown = some again ∧ document.SameValue again) ∧
        (Json.read? .lenient t = none → shown = t)) ∧
      (room.read ≤ room.laidOut → (IsWithin room t ↔ Json.tooDeep? .lenient room.read t = none)) ∧
      (¬IsWithin room t → ∃ e, IsUnshown room t e ∧ e.kind = .recursion) := by
  refine ⟨fun hwithin => ?_, fun hroom => ⟨IsWithin.read, fun hdeep => isWithin_of_read hroom hdeep hreal⟩, fun hout => ?_⟩
  -- what is shown can be shown again: laid out, a document is no deeper than it was
  · have hagain : IsWithin room (said t) := by
      cases hread : Json.read? .lenient t with
      | none => rwa [said_of_read?_eq_none hread]
      | some document =>
        rw [said_of_read? hread]
        exact isWithin_laidOut hwithin hread (hreal document hread)
    have hfixed := isShownAs_of_ofText (ofText_of_isWithin hagain)
    rw [said_said hreal] at hfixed
    refine ⟨said t, isShownAs_of_ofText (ofText_of_isWithin hwithin), hfixed, fun document hread => ?_,
      said_of_read?_eq_none⟩
    rw [said_of_read? hread]
    exact ⟨document.settled, read?_laidOut hread (hreal document hread), Json.sameValue_settled document⟩
  · obtain ⟨e, he, hkind⟩ := ofText_of_not_isWithin hout
    exact ⟨e, isUnshown_of_ofText he, hkind⟩

/-- A name that is given twice is shown once, and half a surrogate pair as it is. -/
theorem bodies_are_shown_as_they_say_with_a_name_twice :
    ∃ shown again, IsShownAs Room.usual "\x7b\"a\":[1,\x7b\x7d],\"b\":\"\\ud83d\",\"a\":-20\x7d" shown ∧
      IsShownAs Room.usual shown shown ∧
      Json.read? .lenient shown = some again ∧
      (Json.object [("a", .list [.whole 1, .object []]), ("b", .text [0xD83D]), ("a", .whole (-20))]).SameValue
        again := by
  have hscan : Json.Token.scan? .lenient "\x7b\"a\":[1,\x7b\x7d],\"b\":\"\\ud83d\",\"a\":-20\x7d" =
      some (Json.object [("a", .list [.whole 1, .object []]), ("b", .text [0xD83D]), ("a", .whole (-20))]).tokens := by
    decide +kernel
  have hread : Json.read? .lenient "\x7b\"a\":[1,\x7b\x7d],\"b\":\"\\ud83d\",\"a\":-20\x7d" = some _ :=
    Option.bind_eq_some_iff.2 ⟨_, hscan, Json.ofTokens?_tokens fun limit hlimit => nomatch hlimit⟩
  obtain ⟨hin, hroom, -⟩ := bodies_are_shown_as_they_say Room.usual _ fun document hdocument x hx => by
    obtain rfl := Option.some.inj (hread.symm.trans hdocument)
    simp [Json.leaves, Json.tokens, Json.moreItems, Json.moreMembers, Json.Token.isMark] at hx
  have hdeep : Json.tooDeep? .lenient Room.usual.read _ = none :=
    (Json.tooDeep?_eq_none_iff rfl hread).2 (by decide)
  obtain ⟨shown, hshown, hagain, hdocument, -⟩ := hin ((hroom (Nat.le_refl _)).2 hdeep)
  obtain ⟨again, hread', hsame⟩ := hdocument _ hread
  exact ⟨shown, again, hshown, hagain, hread', hsame⟩

end ClusterClient.Console.BodyText
