import ClusterClient.Console.Trace
import ClusterClient.Proofs.Console.BodyText

/-!
# What can be shown

A trace can be printed if its texts in markup and its bodies can be shown. Of the texts, only the ones with an address,
a method or a message in them are in doubt, and they can be shown if none of these holds a tag of its own. A body can
be shown if it is no document, or one for which there is room. The first part that cannot be shown stops the trace, and
what stands in front of it has been printed.

## The architecture

* **`Markup.isTagless`**: no bracket in a text opens a tag.
* **`piecesFrom_tagless`**, **`piecesFrom_tag`**: reading on over such a text, and over a tag.
* **`Markup.IsHeading`**: a name of a style that tags are made of. **`plain_headed`** assembles the three: a
  tag, a text, the closing tag and a text can be shown.
* **`Part`**, **`firstFault`**: the parts of a trace that are in doubt, and why the first of them cannot be shown. That
  is what stops the trace (**`stopped_request`**, **`stopped_response`**, **`stopped_error`**).
-/

namespace ClusterClient.Console

namespace Markup

/-- No bracket in a text stands in front of a letter that begins a tag. -/
def isTagless : Text → Bool
  | c :: d :: rest => !(c = '[' && beginsTag d) && isTagless (d :: rest)
  | _ => true

/-- A text that begins like the inside of a tag. -/
def startsTag (t : Text) : Bool := (t.head?.map beginsTag).getD false

/-- What stands behind the first letter of such a text is such a text. -/
theorem isTagless_tail {c : CodePoint} {t : Text} (h : isTagless (c :: t)) : isTagless t := by
  cases t with
  | nil => rfl
  | cons d rest =>
    rw [isTagless, Bool.and_eq_true] at h
    exact h.2

/-- A bracket at the end of one text and the beginning of the next make no tag unless they do: a tag begins with
a bracket and what may stand behind one, and only the place where the texts meet is new. -/
theorem isTagless_append {s t : Text} (hs : isTagless s) (ht : isTagless t)
    (hjoin : startsTag t = false) : isTagless (s ++ t) := by
  induction s with
  | nil => exact ht
  | cons c s ih =>
    have hrest := ih (isTagless_tail hs)
    cases s with
    | nil =>
      -- the two texts meet here
      cases t with
      | nil => rfl
      | cons d rest =>
        have hd : beginsTag d = false := hjoin
        simp [isTagless, hd, ht]
    | cons d rest =>
      rw [isTagless, Bool.and_eq_true] at hs
      rw [List.cons_append, List.cons_append, isTagless, Bool.and_eq_true]
      exact ⟨hs.1, hrest⟩

/-- A text without any bracket may be put in front of such a text, whatever the second begins with. -/
theorem isTagless_prepend {s t : Text} (hs : CodePoint.ofChar '[' ∉ s) (ht : isTagless t) :
    isTagless (s ++ t) := by
  induction s with
  | nil => exact ht
  | cons c s ih =>
    have hc : c ≠ '[' := fun hc => hs (by simp [hc])
    have hrest := ih fun hin => hs (by simp [hin])
    rw [List.cons_append]
    -- the first letter is no bracket, so that only the letters behind it count
    cases hnext : s ++ t with
    | nil => rfl
    | cons d rest => simpa [isTagless, hc, hnext] using hrest

/-- No tag is read where none begins. -/
theorem tag?_of_not_startsTag {t : Text} (h : startsTag t = false) : tag? t = none := by
  cases t with
  | nil => rfl
  | cons c rest =>
    have hc : beginsTag c = false := h
    simp [tag?, hc]

/-! ## Reading on -/

/-- Reading on over a text without tags. What follows it has to begin with no letter of a tag, since a
bracket may stand at its end. -/
theorem piecesFrom_tagless {t rest : Text} (h : isTagless t) (hrest : startsTag rest = false)
    (patience position slashes : Nat) (plain : Text) (done : List Piece) :
    ∃ slashes' plain', piecesFrom (patience + t.length) position slashes plain (t ++ rest) done =
      piecesFrom patience (position + t.length) slashes' plain' rest done := by
  induction t generalizing position slashes plain with
  | nil => exact ⟨slashes, plain, rfl⟩
  | cons c t ih =>
    have hnone : (if c = '[' then tag? (t ++ rest) else none) = none := by
      split
      · next hbracket =>
        -- a bracket at the end of the text meets the beginning of the rest
        refine tag?_of_not_startsTag ?_
        cases t with
        | nil => exact hrest
        | cons d t =>
          simp only [isTagless, hbracket, decide_true, Bool.true_and, Bool.and_eq_true] at h
          simpa [startsTag] using h.1
      · rfl
    have hlength : position + (c :: t).length = position + 1 + t.length := by
      rw [List.length_cons]
      omega
    rw [hlength, List.cons_append, List.length_cons, ← Nat.add_assoc, piecesFrom]
    split
    · exact ih (isTagless_tail h) (position + 1) (slashes + 1) plain
    · rw [hnone]
      exact ih (isTagless_tail h) (position + 1) 0 _

/-- The inside of a tag: a letter of a tag, and no bracket. -/
def isInside (t : Text) : Bool :=
  startsTag t && t.all fun c => !(c = '[' || c = ']')

/-- A tag is read up to the bracket that closes it, and no further. There is no bracket inside, so that the
first one found is this. -/
theorem tag?_append {inside : Text} (h : isInside inside) (rest : Text) :
    tag? (inside ++ "]" ++ rest) = some (inside, rest) := by
  obtain ⟨hhead, hnone⟩ := Bool.and_eq_true_iff.1 h
  cases inside with
  | nil => exact absurd hhead (by decide)
  | cons c more =>
    -- inside there is no bracket, and behind it there is one
    have hmore : ∀ d ∈ more, (decide (d = '[') || decide (d = ']')) = false := fun d hd => by
      have hd := List.all_eq_true.1 hnone d (List.mem_cons_of_mem _ hd)
      simpa using hd
    have hend : ∀ d, (Text.ofString "]" ++ rest).head? = some d →
        (decide (d = '[') || decide (d = ']')) = true := fun d hd => by
      obtain rfl : CodePoint.ofChar ']' = d := Option.some.inj hd
      decide
    have hbegins : beginsTag c = true := hhead
    have hbreak := Text.breakAt_append_of hmore hend
    rw [List.append_assoc, List.cons_append, tag?, if_pos hbegins, hbreak]
    rfl

/-- Reading on over a tag, unless backslashes take its meaning away: it becomes a piece, behind pieces of plain
text. -/
theorem piecesFrom_tag {inside : Text} (h : isInside inside) (patience position slashes : Nat)
    (plain rest : Text) (done : List Piece) :
    ∃ front half piece,
      piecesFrom (patience + 1) position slashes plain ("[" ++ inside ++ "]" ++ rest) done =
        piecesFrom patience (position + inside.length + 2) 0 [] rest
          (piece :: .plain half :: .plain front :: done) ∧
      (piece = .tag position inside ∨ slashes ≠ 0 ∧ ∃ t, piece = .plain t) := by
  have hfound := tag?_append h rest
  have htext : ("[" ++ inside ++ "]" ++ rest : Text) = CodePoint.ofChar '[' :: (inside ++ "]" ++ rest) := rfl
  rw [htext, piecesFrom, if_neg (by decide)]
  simp only [↓reduceIte, hfound]
  -- an odd number of backslashes takes the meaning of the bracket away
  split
  · next hodd => exact ⟨_, _, _, rfl, .inr ⟨by omega, _, rfl⟩⟩
  · exact ⟨_, _, _, rfl, .inl rfl⟩

/-- Where the text ends, what has been gathered is the last piece, be it empty. -/
theorem piecesFrom_nil (patience position slashes : Nat) (plain : Text) (done : List Piece) :
    ∃ t, piecesFrom patience position slashes plain [] done = done.reverse ++ [.plain t] := by
  cases patience with
  | zero => exact ⟨_, by rw [piecesFrom, List.reverse_cons]⟩
  | succ patience => exact ⟨_, by rw [piecesFrom, List.reverse_cons]⟩

/-! ## Headed texts -/

/-- A text under a heading, and a text behind it. -/
def headed (name heading t : Text) : Text := "[" ++ name ++ "]" ++ heading ++ ("[" ++ ("/" ++ name) ++ "]" ++ t)

/-- The pieces of a headed text: its tags, and plain text around them. A backslash at the end of the heading
takes the meaning of the second tag away. -/
theorem pieces_headed {name heading t : Text} (hname : isInside name) (hclose : isInside ("/" ++ name))
    (hheading : isTagless heading) (ht : isTagless t) :
    ∃ t₁ t₂ t₃ t₄ t₅ piece, pieces (headed name heading t) =
        [.plain t₁, .plain t₂, .tag 0 name, .plain t₃, .plain t₄, piece, .plain t₅] ∧
      ((∃ position, piece = .tag position ("/" ++ name)) ∨ ∃ t, piece = .plain t) := by
  let second : Text := "[" ++ ("/" ++ name) ++ "]" ++ t
  have hsecond : startsTag second = false := rfl
  have hlength : (headed name heading t).length + 1 =
      name.length + name.length + 4 + t.length + 1 + heading.length + 1 := by
    simp [headed, Text.ofString]
    omega
  have hheaded : headed name heading t = "[" ++ name ++ "]" ++ (heading ++ second) :=
    List.append_assoc ..
  -- nothing stands before the first tag, so no backslash does
  obtain ⟨t₁, t₂, first, hfirst, hopen⟩ := piecesFrom_tag hname
    (name.length + name.length + 4 + t.length + 1 + heading.length) 0 0 [] (heading ++ second) []
  obtain rfl : first = .tag 0 name := hopen.resolve_right fun h => h.1 rfl
  obtain ⟨slashes, plain, hover⟩ := piecesFrom_tagless hheading hsecond
    (name.length + name.length + 4 + t.length + 1) (0 + name.length + 2) 0 []
    [.tag 0 name, .plain t₂, .plain t₁]
  obtain ⟨t₃, t₄, piece, hclosed, hpiece⟩ := piecesFrom_tag hclose
    (name.length + name.length + 4 + t.length) (0 + name.length + 2 + heading.length) slashes plain t
    [.tag 0 name, .plain t₂, .plain t₁]
  -- the text behind it ends where the reading ends
  have hnothing : startsTag [] = false := rfl
  obtain ⟨slashes', plain', hrest⟩ := piecesFrom_tagless ht hnothing
    (name.length + name.length + 4)
    (0 + name.length + 2 + heading.length + ("/" ++ name : Text).length + 2) 0 []
    [piece, .plain t₄, .plain t₃, .tag 0 name, .plain t₂, .plain t₁]
  rw [List.append_nil] at hrest
  obtain ⟨t₅, hend⟩ := piecesFrom_nil (name.length + name.length + 4)
    (0 + name.length + 2 + heading.length + ("/" ++ name : Text).length + 2 + t.length) slashes' plain'
    [piece, .plain t₄, .plain t₃, .tag 0 name, .plain t₂, .plain t₁]
  refine ⟨t₁, t₂, t₃, t₄, t₅, piece, ?_, ?_⟩
  · rw [pieces, hlength, hheaded, hfirst, hover, hclosed, hrest, hend]
    rfl
  · exact hpiece.imp (fun h => ⟨_, h⟩) And.right

/-- A name of a style by which tags are made: the tag sets the style, and its closing tag takes it back. -/
structure IsHeading (name : Text) : Prop where
  inside : isInside name
  closing : isInside ("/" ++ name)
  opens : Tag.ofInside name = ⟨name, none⟩
  closes : Tag.ofInside ("/" ++ name) = ⟨"/" ++ name, none⟩
  stays : (⟨name, none⟩ : Tag).isClosing = false
  acts : (⟨name, none⟩ : Tag).isAction = false
  strip : Text.strip name = name
  normal : normalName name = .ok name
  read : checkStyle ⟨name, none⟩ = .ok ()

/-- The names of styles in traces. -/
def headings : List Text := ["bold", "bold blue", "bold cyan", "bold red"]

theorem eq_ok_of_toOption {ε α : Type} {x : Except ε α} {a : α} (h : x.toOption = some a) : x = .ok a := by
  cases x with
  | error e => cases h
  | ok b => exact congrArg Except.ok (Option.some.inj h)

/-- **Every name of a style in traces heads texts.** -/
theorem isHeading {name : Text} (h : name ∈ headings) : IsHeading name := by
  -- each of them is read by evaluation, through values that can be compared
  have all : ∀ name ∈ headings, isInside name ∧ isInside ("/" ++ name) ∧
      Tag.ofInside name = ⟨name, none⟩ ∧ Tag.ofInside ("/" ++ name) = ⟨"/" ++ name, none⟩ ∧
      (⟨name, none⟩ : Tag).isClosing = false ∧ (⟨name, none⟩ : Tag).isAction = false ∧
      Text.strip name = name ∧ (normalName name).toOption = some name ∧
      (checkStyle ⟨name, none⟩).toOption = some () := by
    decide +kernel
  obtain ⟨hinside, hclosing, hopens, hcloses, hstays, hacts, hstrip, hnormal, hread⟩ := all name h
  exact ⟨hinside, hclosing, hopens, hcloses, hstays, hacts, hstrip, eq_ok_of_toOption hnormal,
    eq_ok_of_toOption hread⟩

namespace IsHeading

variable {name : Text} {position : Nat} {rest : List Piece} {open_ tags : List Tag} {done : List Text}

/-- A heading is entered: nothing is shown, and the tag is open. -/
theorem plainFrom_open (h : IsHeading name) :
    plainFrom (.tag position name :: rest) open_ tags done =
      plainFrom rest (⟨name, none⟩ :: open_) (⟨name, none⟩ :: tags) done := by
  simp only [plainFrom, h.opens, h.stays, h.normal]
  rfl

/-- The closing tag finds the tag that was opened last, which is its own. That tag has no parameters, so that
there is nothing to act on when it closes, and what was open before it is open again. -/
theorem plainFrom_close (h : IsHeading name) :
    plainFrom (.tag position ("/" ++ name) :: rest) (⟨name, none⟩ :: open_) tags done =
      plainFrom rest open_ tags done := by
  have hnonempty : name.isEmpty = false := by
    cases name with
    | nil => exact absurd h.inside (by decide)
    | cons c rest => rfl
  -- the tag is a closing one, of the name that is left without its slash, and that tag is the first of those
  -- that are open
  have hclosing : (⟨"/" ++ name, none⟩ : Tag).isClosing = true := rfl
  have hback : Text.strip (Text.ofString "/" ++ name).tail = name := h.strip
  have hfound : close? name (⟨name, none⟩ :: open_) = some (⟨name, none⟩, open_) := by simp [close?]
  have hend : closeTag ⟨name, none⟩ = .ok () := by rw [closeTag, h.acts, if_neg Bool.false_ne_true]
  simp only [plainFrom, h.closes, hclosing, hback, hnonempty, h.normal, bind, Except.bind, hfound, hend]
  rfl

end IsHeading

/-- **A headed text without tags of its own can be shown.** Its pieces are a tag, the heading, a closing tag and
what follows. A closing tag that looks like an emoji name is plain text instead, and then the first tag stays
open, which harms nobody. -/
theorem plain_headed {name heading t : Text} (hname : name ∈ headings) (hheading : isTagless heading)
    (ht : isTagless t) : ∃ shown, plain (headed name heading t) = .ok shown := by
  have h := isHeading hname
  obtain ⟨t₁, t₂, t₃, t₄, t₅, piece, hpieces, hpiece⟩ :=
    pieces_headed h.inside h.closing hheading ht
  obtain ⟨text, htext⟩ : ∃ text, plainFrom (pieces (headed name heading t)) [] [] [] =
      .ok (text, [⟨name, none⟩]) := by
    rw [hpieces, plainFrom, plainFrom, h.plainFrom_open, plainFrom, plainFrom]
    -- the second tag closes the first, or is plain text itself
    obtain ⟨position, rfl⟩ | ⟨other, rfl⟩ := hpiece
    · exact ⟨_, by rw [h.plainFrom_close, plainFrom, plainFrom]⟩
    · exact ⟨_, by rw [plainFrom, plainFrom, plainFrom]⟩
  have hstyles : [(⟨name, none⟩ : Tag)].reverse.forM checkStyle = .ok () := by
    show (checkStyle ⟨name, none⟩ >>= fun _ => pure ()) = _
    rw [h.read]
    rfl
  refine ⟨text.filter fun c => !isLeftOut c, ?_⟩
  rw [plain, htext]
  show ([(⟨name, none⟩ : Tag)].reverse.forM checkStyle >>= fun _ => pure _) = _
  rw [hstyles]
  rfl

end Markup

/-! ## Why a trace stops -/

/-- Why something cannot be shown, if it cannot. -/
def fault? {α : Type} : Except MarkupFault α → Option MarkupFault
  | .ok _ => none
  | .error fault => some fault

/-- A part of a trace that is in doubt: a text in markup, or a body. -/
inductive Part where
  | markup (text : Text)
  | body (octets : Octets)

/-- Why a part cannot be shown, if it cannot. -/
def Part.fault? (room : Room) : Part → Option Unprintable
  | markup t => (Console.fault? (Markup.plain t)).map .markup
  | body octets =>
    match BodyText.ofOctets room octets with
    | .ok _ => none
    | .error why => some (.body why)

/-- Why the first of some parts that cannot be shown cannot be. -/
def firstFault (room : Room) (parts : List Part) : Option Unprintable := parts.findSome? (Part.fault? room)

open Markup (headed headings isTagless)

variable {room : Room}

theorem firstFault_append (room : Room) (first second : List Part) :
    firstFault room (first ++ second) = (firstFault room first).or (firstFault room second) :=
  List.findSome?_append

theorem firstFault_singleton (part : Part) : firstFault room [part] = part.fault? room := by
  rw [firstFault, List.findSome?_cons]
  cases part.fault? room <;> rfl

/-- A headed text without tags of its own is never the part that cannot be shown. -/
theorem firstFault_append_headed {name heading t : Text} (hname : name ∈ headings)
    (hheading : isTagless heading) (ht : isTagless t) (front back : List Part) :
    firstFault room (front ++ .markup (headed name heading t) :: back) = firstFault room (front ++ back) := by
  obtain ⟨shown, hshown⟩ := Markup.plain_headed hname hheading ht
  have hback : firstFault room (.markup (headed name heading t) :: back) = firstFault room back := by
    simp only [firstFault, List.findSome?_cons, Part.fault?, hshown, fault?, Option.map_none]
  rw [firstFault_append, hback, firstFault_append]

/-- A body that is no text, or a text for which there is room, is never the part that cannot be shown. -/
theorem Part.fault?_body {octets : Octets} (h : ∀ t, Text.ofUtf8? octets = some t → BodyText.IsWithin room t) :
    (Part.body octets).fault? room = none := by
  rw [fault?, BodyText.ofOctets]
  cases htext : Text.ofUtf8? octets with
  | none => rfl
  | some t => simp only [BodyText.ofText_of_isWithin (h t htext)]

theorem fault?_bind_pure {α β : Type} (x : Except MarkupFault α) (f : α → β) :
    fault? (x >>= fun a => pure (f a)) = fault? x := by
  cases x <;> rfl

namespace Printed

theorem stopped_ofMarkup (x : Except MarkupFault (List Text)) : (ofMarkup x).stopped = (fault? x).map .markup := by
  cases x <;> rfl

/-- What stops two pieces is what stops the first, or else what stops the second. -/
theorem stopped_andThen (first second : Printed) :
    (first.andThen second).stopped = first.stopped.or second.stopped := by
  unfold andThen
  cases h : first.stopped with
  | none => rfl
  | some why => exact h

end Printed

/-- What stops a panel with two texts in markup is the first of them that cannot be shown. -/
theorem stopped_markupPanel (width : Nat) (title text : Text) :
    (Printed.ofMarkup (markupPanel width title text)).stopped = firstFault room [.markup title, .markup text] := by
  have hboth := firstFault_append room [.markup title] [.markup text]
  rw [firstFault_singleton, firstFault_singleton] at hboth
  rw [List.singleton_append] at hboth
  rw [hboth, Printed.stopped_ofMarkup, markupPanel, Part.fault?, Part.fault?]
  cases Markup.plain title with
  | error why => rfl
  | ok shown => exact congrArg (Option.map Unprintable.markup) (fault?_bind_pure (Markup.plain text) _)

/-- What stops a panel with a listing is its title. -/
theorem stopped_listingPanel (width : Nat) (title code : Text) :
    (Printed.ofMarkup (listingPanel width title code)).stopped = firstFault room [.markup title] := by
  rw [firstFault_singleton, Printed.stopped_ofMarkup, Part.fault?]
  exact congrArg (Option.map Unprintable.markup) (fault?_bind_pure (Markup.plain title) _)

namespace Trace

/-- What is in doubt about a panel with a body: the body is made a text before the title is looked at. -/
def bodyParts (title : Text) (body : Octets) : List Part := if body.isEmpty then [] else [.body body, .markup title]

/-- **A panel with a body stops** at the body or at its title; a body that is empty has no panel. -/
theorem stopped_bodyPanel (width : Nat) (title : Text) (body : Octets) :
    (bodyPanel room width title body).stopped = firstFault room (bodyParts title body) := by
  unfold bodyPanel bodyParts
  split
  · rfl
  · have hboth := firstFault_append room [.body body] [.markup title]
    rw [List.singleton_append, firstFault_singleton, Part.fault?] at hboth
    rw [hboth]
    cases BodyText.ofOctets room body with
    | error why => rfl
    | ok t => exact stopped_listingPanel width title t

/-! What is in doubt about a trace of a request, of an answer and of an error. -/

def requestText (method url : Text) : Text := headed "bold cyan" method (" " ++ url)

def requestParts (method url : Text) (body : Octets) : List Part :=
  .markup (requestText method url) :: if body.isEmpty then [] else [.body body]

def responseParts (url : Text) (body : Octets) : List Part :=
  .markup (headed "bold blue" "Response" (" (" ++ url ++ ")")) ::
    bodyParts (headed "bold" "Response Body" (" (URL: " ++ url ++ ")")) body

def errorParts (method url kindName message : Text) : List Part :=
  [.markup (headed "bold red" "Transport error" (" (" ++ method ++ " " ++ url ++ ")")),
    .markup (headed "bold red" kindName (" " ++ message))]

/-- A trace whose panel with a body comes after another panel, with headers between the two. -/
theorem stopped_panels {head body : Printed} {headParts bodyParts : List Part}
    (hhead : head.stopped = firstFault room headParts) (hbody : body.stopped = firstFault room bodyParts)
    (lines : List Text) :
    ((head.andThen (.plain lines)).andThen body).stopped = firstFault room (headParts ++ bodyParts) := by
  rw [firstFault_append, ← hhead, ← hbody, Printed.stopped_andThen, Printed.stopped_andThen, Printed.plain,
    Option.or_none]

/-- **A trace of a request stops** at its method and its address, or else at its body. The titles of the panels
are fixed texts that can always be shown, so that they never come first. -/
theorem stopped_request (room : Room) (width : Nat) (method url : Text) (headers : Headers) (body : Octets) :
    (request room width method url headers body).stopped = firstFault room (requestParts method url body) := by
  have htext : ("[bold cyan]" ++ method ++ "[/bold cyan] " ++ url : Text) = requestText method url := by
    simp [requestText, headed, Text.ofString]
  have htitle : Text.ofString "[bold blue]Request[/bold blue]" = headed "bold blue" "Request" [] := by decide
  have hbody : Text.ofString "[bold]Request Body[/bold]" = headed "bold" "Request Body" [] := by decide
  -- the title of the body is always shown
  have hplain (front : List Part) : firstFault room (front ++ bodyParts (headed "bold" "Request Body" []) body) =
      firstFault room (front ++ if body.isEmpty then [] else [.body body]) := by
    unfold bodyParts
    split
    · rfl
    · have hlast := @firstFault_append_headed room "bold" "Request Body" [] (by decide) (by decide) rfl
        (front ++ [.body body]) []
      rwa [List.append_assoc, List.append_nil] at hlast
  rw [request, htext, htitle, hbody,
    stopped_panels (stopped_markupPanel width _ _) (stopped_bodyPanel width _ body), hplain]
  exact firstFault_append_headed (by decide) (by decide) rfl [] _

/-- **A trace of an answer stops** at its address, or at its body and the address in the title of it. The status
is a number between fixed tags and can always be shown. -/
theorem stopped_response (room : Room) (width : Nat) (url : Text) (status : Int) (headers : Headers) (body : Octets) :
    (response room width url status headers body).stopped = firstFault room (responseParts url body) := by
  have htitle : ("[bold blue]Response[/bold blue] (" ++ url ++ ")" : Text) =
      headed "bold blue" "Response" (" (" ++ url ++ ")") := by
    simp [headed, Text.ofString]
  have hstatus : ("[bold]" ++ Whole.toText status ++ "[/bold]" : Text) =
      headed "bold" (Whole.toText status) [] := by
    simp [headed, Text.ofString]
  have hbody : ("[bold]Response Body[/bold] (URL: " ++ url ++ ")" : Text) =
      headed "bold" "Response Body" (" (URL: " ++ url ++ ")") := by
    simp [headed, Text.ofString]
  have htagless : isTagless (Whole.toText status) := by
    have hnone : CodePoint.ofChar '[' ∉ Whole.toText status := fun hin =>
      absurd (Whole.of_mem_toText hin) (by decide)
    have hnothing : isTagless [] := rfl
    simpa using Markup.isTagless_prepend hnone hnothing
  rw [response, htitle, hstatus, hbody,
    stopped_panels (stopped_markupPanel width _ _) (stopped_bodyPanel width _ body), List.append_assoc]
  -- a status is never in doubt
  exact firstFault_append_headed (by decide) htagless rfl [_] _

/-- **A trace of an error stops** at its method and its address, or else at its message. -/
theorem stopped_error (room : Room) (width : Nat) (method url kindName message : Text) :
    (error width method url kindName message).stopped = firstFault room (errorParts method url kindName message) := by
  have htitle : ("[bold red]Transport error[/bold red] (" ++ method ++ " " ++ url ++ ")" : Text) =
      headed "bold red" "Transport error" (" (" ++ method ++ " " ++ url ++ ")") := by
    simp [headed, Text.ofString]
  have htext : ("[bold red]" ++ kindName ++ "[/bold red] " ++ message : Text) =
      headed "bold red" kindName (" " ++ message) := by
    simp [headed, Text.ofString]
  rw [error, stopped_markupPanel width, htitle, htext, errorParts]

/-! ## Traces that do not stop -/

variable {method url kindName message : Text} {body : Octets}

/-- Neither a tag in the method or the address nor a body without room stops the trace of a request. -/
theorem firstFault_requestParts (hmethod : isTagless method) (hurl : isTagless url)
    (hbody : ∀ t, Text.ofUtf8? body = some t → BodyText.IsWithin room t) :
    firstFault room (requestParts method url body) = none := by
  have hurl : isTagless (" " ++ url) := Markup.isTagless_prepend (by decide) hurl
  refine (firstFault_append_headed (by decide) hmethod hurl [] _).trans ?_
  rw [List.nil_append]
  split
  · rfl
  · exact (firstFault_singleton _).trans (Part.fault?_body hbody)

/-- Nor is a trace of an answer stopped, which shows its address twice, if the address has no tag and there is
room for the body. -/
theorem firstFault_responseParts (hurl : isTagless url)
    (hbody : ∀ t, Text.ofUtf8? body = some t → BodyText.IsWithin room t) :
    firstFault room (responseParts url body) = none := by
  have hend : isTagless (url ++ ")") := Markup.isTagless_append hurl rfl rfl
  have htitle : isTagless (" (" ++ url ++ ")") := by
    rw [List.append_assoc]
    exact Markup.isTagless_prepend (by decide) hend
  have hsecond : isTagless (" (URL: " ++ url ++ ")") := by
    rw [List.append_assoc]
    exact Markup.isTagless_prepend (by decide) hend
  refine (firstFault_append_headed (by decide) (by decide) htitle [] _).trans ?_
  rw [List.nil_append, bodyParts]
  split
  · rfl
  · refine (firstFault_append_headed (by decide) (by decide) hsecond [.body body] []).trans ?_
    exact (firstFault_singleton _).trans (Part.fault?_body hbody)

/-- Nor is a trace of an error, which shows no body, if its kind and its message have no tag either. -/
theorem firstFault_errorParts (hmethod : isTagless method) (hurl : isTagless url) (hkind : isTagless kindName)
    (hmessage : isTagless message) : firstFault room (errorParts method url kindName message) = none := by
  have hend : isTagless (" " ++ (url ++ ")")) :=
    Markup.isTagless_prepend (by decide) (Markup.isTagless_append hurl rfl rfl)
  have htitle : isTagless (" (" ++ method ++ " " ++ url ++ ")") := by
    simp only [List.append_assoc]
    exact Markup.isTagless_prepend (by decide) (Markup.isTagless_append hmethod hend rfl)
  have hmessage : isTagless (" " ++ message) := Markup.isTagless_prepend (by decide) hmessage
  refine (firstFault_append_headed (by decide) (by decide) htitle [] _).trans ?_
  exact firstFault_append_headed (by decide) hkind hmessage [] []

end Trace

end ClusterClient.Console
