import ClusterClient.Json.Reader

/-!
# The tokens of a document

A document is one sequence of tokens. It is read from them wherever a value may stand, as long as no container with
items is deeper than the dialect admits; it takes its place in the innermost container that is open.

## The architecture

* **`Json.tokens`**, **`Json.height`**: what a document is written with, and how deep its containers are.
* **`Reader.run?_tokens`**: one value is one place filled, by induction on the document; `run?_moreItems` and
  `run?_moreMembers` are the rest of a container.
* **`Json.ofTokens?_tokens`**: a document is read from its tokens.
-/

namespace ClusterClient.Json

/-! ## Documents as tokens -/

mutual

/-- The tokens of a document. -/
def tokens : Json → List Token
  | null => [.null]
  | flag b => [.flag b]
  | whole n => [.whole n]
  | real x => [.real x]
  | text t => [.text t]
  | list [] => [.openList, .closeList]
  | list (item :: rest) => .openList :: (item.tokens ++ (moreItems rest ++ [.closeList]))
  | object [] => [.openObject, .closeObject]
  | object ((name, value) :: rest) =>
    .openObject :: .text name :: .colon :: (value.tokens ++ (moreMembers rest ++ [.closeObject]))

/-- The items behind the first one. -/
def moreItems : List Json → List Token
  | [] => []
  | item :: rest => .comma :: (item.tokens ++ moreItems rest)

/-- The members behind the first one. -/
def moreMembers : List (Text × Json) → List Token
  | [] => []
  | (name, value) :: rest => .comma :: .text name :: .colon :: (value.tokens ++ moreMembers rest)

end

mutual

/-- How many containers with items stand inside each other. -/
def height : Json → Nat
  | list items => heightOfItems items
  | object members => heightOfMembers members
  | _ => 0

def heightOfItems : List Json → Nat
  | [] => 0
  | item :: rest => max (item.height + 1) (heightOfItems rest)

def heightOfMembers : List (Text × Json) → Nat
  | [] => 0
  | (_, value) :: rest => max (value.height + 1) (heightOfMembers rest)

end

/-! ## Reading them -/

/-- The dialect admits containers with items down to this depth. -/
def Dialect.Admits (dialect : Dialect) (depth : Nat) : Prop := ∀ limit ∈ dialect.maxDepth, depth ≤ limit

theorem Dialect.Admits.mono {dialect : Dialect} {m n : Nat} (h : dialect.Admits n) (hle : m ≤ n) :
    dialect.Admits m := fun limit hlimit => Nat.le_trans hle (h limit hlimit)

namespace Reader

variable {dialect : Dialect}

theorem mayHold_of_admits {depth : Nat} (h : dialect.Admits depth) : mayHold dialect depth = true := by
  unfold mayHold
  cases hlimit : dialect.maxDepth with
  | none => rfl
  | some limit => exact decide_eq_true (h limit hlimit)

theorem run?_cons {token : Token} {rest : List Token} {reader next : Reader}
    (h : step? dialect token reader = some next) : run? dialect (token :: rest) reader = run? dialect rest next := by
  rw [run?, h]

/-- A value begins where it may. -/
theorem step?_of_beginValue {first : Bool} {frames : List Frame} {token : Token} {next : Reader}
    (hfirst : first = true → dialect.Admits frames.length) (hbegin : beginValue? frames token = some next) :
    step? dialect token ⟨frames, .value first⟩ = some next := by
  have hvalue : (if first && !mayHold dialect frames.length then none else beginValue? frames token) = some next := by
    cases first with
    | false => exact hbegin
    | true => rwa [mayHold_of_admits (hfirst rfl)]
  -- the end of a list is the one token that has another meaning here
  cases token with
  | closeList => cases hbegin
  | _ => cases first <;> exact hvalue

/-- A value may begin wherever one is expected. Where it is the first of a list it may stand only at a depth
that is admitted. -/
theorem run?_value {first : Bool} {frames : List Frame} {token : Token} {rest : List Token} {next : Reader}
    (hfirst : first = true → dialect.Admits frames.length) (hbegin : beginValue? frames token = some next) :
    run? dialect (token :: rest) ⟨frames, .value first⟩ = run? dialect rest next :=
  run?_cons (step?_of_beginValue hfirst hbegin)

/-- A name stands where it may. -/
theorem step?_name {first : Bool} {frames : List Frame} {members : List (Text × Json)} {name : Text}
    (hfirst : first = true → dialect.Admits (frames.length + 1)) :
    step? dialect (.text name) ⟨frames, .name first members⟩ = some ⟨frames, .colon members name⟩ := by
  cases first with
  | false => rfl
  | true => simp [step?, mayHold_of_admits (hfirst rfl)]

/-- A name and its colon open a place in an object. -/
theorem run?_name {first : Bool} {frames : List Frame} {members : List (Text × Json)} {name : Text} {rest : List Token}
    (hfirst : first = true → dialect.Admits (frames.length + 1)) :
    run? dialect (.text name :: .colon :: rest) ⟨frames, .name first members⟩ =
      run? dialect rest ⟨.object members name :: frames, .value false⟩ := by
  rw [run?_cons (step?_name hfirst)]
  exact run?_cons rfl

mutual

/-- **The tokens of a value fill one place**, whatever follows them. The recursion is that of the document: a
container opens a place for each of its parts, and takes its own place when it is closed. The depth that the
dialect admits has to suffice for all of it. -/
theorem run?_tokens (document : Json) (first : Bool) (frames : List Frame) (rest : List Token)
    (hfirst : first = true → dialect.Admits frames.length) (hdepth : dialect.Admits (frames.length + document.height)) :
    run? dialect (document.tokens ++ rest) ⟨frames, .value first⟩ = run? dialect rest (place document frames) := by
  match document with
  | .null => exact run?_value hfirst rfl
  | .flag b => exact run?_value hfirst rfl
  | .whole n => exact run?_value hfirst rfl
  | .real x => exact run?_value hfirst rfl
  | .text t => exact run?_value hfirst rfl
  | .list [] => exact (run?_value hfirst rfl).trans (run?_cons rfl)
  | .list (item :: items) =>
    simp only [height, heightOfItems] at hdepth
    simp only [tokens, List.cons_append, List.append_assoc]
    rw [run?_value hfirst rfl, run?_tokens item true (.list [] :: frames) _
      (fun _ => hdepth.mono (by rw [List.length_cons]; omega)) (hdepth.mono (by rw [List.length_cons]; omega))]
    exact run?_moreItems items [item] frames rest (hdepth.mono (by omega))
  | .object [] => exact (run?_value hfirst rfl).trans (run?_cons rfl)
  | .object ((name, value) :: members) =>
    simp only [height, heightOfMembers] at hdepth
    simp only [tokens, List.cons_append, List.append_assoc]
    rw [run?_value hfirst rfl, run?_name (fun _ => hdepth.mono (by omega)),
      run?_tokens value false (.object [] name :: frames) _ nofun (hdepth.mono (by rw [List.length_cons]; omega))]
    exact run?_moreMembers members [(name, value)] name frames rest (hdepth.mono (by omega))

/-- The rest of a list, to its end: the items that were read are kept in reverse, and turned around when the
list is closed. -/
theorem run?_moreItems (items done : List Json) (frames : List Frame) (rest : List Token)
    (hdepth : dialect.Admits (frames.length + heightOfItems items)) :
    run? dialect (moreItems items ++ ([.closeList] ++ rest)) ⟨.list done :: frames, .more⟩ =
      run? dialect rest (place (.list (done.reverse ++ items)) frames) := by
  match items with
  | [] =>
    rw [List.append_nil]
    exact run?_cons rfl
  | item :: items =>
    simp only [heightOfItems] at hdepth
    have hcomma : step? dialect .comma ⟨.list done :: frames, .more⟩ = some ⟨.list done :: frames, .value false⟩ := rfl
    simp only [moreItems, List.cons_append, List.append_assoc]
    rw [run?_cons hcomma, run?_tokens item false (.list done :: frames) _ nofun
      (hdepth.mono (by rw [List.length_cons]; omega))]
    have hrest := run?_moreItems items (item :: done) frames rest (hdepth.mono (by omega))
    rw [List.reverse_cons, List.append_assoc] at hrest
    exact hrest

/-- The rest of an object, to its end: as for a list, with a name and a colon in front of each value. The name
is kept with the object while its value is read, and the depth of the value is counted from inside the object.
-/
theorem run?_moreMembers (members done : List (Text × Json)) (name : Text) (frames : List Frame)
    (rest : List Token) (hdepth : dialect.Admits (frames.length + heightOfMembers members)) :
    run? dialect (moreMembers members ++ ([.closeObject] ++ rest)) ⟨.object done name :: frames, .more⟩ =
      run? dialect rest (place (.object (done.reverse ++ members)) frames) := by
  match members with
  | [] =>
    rw [List.append_nil]
    exact run?_cons rfl
  | (next, value) :: members =>
    simp only [heightOfMembers] at hdepth
    have hcomma : step? dialect .comma ⟨.object done name :: frames, .more⟩ = some ⟨frames, .name false done⟩ := rfl
    simp only [moreMembers, List.cons_append, List.append_assoc]
    rw [run?_cons hcomma, run?_name (fun h => by cases h), run?_tokens value false (.object done next :: frames) _ nofun
      (hdepth.mono (by rw [List.length_cons]; omega))]
    have hrest := run?_moreMembers members ((next, value) :: done) next frames rest (hdepth.mono (by omega))
    rw [List.reverse_cons, List.append_assoc] at hrest
    exact hrest

end

end Reader

/-- **A document is read from its tokens** if none of its containers is too deep. -/
theorem ofTokens?_tokens {dialect : Dialect} {document : Json} (h : dialect.Admits document.height) :
    ofTokens? dialect document.tokens = some document := by
  have hrun := Reader.run?_tokens document false [] [] nofun (by simpa using h)
  rw [List.append_nil] at hrun
  rw [ofTokens?, Reader.start, hrun]
  rfl

end ClusterClient.Json
