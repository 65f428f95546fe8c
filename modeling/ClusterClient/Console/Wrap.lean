import ClusterClient.Console.Cells
import ClusterClient.Text.Blank

/-!
# Wrapping

A line that is too long is broken between words. A word takes the blanks around it along, but blanks at
the end of a line need no room. A word that fits on no line is broken wherever a line is full.
-/

namespace ClusterClient.Console

/-- The lines of a text, without their ends. -/
def lines (t : Text) : List Text := t.splitOn '\n'

/-- The tabs of a line become spaces up to the next multiple of `width`, where `measure` says how far a
text without tabs reaches. -/
def expandTabs (width : Nat) (measure : Text → Nat) (line : Text) : Text :=
  let parts := line.splitOn '\t'
  let (done, _) := parts.dropLast.foldl (fun (done, column) part =>
    let reached := column + measure part
    -- a tab at a multiple of the width takes a whole width
    let spaces := width - reached % width
    ((part ++ List.replicate spaces (CodePoint.ofChar ' ')) :: done, reached + spaces))
    (([] : List Text), 0)
  done.reverse.flatten ++ parts.getLast?.getD []

/-- Whether a text begins with a blank. -/
def beginsBlank (t : Text) : Bool := (t.head?.map CodePoint.isBlank).getD false

/-- A code point in front of the words of the text that follows it. Blanks stand at the end of a word;
those in front of all words are kept as one of their own. -/
def prependToWords (c : CodePoint) : List Text → List Text
  | [] => [[c]]
  | word :: more =>
    -- a blank in front of a word does not belong to it, but to whatever stands before
    if c.isBlank && !beginsBlank word then [c] :: word :: more else (c :: word) :: more

/-- The words of a line. Blanks in front of it belong to its first word, and any other blanks to the word
before them; a line of blanks has no words. -/
def words (t : Text) : List Text :=
  match t.foldr prependToWords [] with
  | [] => []
  | word :: more =>
    if beginsBlank word then
      match more with
      | [] => []
      | next :: rest => (word ++ next) :: rest
    else word :: more

/-- Pieces of a word, each as long as a line allows. -/
def chop (width : Nat) (word : Text) : List Text :=
  let (done, last, _) := (clusters word).foldl (fun (done, last, used) k =>
    if width < used + k.size then (last.reverse :: done, k.reversed, k.size)
    else (done, k.reversed ++ last, used + k.size))
    (([] : List Text), ([] : Text), 0)
  (last.reverse :: done).reverse

/-- Lines under way: the finished ones in reverse, the pieces of the last one in reverse, and the cells
that count against its room. -/
structure Wrapping where
  done : List Text
  last : List Text
  used : Nat

/-- The finished lines when a new line begins. Nothing is finished in front of the whole text. -/
def Wrapping.break (w : Wrapping) : List Text :=
  if w.done.isEmpty && w.last.flatten.isEmpty then [] else w.last.reverse.flatten :: w.done

/-- Takes up one more word. -/
def Wrapping.add (width : Nat) (w : Wrapping) (word : Text) : Wrapping :=
  let size := cells (word.stripRightBy CodePoint.isBlank)
  -- blanks at the end of a line need no room, but count once another word follows
  if w.used + size ≤ width then ⟨w.done, word :: w.last, w.used + cells word⟩
  else if width < size then
    (chop width word).foldl (fun w piece => ⟨w.break, [piece], cells piece⟩) w
  else if w.used = 0 then ⟨w.done, word :: w.last, w.used⟩
  else ⟨w.break, [word], cells word⟩

/-- A line without the blanks at its end that are too much for so many code points. -/
def dropExcessBlanks (width : Nat) (t : Text) : Text :=
  let blanks := (t.reverse.takeWhile CodePoint.isBlank).length
  t.take (t.length - min blanks (t.length - width))

/-- A line, cut to its room. -/
def fitLine (width : Nat) (t : Text) : Text := crop width (dropExcessBlanks width t)

/-- A line as lines that fit. -/
def wrapLine (width : Nat) (t : Text) : List Text :=
  let ws := words t
  if ws.isEmpty then [fitLine width t]
  else ((ws.foldl (Wrapping.add width) ⟨[], [], 0⟩).break.reverse).map (fitLine width)

/-- A text as lines that fit. -/
def wrap (width : Nat) (t : Text) : List Text :=
  (lines t).flatMap fun line => wrapLine width (expandTabs 8 cells line)

end ClusterClient.Console
