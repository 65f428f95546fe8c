import ClusterClient.Console.Markup
import ClusterClient.Console.Wrap

/-!
# Panels

A panel is a box around some lines, with a title in its upper border. Box and title are as wide as the
console; a title that is too long is cut, and there is no room for one below five cells.
-/

namespace ClusterClient.Console

/-- So many dashes of a border. -/
def dashes (n : Nat) : Text := List.replicate n (CodePoint.ofChar '─')

/-- The title of a panel in one line, with a space on either side. -/
def titleLine (title : Text) : Text :=
  let oneLine := List.map (fun c => if c = CodePoint.ofChar '\n' then CodePoint.ofChar ' ' else c) title
  " " ++ expandTabs 8 cells oneLine ++ " "

/-- The upper border. The title stands in the middle; of an odd number of dashes, the right side gets
one more. -/
def topBorder (width : Nat) (title : Text) : Text :=
  -- two corners and a dash beside each of them are all there is
  if width ≤ 4 then "╭" ++ dashes (width - 2) ++ "╮"
  else
    let shown := crop (width - 4) (titleLine title)
    let spare := width - 4 - cells shown
    "╭─" ++ fitLine (width - 4) (dashes (spare / 2) ++ shown ++ dashes (spare - spare / 2)) ++ "─╮"

/-- The lower border. -/
def bottomBorder (width : Nat) : Text := "╰" ++ dashes (width - 2) ++ "╯"

/-- One line inside the box. -/
def boxedLine (width : Nat) (line : Text) : Text := "│ " ++ pad (width - 4) line ++ " │"

/-- A box around lines that fit into it. -/
def box (width : Nat) (title : Text) (inside : List Text) : List Text :=
  topBorder width title :: inside.map (boxedLine width) ++ [bottomBorder width]

/-- A panel around a text in markup, wrapped. -/
def markupPanel (width : Nat) (title text : Text) : Except MarkupFault (List Text) := do
  let title ← Markup.plain title
  let text ← Markup.plain text
  return box width title (wrap (width - 4) text)

/-- A text without the byte order mark in front of it. -/
def dropByteOrderMark (t : Text) : Text := if t.head? = some 0xFEFF then t.tail else t

/-- The text of a code listing that ends with a line feed: line ends are made uniform, tabs are expanded,
a byte order mark in front and control code points are left out. -/
def completeListing (code : Text) : Text :=
  let expanded := Text.join "\n" ((lines (Text.unifyLineEnds code)).map (expandTabs 4 List.length))
  (dropByteOrderMark expanded).filter fun c => !Markup.isLeftOut c

/-- The text of a code listing. A last line without an end is listed as if it had one. -/
def listing (code : Text) : Text :=
  if code.getLast? = some (CodePoint.ofChar '\n') then completeListing code
  else (completeListing (code ++ "\n")).dropLast

/-- A panel around a code listing, whose lines are cut rather than wrapped. -/
def listingPanel (width : Nat) (title code : Text) : Except MarkupFault (List Text) := do
  let title ← Markup.plain title
  return box width title ((lines (listing code)).map (fitLine (width - 4)))

end ClusterClient.Console
