import ClusterClient.Text.Ranges

/-!
# Blank space

Two classes of blanks: the white space of the Unicode standard together with the four ASCII
separators, which trimming takes away, and the six ASCII blanks that a number may be surrounded by.
-/

namespace ClusterClient

namespace CodePoint

/-- White space of all scripts, with the ASCII separators 0x1C to 0x1F. -/
def blankRanges : Ranges :=
  [(0x9, 0xD), (0x1C, 0x20), (0x85, 0x85), (0xA0, 0xA0), (0x1680, 0x1680), (0x2000, 0x200A), (0x2028, 0x2029),
   (0x202F, 0x202F), (0x205F, 0x205F), (0x3000, 0x3000)]

def isBlank (c : CodePoint) : Bool := blankRanges.contains c

/-- Tab, line feed, vertical tab, form feed, carriage return and space. -/
def isAsciiBlank (c : CodePoint) : Bool := (0x09 ≤ c.val && c.val ≤ 0x0D) || c.val == 0x20

/-- The blanks of ASCII are blanks. -/
theorem isBlank_of_isAsciiBlank {c : CodePoint} (h : c.isAsciiBlank = true) : c.isBlank = true := by
  simp only [isAsciiBlank, Bool.or_eq_true, Bool.and_eq_true, decide_eq_true_eq, beq_iff_eq] at h
  rcases h with h | h
  · exact Ranges.contains_iff.2 ⟨(0x9, 0xD), by simp [blankRanges], h⟩
  · exact Ranges.contains_iff.2 ⟨(0x1C, 0x20), by simp [blankRanges], by omega⟩

end CodePoint

/-- A text without leading and trailing blanks. -/
def Text.strip (t : Text) : Text := t.stripBy CodePoint.isBlank

/-- The parts of a text between its blanks. -/
def Text.words (t : Text) : List Text :=
  (Text.splitOn ' ' (List.map (fun c => if c.isBlank then CodePoint.ofChar ' ' else c) t)).filter fun part =>
    !part.isEmpty

/-- The text with one line feed for each line end; a carriage return right before a line feed is part of
the line end. -/
def Text.unifyLineEnds (t : Text) : Text :=
  (List.zip t (0 :: t)).filterMap fun (c, before) =>
    if c = '\n' && before = CodePoint.ofChar '\r' then none
    else if c = '\r' then some (CodePoint.ofChar '\n')
    else some c

/-- Whether a text holds nothing but blanks. -/
def Text.isBlank (t : Text) : Bool := t.all CodePoint.isBlank

end ClusterClient
