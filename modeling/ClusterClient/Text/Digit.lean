import ClusterClient.Text.Basic

/-!
# Decimal digits of all scripts

Each script keeps its ten decimal digits in one run of code points, zero first, so the zeros alone
describe the class (`decimalValue?_lt`).
-/

namespace ClusterClient.CodePoint

/-- The digit zero of each script that has decimal digits. -/
def zeros : List Nat :=
  [0x30, 0x660, 0x6F0, 0x7C0, 0x966, 0x9E6, 0xA66, 0xAE6, 0xB66, 0xBE6,
   0xC66, 0xCE6, 0xD66, 0xDE6, 0xE50, 0xED0, 0xF20, 0x1040, 0x1090, 0x17E0,
   0x1810, 0x1946, 0x19D0, 0x1A80, 0x1A90, 0x1B50, 0x1BB0, 0x1C40, 0x1C50, 0xA620,
   0xA8D0, 0xA900, 0xA9D0, 0xA9F0, 0xAA50, 0xABF0, 0xFF10, 0x104A0, 0x10D30, 0x11066,
   0x110F0, 0x11136, 0x111D0, 0x112F0, 0x11450, 0x114D0, 0x11650, 0x116C0, 0x11730, 0x118E0,
   0x11950, 0x11C50, 0x11D50, 0x11DA0, 0x16A60, 0x16AC0, 0x16B50, 0x1D7CE, 0x1D7D8, 0x1D7E2,
   0x1D7EC, 0x1D7F6, 0x1E140, 0x1E2F0, 0x1E950, 0x1FBF0]

/-- The value of a decimal digit of any script. -/
def decimalValue? (c : CodePoint) : Option Nat :=
  if c.isAscii then if c.isAsciiDigit then some (c.val - 0x30) else none
  else (zeros.find? fun low => low ≤ c.val && c.val < low + 10).map fun low => c.val - low

/-- The value of a digit is below ten, in every script. -/
theorem decimalValue?_lt {c : CodePoint} {d : Nat} (h : c.decimalValue? = some d) : d < 10 := by
  unfold decimalValue? at h
  split at h
  · split at h
    · next hd =>
      simp only [isAsciiDigit, Bool.and_eq_true, decide_eq_true_eq] at hd
      simp only [Option.some.injEq] at h
      omega
    · simp at h
  · obtain ⟨low, hl, rfl⟩ := Option.map_eq_some_iff.1 h
    have := List.find?_some hl
    simp only [Bool.and_eq_true, decide_eq_true_eq] at this
    omega

end ClusterClient.CodePoint
