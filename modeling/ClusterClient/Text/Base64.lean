import ClusterClient.Text.Utf8

/-!
# Base64

Three octets become four letters of six bits each; a shorter last group is padded. `decode?` reads
exactly the padded form.
-/

namespace ClusterClient.Base64

/-- The letter for six bits. -/
def letter (n : Nat) : CodePoint :=
  if n < 26 then CodePoint.ofNat (0x41 + n)
  else if n < 52 then CodePoint.ofNat (0x61 + (n - 26))
  else if n < 62 then CodePoint.ofNat (0x30 + (n - 52))
  else if n = 62 then '+' else '/'

/-- The six bits of a letter. -/
def sixBits? (c : CodePoint) : Option Nat :=
  if c.isAsciiUpper then some (c.val - 0x41)
  else if c.isAsciiLower then some (c.val - 0x61 + 26)
  else if c.isAsciiDigit then some (c.val - 0x30 + 52)
  else if c = '+' then some 62
  else if c = '/' then some 63
  else none

/-- The padded form. -/
def encode : Octets → Text
  | [] => []
  | [a] =>
    let n := a.toNat * 0x10000
    [letter (n / 0x40000), letter (n / 0x1000 % 0x40), '=', '=']
  | [a, b] =>
    let n := a.toNat * 0x10000 + b.toNat * 0x100
    [letter (n / 0x40000), letter (n / 0x1000 % 0x40), letter (n / 0x40 % 0x40), '=']
  | a :: b :: c :: rest =>
    let n := a.toNat * 0x10000 + b.toNat * 0x100 + c.toNat
    letter (n / 0x40000) :: letter (n / 0x1000 % 0x40) :: letter (n / 0x40 % 0x40) ::
      letter (n % 0x40) :: encode rest

/-- Reads the padded form back. -/
def decode? : Text → Option Octets
  | [] => some []
  | p :: q :: r :: s :: rest => do
    let i ← sixBits? p
    let j ← sixBits? q
    if s = '=' && rest.isEmpty then
      if r = '=' then
        if j % 0x10 = 0 then some [((i * 0x40 + j) / 0x10).toUInt8] else none
      else
        let k ← sixBits? r
        let n := (i * 0x40 + j) * 0x40 + k
        if k % 4 = 0 then some [(n / 0x400).toUInt8, (n / 4 % 0x100).toUInt8] else none
    else
      let k ← sixBits? r
      let l ← sixBits? s
      let n := ((i * 0x40 + j) * 0x40 + k) * 0x40 + l
      let tail ← decode? rest
      some ((n / 0x10000).toUInt8 :: (n / 0x100 % 0x100).toUInt8 :: (n % 0x100).toUInt8 :: tail)
  | _ => none

/-- Each letter is read as the six bits that it is written for. -/
theorem sixBits?_letter {n : Nat} (h : n < 64) : sixBits? (letter n) = some n := by
  have all : ∀ m ∈ List.range 64, sixBits? (letter m) = some m := by decide
  exact all n (List.mem_range.2 h)

end ClusterClient.Base64
