import ClusterClient.Percent
import ClusterClient.Url.Basic
import ClusterClient.Url.Domain

/-!
# Hosts

A host is an IPv4 address, an IPv6 address between brackets, an ASCII name, or an internationalised
name. Addresses are checked and kept as written; names are put into lower case, and a name beyond ASCII
into its ASCII form.
-/

namespace ClusterClient.Host

/-! ## IPv4 -/

/-- A run of one to three digits without a leading zero, at most 255. -/
def isOctet (t : Text) : Bool :=
  !t.isEmpty && t.all CodePoint.isAsciiDigit && t.length ≤ 3 &&
    (t.length = 1 || t.head? ≠ some (CodePoint.ofChar '0')) &&
    Numeral.ofDigits (t.map fun c => c.val - 0x30) ≤ 255

/-- Four octets between full stops. -/
def isIPv4 (t : Text) : Bool :=
  let parts := t.splitOn '.'
  parts.length = 4 && parts.all isOctet

/-- Whether a host has the shape of an IPv4 address: four runs of digits between full stops. -/
def looksLikeIPv4 (t : Text) : Bool :=
  let parts := t.splitOn '.'
  parts.length = 4 && parts.all fun part => !part.isEmpty && part.all CodePoint.isAsciiDigit

/-! ## IPv6 -/

/-- One to four hexadecimal digits. -/
def isGroup (t : Text) : Bool :=
  !t.isEmpty && t.length ≤ 4 && t.all fun c => c.hexValue?.isSome

/-- The groups of an address, an IPv4 address at the end counted as two groups; `none` if that address
is none. -/
def groups? (t : Text) : Option (List Text) :=
  let parts := t.splitOn ':'
  match parts.getLast? with
  | none => none
  | some last =>
    if last.contains (CodePoint.ofChar '.') then
      if 3 ≤ parts.length && isIPv4 last then some (parts.dropLast ++ [Text.ofString "0", Text.ofString "0"]) else none
    else if 3 ≤ parts.length then some parts else none

/-- Whether the groups are eight, or fewer around one gap. An empty group at an end belongs to a gap
there. -/
def areGroups (parts : List Text) : Bool :=
  if 9 < parts.length then false
  else
    -- an empty group at either end is no gap by itself
    let gaps := ((parts.drop 1).dropLast).filter List.isEmpty
    match gaps with
    | [] => parts.length = 8 && parts.all isGroup
    | [_] =>
      let before := parts.take 1 ++ ((parts.drop 1).takeWhile fun part => !part.isEmpty)
      let after := parts.drop (before.length + 1)
      let before := if before = [[]] then [] else before
      let after := if after = [[]] then [] else after
      before.all isGroup && after.all isGroup && before.length + after.length ≤ 7
    | _ => false

/-- An IPv6 address, with a zone after a percent sign if it has one. -/
def isIPv6 (t : Text) : Bool :=
  match t.breakAt (· = CodePoint.ofChar '%') with
  | (address, []) => !address.isEmpty && ((groups? address).map areGroups).getD false
  | (address, _ :: zone) =>
    !zone.isEmpty && !zone.contains (CodePoint.ofChar '%') && !address.isEmpty &&
      ((groups? address).map areGroups).getD false

/-! ## Names -/

/-- What a host name keeps: the sub-delimiters and what is commonly found in host names. -/
def isKept (c : CodePoint) : Bool :=
  Percent.isUnreserved c || (Text.ofString "!$&'()*+,;=\"`\x7b\x7d%|\\").contains c

/-- The form in which a written host is kept. -/
def normalize (host : Text) : Except UrlFault Text :=
  if host.isEmpty then .ok []
  -- only digits and ASCII full stops make a host look like four numbers, other full stops do not
  else if looksLikeIPv4 host then if isIPv4 host then .ok host else .error (.ipv4 host)
  else if host.head? = some (CodePoint.ofChar '[') && host.getLast? = some (CodePoint.ofChar ']') then
    let inside := host.tail.dropLast
    if isIPv6 inside then .ok inside else .error (.ipv6 host)
  -- an ASCII name is not checked, even if it begins like an encoded one
  else if host.isAscii then .ok (host.toAsciiLower.flatMap (Percent.protect isKept))
  else
    match Domain.encode host.toLower with
    | .ok encoded => .ok encoded
    | .error _ => .error (.hostname host)

/-- The host as a reader knows it: a name that begins with an encoded label is decoded. -/
def shown (host : Text) : Except DomainFault Text :=
  -- only the first label decides whether the name is decoded
  if Domain.encodedStart.isPrefixOf host then Domain.decode host else .ok host

end ClusterClient.Host
