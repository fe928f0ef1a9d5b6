import LlamaGateway.Text.Basic
import LlamaGateway.Text.Bytes
import LlamaGateway.Url.Domain

/-!
# Hosts

The host of an address is a domain name, an address of version 4 or 6, or, in addresses that are no
web addresses, any text without separators. Characters that may not stand in a part of an address
are written as the bytes of their UTF-8 form, each as a percent sign and two upper-case hexadecimal
digits. A percent sign itself stays.
-/

namespace LlamaGateway

namespace Url

/-- Controls and everything beyond ASCII. -/
def encodesControl (c : Char) : Bool :=
  c.toNat < 0x20 || 0x7E < c.toNat

/-- What is encoded in a fragment. -/
def encodesInFragment (c : Char) : Bool :=
  encodesControl c || [' ', '"', '<', '>', (Char.ofNat 0x60)].contains c

/-- What is encoded in a query. -/
def encodesInQuery (c : Char) : Bool :=
  encodesControl c || [' ', '"', '#', '<', '>'].contains c

/-- What is encoded in the query of a web address. -/
def encodesInWebQuery (c : Char) : Bool :=
  encodesInQuery c || c = '\''

/-- What is encoded in a path. -/
def encodesInPath (c : Char) : Bool :=
  encodesInFragment c || ['#', '?', '\x7b', '\x7d'].contains c

/-- What is encoded in a user name or password. -/
def encodesInUserInfo (c : Char) : Bool :=
  encodesInPath c || ['/', ':', ';', '=', '@', '[', '\\', ']', '^', '|'].contains c

/-- A byte as a percent sign and two digits. -/
def percentByte (byte : UInt8) : List Char :=
  ['%', Text.upperHexDigit (byte.toNat / 16), Text.upperHexDigit (byte.toNat % 16)]

/-- A text with the characters of a class encoded. -/
def percentEncode (encodes : Char → Bool) (text : List Char) : List Char :=
  text.flatMap fun c => if encodes c then (Utf8.encodeChar c).flatMap percentByte else [c]

/-- The bytes of a text, with each percent sign and two digits read as one byte. -/
def percentDecode : List Char → List UInt8
  | '%' :: high :: low :: rest =>
    match Text.hexValue? high, Text.hexValue? low with
    | some high, some low => UInt8.ofNat (high * 16 + low) :: percentDecode rest
    | _, _ => Utf8.encodeChar '%' ++ percentDecode (high :: low :: rest)
  | c :: rest => Utf8.encodeChar c ++ percentDecode rest
  | [] => []

/-- A number in decimal, or in octal or hexadecimal if it starts with `0` or `0x`. -/
def hostNumber? : List Char → Option Nat
  | [] => none
  | '0' :: 'x' :: digits | '0' :: 'X' :: digits => Text.digitsValue? 16 digits
  | '0' :: digit :: digits => Text.digitsValue? 8 (digit :: digits)
  | digits => Text.digitsValue? 10 digits

/-- The parts of a name between dots; a dot at its end does not count. -/
def hostParts (name : List Char) : List (List Char) :=
  let parts := Text.splitOn '.' name
  if parts.length ≠ 1 ∧ parts.getLast? = some [] then parts.dropLast else parts

/-- The last part of a name is a number, so the name has to be an address. -/
def endsInNumber (name : List Char) : Bool :=
  match (hostParts name).getLast? with
  | some part => (!part.isEmpty && part.all Char.isDigit) || (hostNumber? part).isSome
  | none => false

/-- The value of an address of version 4; the last of its parts fills the bytes that are left. -/
def addressValue? (parts : List Nat) : Option Nat :=
  match parts.reverse with
  | [] => none
  | last :: before =>
    if parts.length ≤ 4 ∧ before.all (· ≤ 255) ∧ last < Nat.pow 256 (5 - parts.length) then
      some (before.reverse.foldl (fun value part => value * 256 + part) 0 *
        Nat.pow 256 (5 - parts.length) + last)
    else none

/-- The text of an address of version 4. -/
def addressText (value : Nat) : List Char :=
  let byte (shift : Nat) := Nat.toDigits 10 (value / Nat.pow 256 shift % 256)
  Text.joinWith ['.'] [byte 3, byte 2, byte 1, byte 0]

/-- The text of the address of version 4 that a name is. -/
def address? (name : List Char) : Option (List Char) := do
  let parts ← (hostParts name).mapM hostNumber?
  let value ← addressValue? parts
  return addressText value

/-- A piece of an address of version 6. -/
def piece? (digits : List Char) : Option Nat :=
  if digits.isEmpty ∨ 4 < digits.length then none else Text.digitsValue? 16 digits

/-- The two pieces of an address of version 4 at the end of one of version 6. -/
def dottedPieces? (text : List Char) : Option (List Nat) := do
  let parts ← (Text.splitOn '.' text).mapM fun part =>
    if part.isEmpty ∨ 3 < part.length ∨ (1 < part.length ∧ part.head? = some '0') then none
    else (Text.digitsValue? 10 part).filter (· ≤ 255)
  match parts with
  | [a, b, c, d] => some [a * 256 + b, c * 256 + d]
  | _ => none

/-- The pieces of a text between colons; the last one may be an address of version 4. -/
def pieces? (text : List Char) : Option (List Nat) :=
  if text.isEmpty then some []
  else
    let parts := Text.splitOn ':' text
    match parts.getLast? with
    | some last =>
      if last.contains '.' then do
        let lead ← parts.dropLast.mapM piece?
        let tail ← dottedPieces? last
        return lead ++ tail
      else parts.mapM piece?
    | none => none

/-- The eight pieces of an address of version 6. Two colons stand for at least one zero. -/
def sixPieces? (text : List Char) : Option (List Nat) :=
  match Text.breakOn? [':', ':'] text with
  | none => (pieces? text).filter fun pieces => pieces.length = 8
  | some (before, after) => do
    let lead ← pieces? before
    let tail ← pieces? after
    if lead.length + tail.length ≤ 7 ∧ ¬ before.contains '.' then
      some (lead ++ List.replicate (8 - lead.length - tail.length) 0 ++ tail)
    else none

/-- The number of zeros at the start of a list. -/
def zeroRun (pieces : List Nat) : Nat :=
  (pieces.takeWhile (· = 0)).length

/-- Position and length of the first longest run of zeros. -/
def longestZeroRun (position : Nat) : List Nat → Nat × Nat
  | [] => (position, 0)
  | piece :: rest =>
    let run := zeroRun (piece :: rest)
    let later := longestZeroRun (position + 1) rest
    if later.2 ≤ run then (position, run) else later

/-- The text of pieces between colons. -/
def piecesText (pieces : List Nat) : List Char :=
  Text.joinWith [':'] (pieces.map (Nat.toDigits 16))

/-- The text of an address of version 6; the first longest run of zeros is left out. -/
def sixText (pieces : List Nat) : List Char :=
  let (position, run) := longestZeroRun 0 pieces
  if run < 2 then '[' :: piecesText pieces ++ [']']
  else '[' :: piecesText (pieces.take position) ++ [':', ':'] ++
    piecesText (pieces.drop (position + run)) ++ [']']

/-- The host of a web address. -/
def webHost? (text : List Char) : Option (List Char) := do
  let name ← Utf8.decode? (percentDecode text)
  let ascii ← domainToAscii? name
  if ascii.isEmpty then none
  else if endsInNumber ascii then address? ascii
  else some ascii

/-- Characters that no host may hold. -/
def isForbiddenInHost (c : Char) : Bool :=
  c.toNat = 0 || c = '\t' || c = '\n' || c = '\r' ||
    [' ', '#', '/', ':', '<', '>', '?', '@', '[', '\\', ']', '^', '|'].contains c

/-- The host of an address that is no web address. -/
def otherHost? (text : List Char) : Option (List Char) :=
  if text.any isForbiddenInHost then none else some (percentEncode encodesControl text)

/-- The host that a text names. -/
def host? (isWeb : Bool) (text : List Char) : Option (List Char) :=
  match text with
  | '[' :: rest =>
    match Text.dropSuffix? [']'] rest with
    | some inside => (sixPieces? inside).map sixText
    | none => none
  | _ => if isWeb then webHost? text else otherHost? text

end Url

end LlamaGateway
