/-!
# Texts and bytes

UTF-8 is read by a machine that takes one byte at a time and refuses a byte as soon as no
well-formed text goes on with it. Three readings build on it: all or nothing, the longest
well-formed start, and a lenient one that replaces every malformed part.

In base 64 three bytes are written as four digits; a last group of one or two bytes is filled up
with equality signs.
-/

namespace LlamaGateway

namespace Utf8

/-- Where the machine stands between bytes. -/
inductive Mode where
  /-- Between characters. -/
  | boundary
  /-- Inside a character: the number of missing bytes, the bits so far, and the bounds of the next
  byte. -/
  | inside (missing code low high : Nat)
deriving DecidableEq, Repr

/-- A character that is complete after a byte, if there is one, and the next mode. -/
abbrev Step := Option Char × Mode

/-- The step for a first byte. -/
def lead? (byte : Nat) : Option Step :=
  if byte < 0x80 then some (some (Char.ofNat byte), .boundary)
  else if byte < 0xC2 then none
  else if byte < 0xE0 then some (none, .inside 1 (byte - 0xC0) 0x80 0xBF)
  else if byte = 0xE0 then some (none, .inside 2 0 0xA0 0xBF)
  else if byte = 0xED then some (none, .inside 2 0xD 0x80 0x9F)
  else if byte < 0xF0 then some (none, .inside 2 (byte - 0xE0) 0x80 0xBF)
  else if byte = 0xF0 then some (none, .inside 3 0 0x90 0xBF)
  else if byte < 0xF4 then some (none, .inside 3 (byte - 0xF0) 0x80 0xBF)
  else if byte = 0xF4 then some (none, .inside 3 4 0x80 0x8F)
  else none

/-- The step for a byte; none if no well-formed text goes on with it. -/
def step? (mode : Mode) (byte : UInt8) : Option Step :=
  match mode with
  | .boundary => lead? byte.toNat
  | .inside missing code low high =>
    let code := code * 64 + (byte.toNat - 0x80)
    if byte.toNat < low ∨ high < byte.toNat then none
    else if missing ≤ 1 then some (some (Char.ofNat code), .boundary)
    else some (none, .inside (missing - 1) code 0x80 0xBF)

/-- The characters of the longest well-formed start of a text, and whether that is all of it. -/
def decodeStart (mode : Mode) : List UInt8 → List Char × Bool
  | [] => ([], mode = .boundary)
  | byte :: rest =>
    match step? mode byte with
    | some (complete, next) =>
      let (text, whole) := decodeStart next rest
      (complete.toList ++ text, whole)
    | none => ([], false)

/-- The text of bytes that are well formed. -/
def decode? (bytes : List UInt8) : Option (List Char) :=
  match decodeStart .boundary bytes with
  | (text, true) => some text
  | (_, false) => none

/-- What a byte adds to a lenient reading, and the next mode. A byte that breaks off a character is
read again as a first byte. -/
def lenientStep (substitute : List Char) (mode : Mode) (byte : UInt8) : List Char × Mode :=
  match step? mode byte, mode, step? .boundary byte with
  | some (complete, next), _, _ => (complete.toList, next)
  | none, .inside _ _ _ _, some (complete, next) => (substitute ++ complete.toList, next)
  | none, .inside _ _ _ _, none => (substitute ++ substitute, .boundary)
  | none, .boundary, _ => (substitute, .boundary)

/-- The lenient reading of the bytes that follow a mode. -/
def decodeLenientFrom (substitute : List Char) (mode : Mode) : List UInt8 → List Char
  | [] => if mode = .boundary then [] else substitute
  | byte :: rest =>
    let (text, next) := lenientStep substitute mode byte
    text ++ decodeLenientFrom substitute next rest

/-- The text of any bytes, with a substitute for every malformed part. -/
def decodeLenient (substitute : List Char) (bytes : List UInt8) : List Char :=
  decodeLenientFrom substitute .boundary bytes

theorem decodeLenientFrom_of_decodeStart {substitute text : List Char} {mode : Mode}
    {bytes : List UInt8} (wellFormed : decodeStart mode bytes = (text, true)) :
    decodeLenientFrom substitute mode bytes = text := by
  induction bytes generalizing mode text with
  | nil =>
    cases mode with
    | boundary => exact (Prod.mk.inj wellFormed).1
    | inside missing code low high => cases (Prod.mk.inj wellFormed).2
  | cons byte rest induction =>
    rw [decodeStart] at wellFormed
    cases stepped : step? mode byte with
    | none =>
      rw [stepped] at wellFormed
      cases wellFormed
    | some step =>
      obtain ⟨complete, next⟩ := step
      rw [stepped] at wellFormed
      obtain ⟨rfl, isWhole⟩ := Prod.mk.inj wellFormed
      simp only [decodeLenientFrom, lenientStep, stepped]
      rw [induction (Prod.ext rfl isWhole)]

/-- Well-formed bytes need no substitute. -/
theorem decodeLenient_of_decode? {bytes : List UInt8} {text : List Char}
    (wellFormed : decode? bytes = some text) (substitute : List Char) :
    decodeLenient substitute bytes = text := by
  refine decodeLenientFrom_of_decodeStart ?_
  rw [decode?] at wellFormed
  split at wellFormed
  · next whole =>
    cases wellFormed
    exact whole
  · cases wellFormed

/-- The bytes of a code point. -/
def encodeNat (code : Nat) : List Nat :=
  if code < 0x80 then [code]
  else if code < 0x800 then [0xC0 + code / 64, 0x80 + code % 64]
  else if code < 0x10000 then [0xE0 + code / 4096, 0x80 + code / 64 % 64, 0x80 + code % 64]
  else [0xF0 + code / 262144, 0x80 + code / 4096 % 64, 0x80 + code / 64 % 64, 0x80 + code % 64]

/-- The bytes of a character. -/
def encodeChar (c : Char) : List UInt8 :=
  (encodeNat c.toNat).map UInt8.ofNat

/-- The bytes of a text. -/
def encode (text : List Char) : List UInt8 :=
  text.flatMap encodeChar

end Utf8

namespace Base64

/-- The digit of a value below 64. -/
def digit (value : Nat) : Char :=
  if value < 26 then Char.ofNat (0x41 + value)
  else if value < 52 then Char.ofNat (0x61 + (value - 26))
  else if value < 62 then Char.ofNat (0x30 + (value - 52))
  else if value = 62 then '+'
  else '/'

/-- The digits of bytes. -/
def encode : List UInt8 → List Char
  | [] => []
  | [a] => [digit (a.toNat / 4), digit (a.toNat % 4 * 16), '=', '=']
  | [a, b] =>
    [digit (a.toNat / 4), digit (a.toNat % 4 * 16 + b.toNat / 16), digit (b.toNat % 16 * 4), '=']
  | a :: b :: c :: rest =>
    digit (a.toNat / 4) :: digit (a.toNat % 4 * 16 + b.toNat / 16) ::
      digit (b.toNat % 16 * 4 + c.toNat / 64) :: digit (c.toNat % 64) :: encode rest

/-- The value of a digit. -/
def digitValue? (c : Char) : Option Nat :=
  let code := c.toNat
  if 0x41 ≤ code ∧ code ≤ 0x5A then some (code - 0x41)
  else if 0x61 ≤ code ∧ code ≤ 0x7A then some (code - 0x61 + 26)
  else if 0x30 ≤ code ∧ code ≤ 0x39 then some (code - 0x30 + 52)
  else if c = '+' then some 62
  else if c = '/' then some 63
  else none

/-- The bytes of digits. -/
def decode? : List Char → Option (List UInt8)
  | [] => some []
  | [a, b, '=', '='] => do
    let a ← digitValue? a
    let b ← digitValue? b
    return [UInt8.ofNat (a * 4 + b / 16)]
  | [a, b, c, '='] => do
    let a ← digitValue? a
    let b ← digitValue? b
    let c ← digitValue? c
    return [UInt8.ofNat (a * 4 + b / 16), UInt8.ofNat (b % 16 * 16 + c / 4)]
  | a :: b :: c :: d :: rest => do
    let a ← digitValue? a
    let b ← digitValue? b
    let c ← digitValue? c
    let d ← digitValue? d
    let rest ← decode? rest
    return UInt8.ofNat (a * 4 + b / 16) :: UInt8.ofNat (b % 16 * 16 + c / 4) ::
      UInt8.ofNat (c % 4 * 64 + d) :: rest
  | _ => none

end Base64

end LlamaGateway
