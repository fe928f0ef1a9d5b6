import LlamaGateway.Json.Value
import LlamaGateway.Text.Basic

/-!
# JSON tokens

A text is first cut into tokens. A string that holds half of a surrogate pair and a number beyond
every double are well formed and still have no value; their tokens say so.

A numeral without point and exponent is an integer if it fits 64 bits; every other numeral is read
as a double. Reading keeps the leading digits that fit an unsigned 64-bit word, rounds that word to
a double and then multiplies or divides by a power of ten, so a long numeral can be off by one unit
in its last place.
-/

namespace LlamaGateway

namespace Json

/-- The parts of a written number. -/
structure Numeral where
  /-- A minus sign stands in front. -/
  negative : Bool
  /-- The digits before the point. -/
  whole : List Char
  /-- The digits after the point, if there is one. -/
  fraction : List Char
  /-- Sign and digits of the exponent, if there is one. -/
  exponent : Option (Bool × List Char)
deriving DecidableEq, Repr

namespace Numeral

/-- The digits at the start of a text, and what follows them. -/
def spanDigits : List Char → List Char × List Char
  | [] => ([], [])
  | c :: rest =>
    if c.isDigit then
      let (digits, after) := spanDigits rest
      (c :: digits, after)
    else ([], c :: rest)

/-- The digits before the point: a single zero, or digits that do not start with zero. -/
def scanWhole? (text : List Char) : Option (List Char × List Char) :=
  match spanDigits text with
  | ([], _) => none
  | ('0' :: _ :: _, _) => none
  | parts => some parts

/-- The digits after a point, none if there is no point. -/
def scanFraction? : List Char → Option (List Char × List Char)
  | '.' :: text =>
    match spanDigits text with
    | ([], _) => none
    | parts => some parts
  | text => some ([], text)

/-- The digits of an exponent. -/
def scanExponentDigits? (negative : Bool) (text : List Char) :
    Option (Option (Bool × List Char) × List Char) :=
  match spanDigits text with
  | ([], _) => none
  | (digits, after) => some (some (negative, digits), after)

/-- The exponent, if there is one. -/
def scanExponent? : List Char → Option (Option (Bool × List Char) × List Char)
  | c :: text =>
    if c = 'e' ∨ c = 'E' then
      match text with
      | '+' :: rest => scanExponentDigits? false rest
      | '-' :: rest => scanExponentDigits? true rest
      | rest => scanExponentDigits? false rest
    else some (none, c :: text)
  | [] => some (none, [])

/-- The numeral after its sign. -/
def scanUnsigned? (negative : Bool) (text : List Char) : Option (Numeral × List Char) := do
  let (whole, text) ← scanWhole? text
  let (fraction, text) ← scanFraction? text
  let (exponent, text) ← scanExponent? text
  return (⟨negative, whole, fraction, exponent⟩, text)

/-- The numeral at the start of a text, and what follows it. -/
def scan? : List Char → Option (Numeral × List Char)
  | '-' :: text => scanUnsigned? true text
  | text => scanUnsigned? false text

/-- The largest unsigned 64-bit word. -/
def wordMax : Nat := Nat.pow 2 64 - 1

/-- The word that the leading digits make, and the number of digits that no longer fit. -/
def takeWhole (word : Nat) : List Char → Nat × Nat
  | [] => (word, 0)
  | c :: rest =>
    if wordMax < word * 10 + Text.decimalDigit c then (word, rest.length + 1)
    else takeWhole (word * 10 + Text.decimalDigit c) rest

/-- The word after the leading fraction digits that still fit, and their number. -/
def takeFraction (word : Nat) : List Char → Nat × Nat
  | [] => (word, 0)
  | c :: rest =>
    if wordMax < word * 10 + Text.decimalDigit c then (word, 0)
    else
      let (word, count) := takeFraction (word * 10 + Text.decimalDigit c) rest
      (word, count + 1)

/-- Division by a power of ten in steps of at most `10 ^ 308`; three steps empty every double. -/
def divideByTen : Nat → Floating → Nat → Floating
  | 0, value, _ => value
  | steps + 1, value, power =>
    if power ≤ 308 then value.overPowerOfTen power
    else if value.isZero then value
    else divideByTen steps (value.overPowerOfTen 308) (power - 308)

/-- A word times a power of ten, if the result is finite. -/
def scaleWord (word : Nat) (power : Int) : Option Floating :=
  let value := Floating.Format.double.nearest false word 1
  match power with
  | .ofNat up =>
    if up ≤ 308 then
      match value.timesPowerOfTen up with
      | .infinite _ => none
      | product => some product
    else if value.isZero then some value
    else none
  | .negSucc down => some (divideByTen 4 value (down + 1))

/-- A double with the numeral's sign. -/
def signed (numeral : Numeral) (value : Floating) : Number :=
  .floating (if numeral.negative then value.negate else value)

/-- The number of a numeral that has neither point nor exponent. -/
def integral? (numeral : Numeral) : Option Number :=
  let (word, beyond) := takeWhole 0 numeral.whole
  if beyond ≠ 0 then (scaleWord word beyond).map numeral.signed
  else if ¬ numeral.negative then some (.integer word)
  else if word = 0 ∨ Nat.pow 2 63 < word then (scaleWord word 0).map numeral.signed
  else some (.integer (-word))

/-- The number of a numeral read as a double. -/
def fractional? (numeral : Numeral) : Option Number :=
  let (word, beyond) := takeWhole 0 numeral.whole
  let (word, taken) := takeFraction word numeral.fraction
  let power : Int := (beyond : Int) - taken
  match numeral.exponent with
  | none => (scaleWord word power).map numeral.signed
  | some (down, digits) =>
    let size := Text.decimalValue digits
    if Nat.pow 2 31 - 1 < size then
      if word ≠ 0 ∧ ¬ down then none
      else some (numeral.signed Floating.Format.double.zero)
    else (scaleWord word (if down then power - size else power + size)).map numeral.signed

/-- The number of a numeral; none if it is beyond every double. -/
def number? (numeral : Numeral) : Option Number :=
  if numeral.fraction = [] ∧ numeral.exponent = none then numeral.integral?
  else numeral.fractional?

end Numeral

/-- A token of JSON text. -/
inductive Token where
  /-- The character `{`. -/
  | openBrace
  /-- The character `}`. -/
  | closeBrace
  /-- The character `[`. -/
  | openBracket
  /-- The character `]`. -/
  | closeBracket
  /-- The character `,`. -/
  | comma
  /-- The character `:`. -/
  | colon
  /-- The word `null`. -/
  | null
  /-- The word `true` or `false`. -/
  | boolean (value : Bool)
  /-- A number, unless it is out of range. -/
  | number (value : Option Number)
  /-- A string, unless it holds half of a surrogate pair. -/
  | string (value : Option String)
deriving DecidableEq, Repr

namespace Token

/-- What the next character of a string belongs to. -/
inductive StringMode where
  /-- The text itself. -/
  | plain
  /-- The character after a backslash. -/
  | escape
  /-- A `\u` escape of which `count` digits with the given value are read. -/
  | unicode (count value : Nat)
deriving DecidableEq, Repr

/-- The character that a single-letter escape stands for. -/
def simpleEscape? (c : Char) : Option Char :=
  match c with
  | '"' => some '"'
  | '\\' => some '\\'
  | '/' => some '/'
  | 'b' => some (Char.ofNat 0x08)
  | 'f' => some (Char.ofNat 0x0C)
  | 'n' => some '\n'
  | 'r' => some '\r'
  | 't' => some '\t'
  | _ => none

/-- The first half of a surrogate pair. -/
def isHighSurrogate (unit : Nat) : Bool :=
  0xD800 ≤ unit && unit ≤ 0xDBFF

/-- The second half of a surrogate pair. -/
def isLowSurrogate (unit : Nat) : Bool :=
  0xDC00 ≤ unit && unit ≤ 0xDFFF

/-- A string as far as it is read. -/
structure StringScan where
  /-- What the next character belongs to. -/
  mode : StringMode
  /-- The first half of a surrogate pair that waits for the second one. -/
  pending : Option Nat
  /-- The characters so far, last first, unless half of a pair stood alone. -/
  text : Option (List Char)

namespace StringScan

/-- The start of a string. -/
def start : StringScan := ⟨.plain, none, some []⟩

/-- The scan after one more character of the text. -/
def push (scan : StringScan) (c : Char) : StringScan :=
  ⟨.plain, none, if scan.pending.isSome then none else scan.text.map (c :: ·)⟩

/-- The scan after a complete `\u` escape. -/
def pushUnit (scan : StringScan) (unit : Nat) : StringScan :=
  match scan.pending with
  | some high =>
    if isLowSurrogate unit then
      let code := 0x10000 + (high - 0xD800) * 0x400 + (unit - 0xDC00)
      ⟨.plain, none, scan.text.map (Char.ofNat code :: ·)⟩
    else ⟨.plain, none, none⟩
  | none =>
    if isHighSurrogate unit then ⟨.plain, some unit, scan.text⟩
    else if isLowSurrogate unit then ⟨.plain, none, none⟩
    else ⟨.plain, none, scan.text.map (Char.ofNat unit :: ·)⟩

/-- The text of a scan that meets the closing quote. -/
def finish (scan : StringScan) : Option String :=
  if scan.pending.isSome then none
  else scan.text.map fun reversed => String.ofList reversed.reverse

end StringScan

/-- The rest of a string whose opening quote is read, and what follows its closing quote. -/
def scanString? (scan : StringScan) : List Char → Option (Option String × List Char)
  | [] => none
  | c :: rest =>
    match scan.mode with
    | .plain =>
      if c = '"' then some (scan.finish, rest)
      else if c = '\\' then scanString? { scan with mode := .escape } rest
      else if c.toNat < 0x20 then none
      else scanString? (scan.push c) rest
    | .escape =>
      if c = 'u' then scanString? { scan with mode := .unicode 0 0 } rest
      else
        match simpleEscape? c with
        | some meant => scanString? (scan.push meant) rest
        | none => none
    | .unicode count value =>
      match Text.hexValue? c with
      | some digit =>
        if count < 3 then
          scanString? { scan with mode := .unicode (count + 1) (value * 16 + digit) } rest
        else scanString? (scan.pushUnit (value * 16 + digit)) rest
      | none => none

/-- The white space between tokens. -/
def isSpace (c : Char) : Bool :=
  c = ' ' || c = '\n' || c = '\t' || c = '\r'

/-- The token that starts a text, and what follows it. -/
def next? : List Char → Option (Token × List Char)
  | '{' :: rest => some (.openBrace, rest)
  | '}' :: rest => some (.closeBrace, rest)
  | '[' :: rest => some (.openBracket, rest)
  | ']' :: rest => some (.closeBracket, rest)
  | ',' :: rest => some (.comma, rest)
  | ':' :: rest => some (.colon, rest)
  | '"' :: rest => (scanString? .start rest).map fun (text, rest) => (.string text, rest)
  | 'n' :: 'u' :: 'l' :: 'l' :: rest => some (.null, rest)
  | 't' :: 'r' :: 'u' :: 'e' :: rest => some (.boolean true, rest)
  | 'f' :: 'a' :: 'l' :: 's' :: 'e' :: rest => some (.boolean false, rest)
  | text => (Numeral.scan? text).map fun (numeral, rest) => (.number numeral.number?, rest)

/-- The tokens of a text, at most as many as `limit`. -/
def scan? : (limit : Nat) → List Char → Option (List Token)
  | _, [] => some []
  | 0, _ :: _ => none
  | limit + 1, c :: rest =>
    if isSpace c then scan? limit rest
    else
      match next? (c :: rest) with
      | some (token, after) => (scan? limit after).map (token :: ·)
      | none => none

/-- The tokens of a text. -/
def ofText? (text : List Char) : Option (List Token) :=
  scan? text.length text

end Token

end Json

end LlamaGateway
