import LlamaGateway.Calendar
import LlamaGateway.Text.Basic

/-!
# TOML strings, numbers and dates

Strings stand between double quotes, where a backslash starts an escape, or between single quotes,
where nothing does. Three quotes start a string of several lines, which keeps its line breaks as
they are written. Digits of numbers may be grouped by single underscores, each of which stands
between two digits. What else stands in the groups of a whole number is not looked at.
-/

namespace LlamaGateway

namespace Toml

/-- A blank or tab. -/
def isSpace (c : Char) : Bool :=
  c = ' ' || c = '\t'

/-- A control character that may not stand in a text. -/
def isControl (c : Char) : Bool :=
  (c.toNat < 0x20 && c ≠ '\t') || c.toNat = 0x7F

/-- The character of a code point. -/
def charOfCode? (code : Nat) : Option Char :=
  if code.isValidChar then some (Char.ofNat code) else none

/-- The character that hexadecimal digits name. -/
def unicodeEscape? (digits : List Char) : Option Char :=
  (Text.digitsValue? 16 digits).bind charOfCode?

/-- The character that a single-letter escape stands for. -/
def simpleEscape? (c : Char) : Option Char :=
  match c with
  | 'b' => some (Char.ofNat 0x08)
  | 't' => some '\t'
  | 'n' => some '\n'
  | 'f' => some (Char.ofNat 0x0C)
  | 'r' => some '\r'
  | 'e' => some (Char.ofNat 0x1B)
  | '"' => some '"'
  | '\\' => some '\\'
  | _ => none

/-- A text and what follows it. -/
abbrev Scan := Option (List Char × List Char)

/-- A scan with more text in front. -/
def Scan.before (lead : List Char) (scan : Scan) : Scan :=
  scan.map fun (text, rest) => (lead ++ text, rest)

/-- The rest of a string with escapes, up to its closing quote. -/
def basic? : List Char → Scan
  | '"' :: rest => some ([], rest)
  | '\\' :: 'x' :: a :: b :: rest =>
    match unicodeEscape? [a, b] with
    | some meant => Scan.before [meant] (basic? rest)
    | none => none
  | '\\' :: 'u' :: a :: b :: c :: d :: rest =>
    match unicodeEscape? [a, b, c, d] with
    | some meant => Scan.before [meant] (basic? rest)
    | none => none
  | '\\' :: 'U' :: a :: b :: c :: d :: e :: f :: g :: h :: rest =>
    match unicodeEscape? [a, b, c, d, e, f, g, h] with
    | some meant => Scan.before [meant] (basic? rest)
    | none => none
  | '\\' :: letter :: rest =>
    match simpleEscape? letter with
    | some meant => Scan.before [meant] (basic? rest)
    | none => none
  | c :: rest => if isControl c ∨ c = '\\' then none else Scan.before [c] (basic? rest)
  | [] => none

/-- The rest of a string without escapes, up to its closing quote. -/
def literal? : List Char → Scan
  | '\'' :: rest => some ([], rest)
  | c :: rest => if isControl c then none else Scan.before [c] (literal? rest)
  | [] => none

/-- What follows a line break at the start of a text. -/
def dropLineBreak : List Char → List Char
  | '\n' :: rest => rest
  | '\r' :: '\n' :: rest => rest
  | text => text

/-- White space up to a line break or the end follows. -/
def endsLine (text : List Char) : Bool :=
  match text.dropWhile isSpace with
  | '\n' :: _ | '\r' :: '\n' :: _ => true
  | _ => false

/-- The rest of a string of several lines with escapes. After a backslash at the end of a line white
space and line breaks are `skipping`. -/
def basicLines? (skipping : Bool) : List Char → Scan
  | '"' :: '"' :: '"' :: '"' :: '"' :: rest => some (['"', '"'], rest)
  | '"' :: '"' :: '"' :: '"' :: rest => some (['"'], rest)
  | '"' :: '"' :: '"' :: rest => some ([], rest)
  | '\\' :: 'x' :: a :: b :: rest =>
    match unicodeEscape? [a, b] with
    | some meant => Scan.before [meant] (basicLines? false rest)
    | none => none
  | '\\' :: 'u' :: a :: b :: c :: d :: rest =>
    match unicodeEscape? [a, b, c, d] with
    | some meant => Scan.before [meant] (basicLines? false rest)
    | none => none
  | '\\' :: 'U' :: a :: b :: c :: d :: e :: f :: g :: h :: rest =>
    match unicodeEscape? [a, b, c, d, e, f, g, h] with
    | some meant => Scan.before [meant] (basicLines? false rest)
    | none => none
  | '\\' :: letter :: rest =>
    match simpleEscape? letter with
    | some meant => Scan.before [meant] (basicLines? false rest)
    | none => if endsLine (letter :: rest) then basicLines? true (letter :: rest) else none
  | '\r' :: '\n' :: rest =>
    if skipping then basicLines? true rest else Scan.before ['\r', '\n'] (basicLines? false rest)
  | '\n' :: rest =>
    if skipping then basicLines? true rest else Scan.before ['\n'] (basicLines? false rest)
  | c :: rest =>
    if isControl c ∨ c = '\\' then none
    else if skipping ∧ isSpace c then basicLines? true rest
    else Scan.before [c] (basicLines? false rest)
  | [] => none

/-- The rest of a string of several lines without escapes. -/
def literalLines? : List Char → Scan
  | '\'' :: '\'' :: '\'' :: '\'' :: '\'' :: rest => some (['\'', '\''], rest)
  | '\'' :: '\'' :: '\'' :: '\'' :: rest => some (['\''], rest)
  | '\'' :: '\'' :: '\'' :: rest => some ([], rest)
  | '\r' :: '\n' :: rest => Scan.before ['\r', '\n'] (literalLines? rest)
  | '\n' :: rest => Scan.before ['\n'] (literalLines? rest)
  | c :: rest => if isControl c then none else Scan.before [c] (literalLines? rest)
  | [] => none

/-- The string of one line at the start of a text; none if the text starts with no quote. -/
def lineString? : List Char → Scan
  | '"' :: rest => basic? rest
  | '\'' :: rest => literal? rest
  | _ => none

/-- The string at the start of a text. -/
def anyString? : List Char → Scan
  | '"' :: '"' :: '"' :: rest => basicLines? false (dropLineBreak rest)
  | '\'' :: '\'' :: '\'' :: rest => literalLines? (dropLineBreak rest)
  | text => lineString? text

/-- A hexadecimal digit. -/
def isHexDigit (c : Char) : Bool :=
  (Text.hexValue? c).isSome

/-- A digit from `0` to `7`. -/
def isOctalDigit (c : Char) : Bool :=
  '0' ≤ c && c ≤ '7'

/-- The digit `0` or `1`. -/
def isBinaryDigit (c : Char) : Bool :=
  c = '0' || c = '1'

/-- Every underscore stands between two digits. -/
def isGrouped (isDigit : Char → Bool) (text : List Char) : Bool :=
  let groups := Text.splitOn '_' text
  groups.tail.all (·.head?.any isDigit) && groups.dropLast.all (·.getLast?.any isDigit)

/-- A number that starts with a zero but is longer than that. -/
def hasLeadingZero (text : List Char) : Bool :=
  text.head? = some '0' && 1 < text.length

/-- A number without its sign. -/
def dropSign : List Char → List Char
  | '+' :: rest | '-' :: rest => rest
  | text => text

/-- Grouped digits of a base other than ten. -/
def isBased (isDigit : Char → Bool) (digits : List Char) : Bool :=
  digits.all (fun c => isDigit c || c = '_') && isGrouped isHexDigit digits

/-- What follows the digits and underscores at the start of a text; none if there is no digit, or,
unless zeros may lead, a leading zero. -/
def afterDigits? (zerosMayLead : Bool) (text : List Char) : Option (List Char) :=
  let isMember (c : Char) := c.isDigit || c = '_'
  let digits := (text.takeWhile isMember).filter Char.isDigit
  if digits.isEmpty then none
  else if !zerosMayLead && text.head? = some '0' && 1 < digits.length then none
  else some (text.dropWhile isMember)

/-- What follows the fraction at the start of a text, if there is one. -/
def afterFraction? : List Char → Option (List Char)
  | '.' :: rest => afterDigits? true rest
  | text => some text

/-- What follows the exponent at the start of a text, if there is one. -/
def afterExponent? : List Char → Option (List Char)
  | 'e' :: rest | 'E' :: rest => afterDigits? true (dropSign rest)
  | text => some text

/-- A floating-point number without sign. -/
def isFloating (text : List Char) : Bool :=
  (((afterDigits? false text).bind afterFraction?).bind afterExponent?) = some []

/-- A date: year, month and day. -/
def isDate : List Char → Bool
  | [a, b, c, d, '-', e, f, '-', g, h] =>
    match Text.digitsValue? 10 [a, b, c, d], Text.digitsValue? 10 [e, f],
      Text.digitsValue? 10 [g, h] with
    | some year, some month, some day => 1 ≤ day && day ≤ Calendar.daysInMonth year month
    | _, _, _ => false
  | _ => false

/-- A fraction of a second, or nothing. -/
def isSecondFraction : List Char → Bool
  | [] => true
  | '.' :: digits => !digits.isEmpty && digits.all Char.isDigit
  | _ => false

/-- The seconds of a time, or nothing. -/
def isSeconds : List Char → Bool
  | [] => true
  | ':' :: a :: b :: fraction =>
    match Text.digitsValue? 10 [a, b] with
    | some second => second ≤ 60 && isSecondFraction fraction
    | none => false
  | _ => false

/-- A time: hour and minute, and seconds if they matter. -/
def isTime : List Char → Bool
  | a :: b :: ':' :: c :: d :: seconds =>
    match Text.digitsValue? 10 [a, b], Text.digitsValue? 10 [c, d] with
    | some hour, some minute => hour ≤ 23 && minute ≤ 59 && isSeconds seconds
    | _, _ => false
  | _ => false

/-- The distance of a time from universal time. -/
def isOffset : List Char → Bool
  | ['Z'] | ['z'] => true
  | [sign, a, b, ':', c, d] =>
    match Text.digitsValue? 10 [a, b], Text.digitsValue? 10 [c, d] with
    | some hour, some minute => (sign = '+' || sign = '-') && hour ≤ 23 && minute ≤ 59
    | _, _ => false
  | _ => false

/-- A time with or without its distance from universal time. -/
def isZonedTime (text : List Char) : Bool :=
  let isMark (c : Char) := ['Z', 'z', '+', '-'].contains c
  let time := text.takeWhile (!isMark ·)
  let offset := text.dropWhile (!isMark ·)
  isTime time && (offset.isEmpty || isOffset offset)

/-- A date, a time, or both with a letter or blank between them. -/
def isDateTime (text : List Char) : Bool :=
  let date := text.take 10
  match text.drop 10 with
  | [] => isDate date || isTime text
  | mark :: time =>
    ((mark = 'T' || mark = 't' || mark = ' ') && isDate date && isZonedTime time) || isTime text

/-- A decimal number, or a date or time. What follows the first digits tells which one it is. -/
def isDecimal (text : List Char) : Bool :=
  let value := dropSign text
  match value.dropWhile Char.isDigit with
  | [] => !value.isEmpty && !hasLeadingZero value
  | mark :: rest =>
    if mark = '-' || mark = ':' then isDateTime text
    else if (mark :: rest).contains ' ' then false
    else if (mark :: rest).any fun c => c = '.' || c = 'e' || c = 'E' then
      isFloating value && isGrouped Char.isDigit value
    else mark = '_' && !hasLeadingZero value && isGrouped isHexDigit value

/-- A number, date or time. -/
def isScalar (text : List Char) : Bool :=
  match text with
  | '0' :: 'x' :: digits => isBased isHexDigit digits
  | '0' :: 'o' :: digits => isBased isOctalDigit digits
  | '0' :: 'b' :: digits => isBased isBinaryDigit digits
  | _ => ["inf".toList, "nan".toList].contains (dropSign text) || isDecimal text

/-- The character ends a value without quotes. -/
def endsWord (c : Char) : Bool :=
  ['=', ',', '[', ']', '\x7b', '\x7d', ' ', '\t', '#', '\r', '\n'].contains c

/-- Blanks lead to more of a value without quotes. -/
def continues (text : List Char) : Bool :=
  (text.dropWhile isSpace).head?.any fun c => !endsWord c && c ≠ '"' && c ≠ '\''

/-- A value without quotes at the start of a text, and what follows it. Blanks between its words
are part of it. -/
def words : List Char → List Char × List Char
  | [] => ([], [])
  | c :: rest =>
    if (isSpace c && continues rest) || !endsWord c then
      let (more, rest) := words rest
      (c :: more, rest)
    else ([], c :: rest)

end Toml

end LlamaGateway
