/-!
# Texts as lists of characters

Texts are taken apart as lists of characters. Each operation comes with the equation that says how
the parts make up the whole. Digits are read in either case, and a written digit reads back as its
value.

A property of characters is a list of ranges of code points. A mapping is a list of rows, which are
written in hexadecimal digits: `C0-D6=E0` maps the range from `C0` to `D6` to the one that starts at
`E0`, and `BD=31.2044.32` maps one code point to three.
-/

namespace LlamaGateway

namespace Text

/-- What follows `lead` in a text that starts with it. -/
def dropPrefix? : List Char → List Char → Option (List Char)
  | [], text => some text
  | _ :: _, [] => none
  | expected :: lead, actual :: text => if expected = actual then dropPrefix? lead text else none

@[simp] theorem dropPrefix?_append (lead rest : List Char) :
    dropPrefix? lead (lead ++ rest) = some rest := by
  induction lead with
  | nil => rfl
  | cons expected lead induction => simp [dropPrefix?, induction]

theorem eq_append_of_dropPrefix? {lead text rest : List Char}
    (found : dropPrefix? lead text = some rest) : text = lead ++ rest := by
  induction lead generalizing text with
  | nil => simpa [dropPrefix?] using found
  | cons expected lead induction =>
    cases text with
    | nil => simp [dropPrefix?] at found
    | cons actual text =>
      simp only [dropPrefix?] at found
      split at found
      · next same => simp [same, induction found]
      · simp at found

theorem dropPrefix?_eq_some_iff {lead text rest : List Char} :
    dropPrefix? lead text = some rest ↔ text = lead ++ rest :=
  ⟨eq_append_of_dropPrefix?, fun whole => by simp [whole]⟩

/-- What precedes `tail` in a text that ends with it. -/
def dropSuffix? (tail text : List Char) : Option (List Char) :=
  (dropPrefix? tail.reverse text.reverse).map List.reverse

theorem dropSuffix?_eq_some_iff {tail text rest : List Char} :
    dropSuffix? tail text = some rest ↔ text = rest ++ tail := by
  constructor
  · intro found
    obtain ⟨reversed, parts, same⟩ := Option.map_eq_some_iff.1 found
    have whole := eq_append_of_dropPrefix? parts
    have := congrArg List.reverse whole
    simpa [← same] using this
  · intro whole
    simp [dropSuffix?, whole]

/-- A text without the characters of a class at either end. -/
def trim (inClass : Char → Bool) (text : List Char) : List Char :=
  ((text.dropWhile inClass).reverse.dropWhile inClass).reverse

/-- A text without the characters of a class at its end. -/
def trimEnd (inClass : Char → Bool) (text : List Char) : List Char :=
  (text.reverse.dropWhile inClass).reverse

/-- The parts of a text before and after the first occurrence of `needle`. -/
def breakOn? (needle : List Char) : List Char → Option (List Char × List Char)
  | [] => if needle = [] then some ([], []) else none
  | c :: rest =>
    match dropPrefix? needle (c :: rest) with
    | some after => some ([], after)
    | none => (breakOn? needle rest).map fun (before, after) => (c :: before, after)

theorem eq_append_of_breakOn? {needle text before after : List Char}
    (found : breakOn? needle text = some (before, after)) : text = before ++ needle ++ after := by
  induction text generalizing before after with
  | nil =>
    simp only [breakOn?] at found
    split at found
    · next empty => simp_all
    · simp at found
  | cons c rest induction =>
    simp only [breakOn?] at found
    split at found
    · next after' parts =>
      simp only [Option.some.injEq, Prod.mk.injEq] at found
      simp [← found.1, ← found.2, eq_append_of_dropPrefix? parts]
    · obtain ⟨⟨before', after'⟩, parts, same⟩ := Option.map_eq_some_iff.1 found
      simp only [Prod.mk.injEq] at same
      simp [← same.1, ← same.2, induction parts]

/-- The pieces of a text between the occurrences of a character. -/
def splitOn (separator : Char) : List Char → List (List Char)
  | [] => [[]]
  | c :: rest =>
    if c = separator then [] :: splitOn separator rest
    else
      match splitOn separator rest with
      | [] => [[c]]
      | piece :: pieces => (c :: piece) :: pieces

/-- Pieces in order with a separator between neighbours. -/
def joinWith (separator : List Char) : List (List Char) → List Char
  | [] => []
  | [piece] => piece
  | piece :: pieces => piece ++ separator ++ joinWith separator pieces

/-- A text with every occurrence of one character replaced by another. -/
def replaceChar (old new : Char) (text : List Char) : List Char :=
  text.map fun c => if c = old then new else c

/-- The value of a decimal digit. -/
def decimalDigit (c : Char) : Nat :=
  c.toNat - '0'.toNat

/-- The value of decimal digits. -/
def decimalValue (digits : List Char) : Nat :=
  digits.foldl (fun value c => value * 10 + decimalDigit c) 0

/-- The value of a hexadecimal digit of either case. -/
def hexValue? (c : Char) : Option Nat :=
  if c.isDigit then some (c.toNat - 0x30)
  else if 'a' ≤ c ∧ c ≤ 'f' then some (c.toNat - 0x57)
  else if 'A' ≤ c ∧ c ≤ 'F' then some (c.toNat - 0x37)
  else none

/-- The value of digits in a base of at most sixteen; none if there is another character. -/
def digitsValue? (base : Nat) (digits : List Char) : Option Nat :=
  digits.foldl (fun value c =>
    match value, hexValue? c with
    | some value, some digit => if digit < base then some (value * base + digit) else none
    | _, _ => none) (some 0)

/-- The lower-case digit of a value below sixteen. -/
def hexDigit (value : Nat) : Char :=
  if value < 10 then Char.ofNat (0x30 + value) else Char.ofNat (0x57 + value)

/-- The upper-case digit of a value below sixteen. -/
def upperHexDigit (value : Nat) : Char :=
  if value < 10 then Char.ofNat (0x30 + value) else Char.ofNat (0x37 + value)

theorem hexValue?_hexDigit : ∀ value < 16, hexValue? (hexDigit value) = some value := by
  decide

/-- The Unicode property `White_Space`. -/
def isBlank (c : Char) : Bool :=
  let code := c.toNat
  (9 ≤ code && code ≤ 13) || code = 0x20 || code = 0x85 || code = 0xA0 || code = 0x1680 ||
    (0x2000 ≤ code && code ≤ 0x200A) || code = 0x2028 || code = 0x2029 || code = 0x202F ||
    code = 0x205F || code = 0x3000

/-- A text without white space at either end. -/
def trimBlank (text : List Char) : List Char :=
  trim isBlank text

/-- A text of white space only, the empty text included. -/
def isAllBlank (text : String) : Bool :=
  text.toList.all isBlank

/-- The code point of a character is in one of some ranges, given by first and last code point. -/
def inRanges (ranges : List (Nat × Nat)) (c : Char) : Bool :=
  ranges.any fun (first, last) => first ≤ c.toNat && c.toNat ≤ last

/-- A row of a mapping. -/
structure CodeRow where
  /-- The first code point. -/
  first : Nat
  /-- The last code point. -/
  last : Nat
  /-- What the first code point is mapped to; the others are mapped to what follows. -/
  values : List Nat
deriving DecidableEq, Repr

namespace CodeRow

/-- The row maps a character. -/
def covers (row : CodeRow) (c : Char) : Bool :=
  row.first ≤ c.toNat && c.toNat ≤ row.last

/-- What a character of the row is mapped to. -/
def image (row : CodeRow) (c : Char) : List Char :=
  row.values.map fun value => Char.ofNat (value + (c.toNat - row.first))

/-- The row of a word. -/
def ofWord? (word : List Char) : Option CodeRow := do
  let (range, values) ← breakOn? ['='] word
  let ends ← (splitOn '-' range).mapM (digitsValue? 16)
  let values ← (splitOn '.' values).mapM (digitsValue? 16)
  match ends with
  | [code] => some ⟨code, code, values⟩
  | [first, last] => some ⟨first, last, values⟩
  | _ => none

end CodeRow

/-- The rows of lines, in which blanks stand between the rows. -/
def codeTable (lines : List String) : List CodeRow :=
  lines.flatMap fun line => (splitOn ' ' line.toList).filterMap CodeRow.ofWord?

end Text

end LlamaGateway
