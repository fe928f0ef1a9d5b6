import LlamaGateway.Json.Value
import LlamaGateway.Floating.Basic
import LlamaGateway.Text.Basic

/-!
# JSON text

`Json.compact` writes a value without white space, `Json.pretty` with one member a line. Strings
escape quotes, backslashes and control characters and nothing else.
-/

namespace LlamaGateway

namespace Json

/-- A character as it stands between quotes. -/
def escapeChar (c : Char) : List Char :=
  if c = '"' then ['\\', '"']
  else if c = '\\' then ['\\', '\\']
  else if c.toNat = 0x08 then ['\\', 'b']
  else if c.toNat = 0x09 then ['\\', 't']
  else if c.toNat = 0x0A then ['\\', 'n']
  else if c.toNat = 0x0C then ['\\', 'f']
  else if c.toNat = 0x0D then ['\\', 'r']
  else if c.toNat < 0x20 then
    ['\\', 'u', '0', '0', Text.hexDigit (c.toNat / 16), Text.hexDigit (c.toNat % 16)]
  else [c]

/-- A text between quotes. -/
def quote (text : String) : List Char :=
  '"' :: text.toList.flatMap escapeChar ++ ['"']

/-- Doubles are written with a point from `1e-5` up to below `1e16`, else with an exponent. -/
def doubleLayout : Floating.DecimalLayout := ⟨-5, 15⟩

/-- Single-width values are written with a point from `1e-6` up to below `1e13`. -/
def singleLayout : Floating.DecimalLayout := ⟨-6, 12⟩

/-- The text of a floating-point value; `null` stands for one that is not finite. -/
def writeFloating (format : Floating.Format) (layout : Floating.DecimalLayout) :
    Floating → List Char
  | .finite negative significand exponent =>
    let sign := if negative then ['-'] else []
    if significand = 0 then sign ++ ['0', '.', '0']
    else sign ++ layout.write (Floating.shortest format significand exponent)
  | .infinite _ | .nan => ['n', 'u', 'l', 'l']

/-- The text of an integer. -/
def writeInteger (value : Int) : List Char :=
  let digits := Nat.toDigits 10 value.natAbs
  if value < 0 then '-' :: digits else digits

/-- The text of a number. -/
def Number.write : Number → List Char
  | .integer value => writeInteger value
  | .floating value => writeFloating .double doubleLayout value
  | .single value => writeFloating .single singleLayout value

mutual

/-- The text of a value without white space. -/
def compact : Json → List Char
  | .null => ['n', 'u', 'l', 'l']
  | .boolean true => ['t', 'r', 'u', 'e']
  | .boolean false => ['f', 'a', 'l', 's', 'e']
  | .number value => value.write
  | .string value => quote value
  | .array items => '[' :: compactItems items
  | .object members => '{' :: compactMembers members

/-- The items of an array and its closing bracket. -/
def compactItems : List Json → List Char
  | [] => [']']
  | item :: rest => compact item ++ compactMoreItems rest

/-- The items after the first one and the closing bracket. -/
def compactMoreItems : List Json → List Char
  | [] => [']']
  | item :: rest => ',' :: compact item ++ compactMoreItems rest

/-- The members of an object and its closing brace. -/
def compactMembers : List (String × Json) → List Char
  | [] => ['}']
  | (key, value) :: rest => quote key ++ ':' :: compact value ++ compactMoreMembers rest

/-- The members after the first one and the closing brace. -/
def compactMoreMembers : List (String × Json) → List Char
  | [] => ['}']
  | (key, value) :: rest => ',' :: quote key ++ ':' :: compact value ++ compactMoreMembers rest

end

/-- The text of a value without white space. -/
def render (value : Json) : String :=
  String.ofList value.compact

/-- A line break and two blanks for every level. -/
def newline (level : Nat) : List Char :=
  '\n' :: List.replicate (2 * level) ' '

mutual

/-- The text of a value at a nesting level, one item or member a line. -/
def pretty (level : Nat) : Json → List Char
  | .null => ['n', 'u', 'l', 'l']
  | .boolean true => ['t', 'r', 'u', 'e']
  | .boolean false => ['f', 'a', 'l', 's', 'e']
  | .number value => value.write
  | .string value => quote value
  | .array [] => ['[', ']']
  | .array (item :: rest) =>
    '[' :: newline (level + 1) ++ pretty (level + 1) item ++ prettyItems level rest
  | .object [] => ['{', '}']
  | .object ((key, value) :: rest) =>
    '{' :: newline (level + 1) ++ quote key ++ [':', ' '] ++ pretty (level + 1) value ++
      prettyMembers level rest

/-- The items after the first one and the closing bracket on a line of its own. -/
def prettyItems (level : Nat) : List Json → List Char
  | [] => newline level ++ [']']
  | item :: rest =>
    ',' :: newline (level + 1) ++ pretty (level + 1) item ++ prettyItems level rest

/-- The members after the first one and the closing brace on a line of its own. -/
def prettyMembers (level : Nat) : List (String × Json) → List Char
  | [] => newline level ++ ['}']
  | (key, value) :: rest =>
    ',' :: newline (level + 1) ++ quote key ++ [':', ' '] ++ pretty (level + 1) value ++
      prettyMembers level rest

end

/-- The text of a value with one item or member a line. -/
def renderPretty (value : Json) : String :=
  String.ofList (value.pretty 0)

end Json

end LlamaGateway
