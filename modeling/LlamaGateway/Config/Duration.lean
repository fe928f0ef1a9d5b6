import LlamaGateway.Text.Basic

/-!
# Durations

A duration is written as a sum of terms, each a number and a unit: `1h30m`, `3 min + 20 s`. It may
also be a product, whose factors are counted in seconds: `10m * 2`. A term without a unit counts
seconds, and an operator follows it unless it is the last one.
-/

namespace LlamaGateway

/-- A span of time in nanoseconds. -/
structure Duration where
  /-- The number of nanoseconds. -/
  nanoseconds : Nat
deriving DecidableEq, Repr, Inhabited

namespace Duration

/-- The nanoseconds of a second. -/
def second : Nat := 1000000000

/-- A duration of whole seconds. -/
def ofSeconds (seconds : Nat) : Duration := ⟨seconds * second⟩

/-- Durations are counted in unsigned 64-bit words. -/
def limit : Nat := Nat.pow 2 64

/-- A count of nanoseconds below the limit. -/
def fit? (count : Nat) : Option Nat :=
  if count < limit then some count else none

/-- The names of the units in lower case, each with its nanoseconds. -/
def units : List (String × Nat) :=
  let day := 86400 * second
  [("y", 365 * day), ("year", 365 * day), ("years", 365 * day),
    ("mon", 30 * day), ("month", 30 * day), ("months", 30 * day),
    ("w", 7 * day), ("week", 7 * day), ("weeks", 7 * day),
    ("d", day), ("day", day), ("days", day),
    ("h", 3600 * second), ("hr", 3600 * second), ("hour", 3600 * second),
    ("hours", 3600 * second),
    ("m", 60 * second), ("min", 60 * second), ("minute", 60 * second), ("minutes", 60 * second),
    ("s", second), ("sec", second), ("second", second), ("seconds", second),
    ("ms", 1000000), ("msec", 1000000), ("millisecond", 1000000), ("milliseconds", 1000000),
    ("µs", 1000), ("µsec", 1000), ("µsecond", 1000), ("us", 1000), ("usec", 1000),
    ("usecond", 1000), ("microsecond", 1000), ("microseconds", 1000),
    ("ns", 1), ("nsec", 1), ("nanosecond", 1), ("nanoseconds", 1)]

/-- White space between the parts of a duration. -/
def isSpace (c : Char) : Bool :=
  c = ' ' || c = '\t' || c = '\n' || c = '\r'

/-- The character may stand in the name of a unit. -/
def isUnitChar (c : Char) : Bool :=
  c.isAlpha || c = 'µ'

/-- The nanoseconds of a unit; no name stands for seconds. -/
def unitOf? (name : List Char) : Option Nat :=
  if name.isEmpty then some second else units.lookup (String.ofList (name.map Char.toLower))

/-- A term. -/
structure Term where
  /-- Its nanoseconds. -/
  value : Nat
  /-- It names its unit. -/
  hasUnit : Bool
deriving DecidableEq, Repr

/-- The term at the start of a text, and what follows it and white space. -/
def term? (text : List Char) : Option (Term × List Char) := do
  let text := text.dropWhile isSpace
  let digits := text.takeWhile Char.isDigit
  let rest := (text.dropWhile Char.isDigit).dropWhile isSpace
  let name := rest.takeWhile isUnitChar
  let unit ← unitOf? name
  let count ← fit? (Text.decimalValue digits)
  let value ← fit? (count * unit)
  if digits.isEmpty then none
  else some (⟨value, !name.isEmpty⟩, (rest.dropWhile isUnitChar).dropWhile isSpace)

/-- How terms are joined. -/
inductive Operator where
  | sum
  | product
deriving DecidableEq, Repr

/-- The operator after a term, and what follows it. Only a term with a unit may go without, and is
added to. -/
def operator? (before : Term) (text : List Char) : Option (Operator × List Char) :=
  match text with
  | '+' :: rest => some (.sum, rest)
  | '*' :: rest => some (.product, rest)
  | _ => if before.hasUnit then some (.sum, text) else none

/-- The terms that follow a term, all joined by one operator. -/
def terms? (expected : Operator) (before : Term) : (steps : Nat) → List Char → Option (List Term)
  | 0, _ => none
  | _ + 1, [] => some []
  | steps + 1, text => do
    let (found, rest) ← operator? before text
    let (term, rest) ← term? rest
    let more ← terms? expected term steps rest
    if found = expected then some (term :: more) else none

/-- Two counts of nanoseconds joined by an operator; a product is rounded down. -/
def Operator.join? (operator : Operator) (left right : Nat) : Option Nat :=
  match operator with
  | .sum => fit? (left + right)
  | .product => fit? (left * right / second)

/-- The nanoseconds of terms. The first one is joined last. -/
def joined? (operator : Operator) (first : Term) : List Term → Option Nat
  | [] => some first.value
  | next :: more => do
    let others ← more.foldlM (fun value term => operator.join? value term.value) next.value
    operator.join? first.value others

/-- The duration that a text names. -/
def parse? (text : String) : Option Duration := do
  let (first, rest) ← term? text.toList
  if rest.isEmpty then return ⟨first.value⟩
  else
    let (operator, _) ← operator? first rest
    let others ← terms? operator first (rest.length + 1) rest
    let total ← joined? operator first others
    return ⟨total⟩

/-- A fraction of a unit in decimal, without zeros at its end. -/
def fractionText (width fraction : Nat) : List Char :=
  let digits := Nat.toDigits 10 fraction
  let padded := List.replicate (width - digits.length) '0' ++ digits
  match Text.trimEnd (· = '0') padded with
  | [] => []
  | shown => '.' :: shown

/-- A number of units of `10 ^ width` nanoseconds. -/
def inUnit (width : Nat) (name : String) (nanoseconds : Nat) : String :=
  String.ofList (Nat.toDigits 10 (nanoseconds / Nat.pow 10 width) ++
    fractionText width (nanoseconds % Nat.pow 10 width)) ++ name

/-- The duration as diagnostics show it, in the largest unit of which there is at least one. -/
def diagnosticText (duration : Duration) : String :=
  let count := duration.nanoseconds
  if Nat.pow 10 9 ≤ count then inUnit 9 "s" count
  else if Nat.pow 10 6 ≤ count then inUnit 6 "ms" count
  else if Nat.pow 10 3 ≤ count then inUnit 3 "µs" count
  else inUnit 0 "ns" count

end Duration

end LlamaGateway
