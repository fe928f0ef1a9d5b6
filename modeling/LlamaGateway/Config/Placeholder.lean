import LlamaGateway.Text.Basic
import LlamaGateway.Text.Bytes

/-!
# Placeholders

A configuration text may refer to environment variables: `env.NAME` between double braces stands for
the variable's value, or for a default if the variable is not set. Lines that are comments are
copied. A value that is put in is not read again.
-/

namespace LlamaGateway

/-- Environment variables with the bytes of their values. -/
structure Environment where
  /-- The variables. -/
  bindings : List (String × List UInt8)

namespace Environment

/-- The text of a variable, none if it is not set or no text. -/
def text? (environment : Environment) (name : String) : Option (List Char) :=
  (environment.bindings.lookup name).bind Utf8.decode?

/-- The text of a variable is that of the bytes it is bound to. -/
theorem text?_eq_some_iff {environment : Environment} {name : String} {text : List Char} :
    environment.text? name = some text ↔
      ∃ bytes, environment.bindings.lookup name = some bytes ∧ Utf8.decode? bytes = some text :=
  Option.bind_eq_some_iff

/-- A variable has no text if it is not bound, or bound to bytes that are no UTF-8. -/
theorem text?_eq_none_iff {environment : Environment} {name : String} :
    environment.text? name = none ↔ environment.bindings.lookup name = none ∨
      ∃ bytes, environment.bindings.lookup name = some bytes ∧ Utf8.decode? bytes = none := by
  rw [text?]
  cases environment.bindings.lookup name <;> simp

end Environment

/-- A placeholder that cannot be replaced, on a line counted from one. -/
inductive PlaceholderError where
  /-- The variable is not set and there is no default. -/
  | unset (line : Nat) (name : String)
  /-- The key does not name a variable. -/
  | foreignKey (line : Nat) (key : String)
deriving DecidableEq, Repr

namespace PlaceholderError

/-- A text between backquotes. -/
def backquoted (text : String) : String :=
  let mark := String.singleton (Char.ofNat 0x60)
  mark ++ text ++ mark

/-- The text of an error. -/
def message : PlaceholderError → String
  | .unset line name =>
    "line " ++ String.ofList (Nat.toDigits 10 line) ++ ": environment variable " ++
      backquoted name ++ " is not set"
  | .foreignKey line key =>
    "line " ++ String.ofList (Nat.toDigits 10 line) ++ ": only " ++ backquoted "env." ++
      " placeholders are supported, found " ++ backquoted key

end PlaceholderError

/-- A reference to a variable. -/
structure Placeholder where
  /-- The key. -/
  key : List Char
  /-- The default. -/
  default : Option (List Char)
deriving DecidableEq, Repr

namespace Placeholder

/-- The character may stand in a key. -/
def isKeyChar (c : Char) : Bool :=
  c.isAlphanum || c = '_' || c = '.'

/-- A text without white space in front. -/
def dropBlank (text : List Char) : List Char :=
  text.dropWhile Text.isBlank

/-- The default at the start of a text, and what follows it. -/
def default? (text : List Char) : Option (List Char × List Char) := do
  let rest ← Text.dropPrefix? ['|'] text
  let rest ← Text.dropPrefix? "default(\"".toList (dropBlank rest)
  let (default, rest) ← Text.breakOn? ['"'] rest
  let rest ← Text.dropPrefix? [')'] rest
  return (default, rest)

/-- What follows the closing braces. -/
def close? (text : List Char) : Option (List Char) :=
  Text.dropPrefix? ['\x7d', '\x7d'] (dropBlank text)

/-- The placeholder that starts a text, and what follows it. -/
def start? (text : List Char) : Option (Placeholder × List Char) := do
  let rest ← Text.dropPrefix? ['\x7b', '\x7b'] text
  let body := dropBlank rest
  let key := body.takeWhile isKeyChar
  let rest := dropBlank (body.dropWhile isKeyChar)
  if key.isEmpty then none
  else
    match default? rest with
    | some (default, rest) => (close? rest).map fun rest => (⟨key, some default⟩, rest)
    | none => (close? rest).map fun rest => (⟨key, none⟩, rest)

/-- The name of the variable: what follows `env.`, without another dot. -/
def variableName? (placeholder : Placeholder) : Option (List Char) :=
  (Text.dropPrefix? "env.".toList placeholder.key).filter fun name => !name.contains '.'

/-- The text that replaces a placeholder. -/
def resolve (environment : Environment) (line : Nat) (placeholder : Placeholder) :
    Except PlaceholderError (List Char) :=
  match placeholder.variableName? with
  | none => .error (.foreignKey line (String.ofList placeholder.key))
  | some name =>
    match environment.text? (String.ofList name), placeholder.default with
    | some value, _ => .ok value
    | none, some default => .ok default
    | none, none => .error (.unset line (String.ofList name))

/-- A line taken apart: characters as they stand, and placeholders. -/
inductive Piece where
  | plain (c : Char)
  | reference (placeholder : Placeholder)
deriving DecidableEq, Repr

/-- The pieces of a line, given a number of steps that is at least its length. -/
def piecesFrom : (steps : Nat) → List Char → List Piece
  | _, [] => []
  | 0, _ :: _ => []
  | steps + 1, c :: rest =>
    match start? (c :: rest) with
    | some (placeholder, after) => .reference placeholder :: piecesFrom steps after
    | none => .plain c :: piecesFrom steps rest

/-- The pieces of a line; of two places where a placeholder could start the first one counts. -/
def pieces (line : List Char) : List Piece :=
  piecesFrom line.length line

/-- The variables that the placeholders of a text name. -/
def variableNames (text : List Char) : List (List Char) :=
  (pieces text).filterMap fun piece =>
    match piece with
    | .plain _ => none
    | .reference placeholder => placeholder.variableName?

/-- The text of a piece. -/
def Piece.expand (environment : Environment) (line : Nat) :
    Piece → Except PlaceholderError (List Char)
  | .plain c => .ok [c]
  | .reference placeholder => placeholder.resolve environment line

/-- The text of pieces, or the error of the first one that has one. -/
def expandPieces (environment : Environment) (line : Nat) :
    List Piece → Except PlaceholderError (List Char)
  | [] => .ok []
  | piece :: rest => do
    let text ← piece.expand environment line
    let more ← expandPieces environment line rest
    return text ++ more

/-- A line with its placeholders replaced. -/
def expandLine (environment : Environment) (line : Nat) (text : List Char) :
    Except PlaceholderError (List Char) :=
  expandPieces environment line (pieces text)

/-- The first character that is not white space is a number sign. -/
def isComment (line : List Char) : Bool :=
  (dropBlank line).head? = some '#'

/-- A line with its placeholders replaced unless it is a comment. -/
def expandUnlessComment (environment : Environment) (line : Nat) (text : List Char) :
    Except PlaceholderError (List Char) :=
  if isComment text then .ok text else expandLine environment line text

/-- A line without the carriage return before its line feed. -/
def dropReturn (line : List Char) : List Char :=
  (Text.dropSuffix? ['\r'] line).getD line

/-- The lines of a text that are ended by a line feed, and the text after the last one. -/
def splitLines (text : List Char) : List (List Char) × List Char :=
  let pieces := Text.splitOn '\n' text
  (pieces.dropLast, pieces.getLast?.getD [])

/-- Lines from a number on with their placeholders replaced, each with a line feed. -/
def expandFinished (environment : Environment) (number : Nat) :
    List (List Char) → Except PlaceholderError (List Char)
  | [] => .ok []
  | line :: rest => do
    let text ← expandUnlessComment environment number (dropReturn line)
    let more ← expandFinished environment (number + 1) rest
    return text ++ '\n' :: more

/-- A text with its placeholders replaced, line by line. Each line ends with a line feed alone. -/
def expand (environment : Environment) (text : List Char) :
    Except PlaceholderError (List Char) := do
  let (finished, last) := splitLines text
  let before ← expandFinished environment 1 finished
  let after ← expandUnlessComment environment (finished.length + 1) last
  return before ++ after

end Placeholder

end LlamaGateway
