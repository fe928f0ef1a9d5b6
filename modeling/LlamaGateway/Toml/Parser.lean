import LlamaGateway.Toml.Scalar
import LlamaGateway.Toml.Tree

/-!
# Reading TOML

A text is read line by line: headers choose the table that the following entries belong to.
-/

namespace LlamaGateway

namespace Toml

/-- A text without blanks in front. -/
def dropSpace (text : List Char) : List Char :=
  text.dropWhile isSpace

/-- What follows a comment, from its line break on. A comment holds no control characters. -/
def afterComment? : List Char → Option (List Char)
  | [] => some []
  | '\n' :: rest => some ('\n' :: rest)
  | '\r' :: '\n' :: rest => some ('\n' :: rest)
  | c :: rest => if isControl c then none else afterComment? rest

/-- What follows blanks, a comment and a line break, or the end of the text. -/
def afterLine? (text : List Char) : Option (List Char) :=
  let rest := dropSpace text
  let rest :=
    match rest with
    | '#' :: comment => afterComment? comment
    | _ => some rest
  match rest with
  | some [] => some []
  | some ('\n' :: rest) => some rest
  | some ('\r' :: '\n' :: rest) => some rest
  | _ => none

/-- What follows blanks, line breaks and comments. -/
def dropLines (inComment : Bool) : List Char → Option (List Char)
  | [] => some []
  | '\n' :: rest => dropLines false rest
  | '\r' :: '\n' :: rest => dropLines false rest
  | c :: rest =>
    if inComment then if isControl c then none else dropLines true rest
    else if c = '#' then dropLines true rest
    else if isSpace c then dropLines false rest
    else some (c :: rest)

/-- The character may stand in a key without quotes. -/
def isBareChar (c : Char) : Bool :=
  c.isAlphanum || c = '_' || c = '-'

/-- The key at the start of a text, and what follows it. -/
def key? (text : List Char) : Option (String × List Char) :=
  match text.takeWhile isBareChar with
  | [] => (lineString? text).map fun (key, rest) => (String.ofList key, rest)
  | bare => some (String.ofList bare, text.dropWhile isBareChar)

/-- The greatest number of keys between dots. -/
def longestPath : Nat := 80

/-- At most `steps` keys between dots at the start of a text, and what follows them. Blanks may
stand around each key. -/
def keys? : (steps : Nat) → List Char → Option (List String × List Char)
  | 0, _ => none
  | steps + 1, text => do
    let (key, rest) ← key? (dropSpace text)
    match dropSpace rest with
    | '.' :: rest => do
      let (path, rest) ← keys? steps rest
      return (key :: path, rest)
    | rest => return ([key], rest)

/-- The path at the start of a text, and what follows it. -/
def path? (text : List Char) : Option (List String × List Char) :=
  keys? longestPath text

/-- The greatest depth of arrays and tables in a value. -/
def deepestValue : Nat := 80

/-- The value without quotes at the start of a text, and what follows it. -/
def plain? (text : List Char) : Option (Toml × List Char) :=
  let (written, rest) := words text
  if written = "true".toList then some (.boolean true, rest)
  else if written = "false".toList then some (.boolean false, rest)
  else if isScalar written then some (.scalar (String.ofList written), rest)
  else none

mutual

/-- The value at the start of a text, and what follows it. Arrays and tables hold at most `depth`
levels of more. -/
def value? : (steps depth : Nat) → List Char → Option (Toml × List Char)
  | 0, _, _ => none
  | steps + 1, depth, text =>
    match text, depth with
    | '[' :: _, 0 | '\x7b' :: _, 0 => none
    | '[' :: rest, depth + 1 => items? steps depth rest
    | '\x7b' :: rest, depth + 1 => members? steps depth [] rest
    | '"' :: _, _ | '\'' :: _, _ =>
      (anyString? text).map fun (content, rest) => (.string (String.ofList content), rest)
    | _, _ => plain? text

/-- The rest of an array. -/
def items? : (steps depth : Nat) → List Char → Option (Toml × List Char)
  | 0, _, _ => none
  | steps + 1, depth, text => do
    match ← dropLines false text with
    | ']' :: rest => return (.array [], rest)
    | text => do
      let (item, rest) ← value? steps depth text
      match ← dropLines false rest with
      | ',' :: rest =>
        match ← items? steps depth rest with
        | (.array items, rest) => return (.array (item :: items), rest)
        | _ => none
      | ']' :: rest => return (.array [item], rest)
      | _ => none

/-- The rest of a table between braces, given its entries so far. -/
def members? : (steps depth : Nat) → Entries → List Char → Option (Toml × List Char)
  | 0, _, _, _ => none
  | steps + 1, depth, entries, text => do
    match ← dropLines false text with
    | '\x7d' :: rest => return (.table (entriesToToml entries), rest)
    | text => do
      let (path, rest) ← path? text
      match ← dropLines false rest with
      | '=' :: rest => do
        let text ← dropLines false rest
        let (content, rest) ← value? steps depth text
        let entries ← Entries.assignPath path content .header entries
        match ← dropLines false rest with
        | ',' :: rest => members? steps depth entries rest
        | '\x7d' :: rest => return (.table (entriesToToml entries), rest)
        | _ => none
      | _ => none

end

/-- A document as far as it is read. -/
structure Progress where
  /-- The tree so far. -/
  root : Entries
  /-- The path of the table that entries go to. -/
  current : List String

/-- The progress after a header for one table. -/
def openHeader? (path : List String) (progress : Progress) : Option Progress := do
  let key ← path.getLast?
  let root ← progress.root.change false (fun _ => Entries.openTable key) .header path.dropLast
  return ⟨root, path⟩

/-- The progress after a header for an element of an array of tables. -/
def openElementHeader? (path : List String) (progress : Progress) : Option Progress := do
  let key ← path.getLast?
  let root ← progress.root.change false (fun _ => Entries.openElement key) .header path.dropLast
  return ⟨root, path⟩

/-- The progress after an entry. -/
def assign? (path : List String) (content : Toml) (progress : Progress) : Option Progress := do
  let root ← progress.root.change false (fun _ => Entries.assignPath path content .header) .header
    progress.current
  return ⟨root, progress.current⟩

/-- The progress after the header or entry that starts a text, and what follows it on its line. -/
def expression? (progress : Progress) (text : List Char) : Option (Progress × List Char) :=
  match text with
  | '[' :: '[' :: rest => do
    let (path, rest) ← path? rest
    match rest with
    | ']' :: ']' :: rest => do
      let progress ← openElementHeader? path progress
      return (progress, rest)
    | _ => none
  | '[' :: rest => do
    let (path, rest) ← path? rest
    match rest with
    | ']' :: rest => do
      let progress ← openHeader? path progress
      return (progress, rest)
    | _ => none
  | _ => do
    let (path, rest) ← path? text
    match rest with
    | '=' :: rest => do
      let (content, rest) ← value? text.length deepestValue (dropSpace rest)
      let progress ← assign? path content progress
      return (progress, rest)
    | _ => none

/-- The progress after all lines of a text. -/
def lines? : (steps : Nat) → Progress → List Char → Option Progress
  | 0, _, _ => none
  | steps + 1, progress, text =>
    match dropSpace text with
    | [] => some progress
    | c :: rest =>
      if c = '#' ∨ c = '\n' ∨ c = '\r' then (afterLine? (c :: rest)).bind (lines? steps progress)
      else do
        let (progress, rest) ← expression? progress (c :: rest)
        let rest ← afterLine? rest
        lines? steps progress rest

/-- A text without a byte order mark in front. -/
def dropByteOrderMark : List Char → List Char
  | '\uFEFF' :: rest => rest
  | text => text

/-- The entries of a text. -/
def parse? (text : String) : Option (List (String × Toml)) :=
  let text := dropByteOrderMark text.toList
  (lines? (text.length + 1) ⟨[], []⟩ text).map fun progress => entriesToToml progress.root

end Toml

end LlamaGateway
