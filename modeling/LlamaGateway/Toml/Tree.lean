/-!
# Trees of TOML values

The values of a configuration text. Numbers and dates keep their written form, since no setting
takes one. Headers and dotted keys add to one tree of tables: a table may be opened by one header
only, a table of dotted keys grows by dotted keys only, and a written value never grows.
-/

namespace LlamaGateway

/-- A TOML value. -/
inductive Toml where
  /-- A string. -/
  | string (value : String)
  /-- A truth value. -/
  | boolean (value : Bool)
  /-- A number or date, as it is written. -/
  | scalar (written : String)
  /-- An array. -/
  | array (items : List Toml)
  /-- A table. -/
  | table (entries : List (String × Toml))
deriving Repr, Inhabited

namespace Toml

/-- Entries with one more in its place by key. -/
def insertSorted (key : String) (value : Toml) : List (String × Toml) → List (String × Toml)
  | [] => [(key, value)]
  | (first, held) :: rest =>
    if key < first then (key, value) :: (first, held) :: rest
    else (first, held) :: insertSorted key value rest

/-- Entries sorted by key. -/
def sorted (entries : List (String × Toml)) : List (String × Toml) :=
  entries.foldr (fun (key, value) => insertSorted key value) []

/-- The text of a string. -/
def string? : Toml → Option String
  | .string value => some value
  | _ => none

/-- A truth value. -/
def boolean? : Toml → Option Bool
  | .boolean value => some value
  | _ => none

/-- How a table came about. -/
inductive TableKind where
  /-- As part of a longer header. -/
  | implicit
  /-- By a header of its own, or as an element of an array of tables. -/
  | header
  /-- By a dotted key. -/
  | dotted
deriving DecidableEq, Repr

/-- A tree that still grows. -/
inductive Node where
  /-- A written value. -/
  | value (content : Toml)
  /-- A table. -/
  | table (kind : TableKind) (entries : List (String × Node))
  /-- An array of tables, of which the last one grows. -/
  | elements (tables : List (List (String × Node)))

/-- The entries of a table. -/
abbrev Entries := List (String × Node)

namespace Entries

/-- The entries with another node under a key, at the end if the key is new. -/
def put (key : String) (node : Node) : Entries → Entries
  | [] => [(key, node)]
  | (first, held) :: rest =>
    if first = key then (key, node) :: rest else (first, held) :: put key node rest

/-- The entries after a change of the table that a path leads to. Missing tables on the way are
made; `byKey` tells whether the path belongs to a dotted key. -/
def change (byKey : Bool) (act : TableKind → Entries → Option Entries) (kind : TableKind) :
    List String → Entries → Option Entries
  | [], entries => act kind entries
  | key :: path, entries =>
    match entries.lookup key with
    | none =>
      let made := if byKey then TableKind.dotted else TableKind.implicit
      (change byKey act made path []).map fun inner => entries ++ [(key, .table made inner)]
    | some (.table kind inner) =>
      if byKey ∧ kind = .header then none
      else (change byKey act kind path inner).map fun inner => put key (.table kind inner) entries
    | some (.elements tables) =>
      match tables.getLast? with
      | some last =>
        (change byKey act .header path last).map fun inner =>
          put key (.elements (tables.dropLast ++ [inner])) entries
      | none => none
    | some (.value _) => none

/-- The entries with a table that a header opens. -/
def openTable (key : String) (entries : Entries) : Option Entries :=
  match entries.lookup key with
  | none => some (put key (.table .header []) entries)
  | some (.table .implicit inner) => some (put key (.table .header inner) entries)
  | some _ => none

/-- The entries with one more element of an array of tables. -/
def openElement (key : String) (entries : Entries) : Option Entries :=
  match entries.lookup key with
  | none => some (put key (.elements [[]]) entries)
  | some (.elements tables) => some (put key (.elements (tables ++ [[]])) entries)
  | some _ => none

/-- The entries with a value under a new key. -/
def assign (key : String) (content : Toml) (entries : Entries) : Option Entries :=
  match entries.lookup key with
  | none => some (put key (.value content) entries)
  | some _ => none

/-- The entries of a table with a value under a dotted key. -/
def assignPath (path : List String) (content : Toml) (kind : TableKind) (entries : Entries) :
    Option Entries :=
  match path.getLast? with
  | none => none
  | some key =>
    let place := path.dropLast
    change true
      (fun kind entries =>
        if place.isEmpty ∨ kind = .dotted then assign key content entries else none)
      kind place entries

end Entries

mutual

/-- The value of a tree. -/
def Node.toToml : Node → Toml
  | .value content => content
  | .table _ entries => .table (entriesToToml entries)
  | .elements tables => .array (tablesToToml tables)

/-- The values of entries. -/
def entriesToToml : List (String × Node) → List (String × Toml)
  | [] => []
  | (key, node) :: rest => (key, node.toToml) :: entriesToToml rest

/-- The values of tables. -/
def tablesToToml : List (List (String × Node)) → List Toml
  | [] => []
  | entries :: rest => .table (entriesToToml entries) :: tablesToToml rest

end

end Toml

end LlamaGateway
