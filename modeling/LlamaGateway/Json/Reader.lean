import LlamaGateway.Json.Token

/-!
# JSON documents

A document is JSON text taken apart: members keep their order and may repeat a key. A part that is
well formed and has no value, because it nests too deeply or holds a string or number without a
value, is `unreadable`; it does no harm where a reader ignores it. `Document.toJson?` turns a
document into free-form data.

A record is written as an object, or as an array of its fields in order. A field is required,
optional (absent or `null`) or has a default (absent only). Unknown members are ignored; a known
one may not occur twice.
-/

namespace LlamaGateway

namespace Json

/-- JSON text taken apart. -/
inductive Document where
  /-- The value `null`. -/
  | null
  /-- A truth value. -/
  | boolean (value : Bool)
  /-- A number. -/
  | number (value : Number)
  /-- A string. -/
  | string (value : String)
  /-- An array. -/
  | array (items : List Document)
  /-- An object; a key may occur more than once. -/
  | object (members : List (String × Document))
  /-- A well-formed part without a value. -/
  | unreadable
deriving Repr, Inhabited

namespace Document

/-- A container that is not closed yet. -/
inductive Frame where
  /-- An array with the items so far, last first. -/
  | array (before : List Document)
  /-- An object with the members so far, last first, and the key of the member being read. -/
  | object (before : List (Option String × Document)) (key : Option String)

/-- What may come next. -/
inductive Expectation where
  /-- A value. -/
  | value
  /-- The first item of an array, or its end. -/
  | itemOrEnd
  /-- The first key of an object, or its end. -/
  | keyOrEnd
  /-- A key. -/
  | key
  /-- The colon after a key. -/
  | colon
  /-- A comma, or the end of the innermost container. -/
  | commaOrEnd
deriving DecidableEq, Repr

/-- A document as far as it is read. -/
inductive Builder where
  | reading (frames : List Frame) (expectation : Expectation)
  | finished (document : Document)

/-- The deepest nesting that still has a value. -/
def maxDepth : Nat := 127

/-- The closed form of a container at a nesting depth. -/
def Frame.close (depth : Nat) (frame : Frame) : Document :=
  if maxDepth < depth then .unreadable
  else
    match frame with
    | .array before => .array before.reverse
    | .object before _ =>
      match before.reverse.mapM fun (key, value) => key.map fun key => (key, value) with
      | some members => .object members
      | none => .unreadable

namespace Builder

/-- The state after a complete value. -/
def deliver (document : Document) : List Frame → Builder
  | [] => .finished document
  | .array before :: frames => .reading (.array (document :: before) :: frames) .commaOrEnd
  | .object before key :: frames =>
    .reading (.object ((key, document) :: before) none :: frames) .commaOrEnd

/-- The state after a token that starts a value. -/
def startValue? (frames : List Frame) : Token → Option Builder
  | .openBracket => some (.reading (.array [] :: frames) .itemOrEnd)
  | .openBrace => some (.reading (.object [] none :: frames) .keyOrEnd)
  | .null => some (deliver .null frames)
  | .boolean value => some (deliver (.boolean value) frames)
  | .number (some value) => some (deliver (.number value) frames)
  | .string (some value) => some (deliver (.string value) frames)
  | .number none | .string none => some (deliver .unreadable frames)
  | .closeBrace | .closeBracket | .comma | .colon => none

/-- The state after the end of the innermost container. -/
def close? : List Frame → Token → Option Builder
  | .array before :: frames, .closeBracket =>
    some (deliver (Frame.close (frames.length + 1) (.array before)) frames)
  | .object before key :: frames, .closeBrace =>
    some (deliver (Frame.close (frames.length + 1) (.object before key)) frames)
  | _, _ => none

/-- The state after a key. -/
def key? : List Frame → Token → Option Builder
  | .object before _ :: frames, .string key => some (.reading (.object before key :: frames) .colon)
  | _, _ => none

/-- The state after a comma. -/
def comma? : List Frame → Option Builder
  | .array before :: frames => some (.reading (.array before :: frames) .value)
  | .object before key :: frames => some (.reading (.object before key :: frames) .key)
  | [] => none

/-- The state after one more token. -/
def step? : Builder → Token → Option Builder
  | .finished _, _ => none
  | .reading frames .value, token => startValue? frames token
  | .reading frames .itemOrEnd, token =>
    (close? frames token).orElse fun _ => startValue? frames token
  | .reading frames .keyOrEnd, token =>
    (close? frames token).orElse fun _ => key? frames token
  | .reading frames .key, token => key? frames token
  | .reading frames .colon, token => if token = .colon then some (.reading frames .value) else none
  | .reading frames .commaOrEnd, token =>
    if token = .comma then comma? frames else close? frames token

/-- The state after a list of tokens. -/
def run? : Builder → List Token → Option Builder
  | state, [] => some state
  | state, token :: tokens => (state.step? token).bind fun state => run? state tokens

end Builder

/-- The document of a list of tokens, which holds exactly one value. -/
def ofTokens? (tokens : List Token) : Option Document :=
  match Builder.run? (.reading [] .value) tokens with
  | some (.finished document) => some document
  | _ => none

/-- The document of a text. -/
def ofText? (text : List Char) : Option Document :=
  (Token.ofText? text).bind ofTokens?

mutual

/-- The document has no unreadable part. -/
def readable : Document → Bool
  | .array items => readableItems items
  | .object members => readableMembers members
  | .unreadable => false
  | .null | .boolean _ | .number _ | .string _ => true

/-- No item has an unreadable part. -/
def readableItems : List Document → Bool
  | [] => true
  | item :: rest => readable item && readableItems rest

/-- No member has an unreadable part. -/
def readableMembers : List (String × Document) → Bool
  | [] => true
  | (_, value) :: rest => readable value && readableMembers rest

end

mutual

/-- The free-form value of a document: members are sorted by key and the last one of a key counts.
An unreadable part anywhere leaves no value. -/
def toJson? : Document → Option Json
  | .null => some .null
  | .boolean value => some (.boolean value)
  | .number value => some (.number value)
  | .string value => some (.string value)
  | .array items => (itemsToJson? items).map .array
  | .object members => (membersToJson? members).map fun members => .object (Fields.ofList members)
  | .unreadable => none

/-- The values of the items, in order. -/
def itemsToJson? : List Document → Option (List Json)
  | [] => some []
  | item :: rest => do
    let item ← toJson? item
    let rest ← itemsToJson? rest
    return item :: rest

/-- The members with their values, in order. -/
def membersToJson? : List (String × Document) → Option (List (String × Json))
  | [] => some []
  | (key, value) :: rest => do
    let value ← toJson? value
    let rest ← membersToJson? rest
    return (key, value) :: rest

end

end Document

mutual

/-- The document that a value is written as. -/
def toDocument : Json → Document
  | .null => .null
  | .boolean value => .boolean value
  | .number value => .number value
  | .string value => .string value
  | .array items => .array (itemsToDocument items)
  | .object members => .object (membersToDocument members)

/-- The documents of items, in order. -/
def itemsToDocument : List Json → List Document
  | [] => []
  | item :: rest => toDocument item :: itemsToDocument rest

/-- The documents of members, in order. -/
def membersToDocument : List (String × Json) → List (String × Document)
  | [] => []
  | (key, value) :: rest => (key, toDocument value) :: membersToDocument rest

end

/-- The free-form value that a text holds. -/
def parse? (text : String) : Option Json :=
  (Document.ofText? text.toList).bind Document.toJson?

/-- The free-form object that a text holds. -/
def parseFields? (text : String) : Option Fields :=
  match parse? text with
  | some (.object fields) => some fields
  | _ => none

namespace Document

/-- The text of a string. -/
def string? : Document → Option String
  | .string value => some value
  | _ => none

/-- A truth value. -/
def boolean? : Document → Option Bool
  | .boolean value => some value
  | _ => none

/-- An integer from zero up to a bound. -/
def natural? (bound : Nat) : Document → Option Nat
  | .number (.integer (.ofNat value)) => if value ≤ bound then some value else none
  | _ => none

/-- A number as a floating-point value, rounded if it is an integer. -/
def floating? : Document → Option Floating
  | .number (.integer value) => some (Floating.Format.double.ofInt value)
  | .number (.floating value) => some value
  | _ => none

/-- A number as a value of single width. -/
def single? : Document → Option Floating
  | .number (.integer value) => some (Floating.Format.single.ofInt value)
  | .number (.floating value) => some (Floating.Format.single.convert value)
  | _ => none

/-- A byte. -/
def byte? (document : Document) : Option UInt8 :=
  (document.natural? 255).map UInt8.ofNat

/-- The members of a free-form object. -/
def fields? (document : Document) : Option Fields :=
  match document with
  | .object members => (membersToJson? members).map Fields.ofList
  | _ => none

/-- The items of an array, each read by the same reader. -/
def items? {α : Type} (read : Document → Option α) : Document → Option (List α)
  | .array items => items.mapM read
  | _ => none

/-- `none` for `null`, and otherwise what the reader makes of the value. -/
def nullable {α : Type} (read : Document → Option α) : Document → Option (Option α)
  | .null => some none
  | document => (read document).map some

/-- The largest unsigned 32-bit integer. -/
def word32Max : Nat := Nat.pow 2 32 - 1

/-- The entries of an ordered map with one more: a repeated key keeps its first place and takes the
new value. -/
def putEntry {α : Type} (key : String) (value : α) : List (String × α) → List (String × α)
  | [] => [(key, value)]
  | (first, held) :: rest =>
    if first = key then (key, value) :: rest else (first, held) :: putEntry key value rest

/-- The entries of an ordered map, each value read by the same reader. -/
def entries? {α : Type} (read : Document → Option α) : Document → Option (List (String × α))
  | .object members => do
    let entries ← members.mapM fun (key, value) => (read value).map fun value => (key, value)
    return entries.foldl (fun map (key, value) => putEntry key value map) []
  | _ => none

/-- A choice among names: the name, or an object with the name as its only member and a value that
stands for nothing. -/
def choice? {α : Type} (isNothing : Document → Bool) (named : String → Option α) :
    Document → Option α
  | .string name => named name
  | .object [(name, payload)] => if isNothing payload then named name else none
  | _ => none

/-- The value `null`. -/
def isNull : Document → Bool
  | .null => true
  | _ => false

/-- The value `null` or an object without members. -/
def isNullOrEmpty : Document → Bool
  | .null | .object [] => true
  | _ => false

/-- The value of the one member with a key; `some none` if there is none, and `none` if the key
repeats. -/
def uniqueMember? (key : String) (members : List (String × Document)) :
    Option (Option Document) :=
  match members.filter fun member => member.1 = key with
  | [] => some none
  | [member] => some (some member.2)
  | _ => none

/-- The fields of a record in the order of their names, each absent or present. -/
def record? (names : List String) : Document → Option (List (Option Document))
  | .object members => names.mapM fun name => uniqueMember? name members
  | .array items =>
    if items.length ≤ names.length then
      some (items.map some ++ List.replicate (names.length - items.length) none)
    else none
  | _ => none

/-- A field that has to be there. -/
def required {α : Type} (read : Document → Option α) (field : Option Document) : Option α :=
  field.bind read

/-- A field with a default for when it is absent. -/
def withDefault {α : Type} (default : α) (read : Document → Option α) (field : Option Document) :
    Option α :=
  match field with
  | none => some default
  | some document => read document

/-- A field that may be absent or `null`. -/
def optional {α : Type} (read : Document → Option α) (field : Option Document) :
    Option (Option α) :=
  withDefault none (nullable read) field

/-- The tag of a record and the record without it. -/
def tagged? (tagName : String) : Document → Option (Document × Document)
  | .object members =>
    match members.filter fun member => member.1 = tagName with
    | [member] => some (member.2, .object (members.filter fun member => member.1 ≠ tagName))
    | _ => none
  | .array (tag :: items) => some (tag, .array items)
  | _ => none

/-- The position of a tag among the names of the variants. Inside other tagged data a variant may
also be given by its position. -/
def tagPosition? (names : List String) (nested : Bool) : Document → Option Nat
  | .string name => names.idxOf? name
  | .number (.integer (.ofNat position)) =>
    if nested ∧ position < names.length then some position else none
  | _ => none

end Document

end Json

end LlamaGateway
