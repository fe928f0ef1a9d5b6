import LlamaGateway.Floating.Basic

/-!
# JSON values

A value keeps the members of its objects in order. Free-form data keeps them sorted by key, one
member a key; `Fields` holds the operations that maintain this.
-/

namespace LlamaGateway

/-- A JSON number: an integer that was written as one, or a floating-point value. -/
inductive Json.Number where
  | integer (value : Int)
  | floating (value : Floating)
  | single (value : Floating)
deriving DecidableEq, Repr, Inhabited

/-- A JSON value. -/
inductive Json where
  /-- The value `null`. -/
  | null
  /-- A truth value. -/
  | boolean (value : Bool)
  /-- A number. -/
  | number (value : Json.Number)
  /-- A string. -/
  | string (value : String)
  /-- An array. -/
  | array (items : List Json)
  /-- An object, its members in order. -/
  | object (members : List (String × Json))
deriving Repr, Inhabited

namespace Json

mutual

/-- Equality of values, decided member by member. -/
def decideEq : (left right : Json) → Decidable (left = right)
  | .null, .null => isTrue rfl
  | .boolean left, .boolean right =>
    if same : left = right then isTrue (by rw [same]) else isFalse (by simpa using same)
  | .number left, .number right =>
    if same : left = right then isTrue (by rw [same]) else isFalse (by simpa using same)
  | .string left, .string right =>
    if same : left = right then isTrue (by rw [same]) else isFalse (by simpa using same)
  | .array left, .array right =>
    match decideItemsEq left right with
    | isTrue same => isTrue (by rw [same])
    | isFalse different => isFalse (by simpa using different)
  | .object left, .object right =>
    match decideMembersEq left right with
    | isTrue same => isTrue (by rw [same])
    | isFalse different => isFalse (by simpa using different)
  | .null, .boolean _ | .null, .number _ | .null, .string _ | .null, .array _ | .null, .object _
  | .boolean _, .null | .boolean _, .number _ | .boolean _, .string _ | .boolean _, .array _
  | .boolean _, .object _
  | .number _, .null | .number _, .boolean _ | .number _, .string _ | .number _, .array _
  | .number _, .object _
  | .string _, .null | .string _, .boolean _ | .string _, .number _ | .string _, .array _
  | .string _, .object _
  | .array _, .null | .array _, .boolean _ | .array _, .number _ | .array _, .string _
  | .array _, .object _
  | .object _, .null | .object _, .boolean _ | .object _, .number _ | .object _, .string _
  | .object _, .array _ => isFalse (by simp)

/-- Equality of item lists. -/
def decideItemsEq : (left right : List Json) → Decidable (left = right)
  | [], [] => isTrue rfl
  | [], _ :: _ | _ :: _, [] => isFalse (by simp)
  | left :: lefts, right :: rights =>
    match decideEq left right, decideItemsEq lefts rights with
    | isTrue head, isTrue tail => isTrue (by rw [head, tail])
    | isFalse different, _ => isFalse (by simp [different])
    | _, isFalse different => isFalse (by simp [different])

/-- Equality of member lists. -/
def decideMembersEq : (left right : List (String × Json)) → Decidable (left = right)
  | [], [] => isTrue rfl
  | [], _ :: _ | _ :: _, [] => isFalse (by simp)
  | (leftKey, left) :: lefts, (rightKey, right) :: rights =>
    if key : leftKey = rightKey then
      match decideEq left right, decideMembersEq lefts rights with
      | isTrue head, isTrue tail => isTrue (by rw [key, head, tail])
      | isFalse different, _ => isFalse (by simp [different])
      | _, isFalse different => isFalse (by simp [different])
    else isFalse (by simp [key])

end

instance : DecidableEq Json := decideEq

/-- The members of a free-form object: sorted by key, one member a key. -/
abbrev Fields := List (String × Json)

namespace Fields

/-- The keys of the members, in order. -/
def keys (fields : Fields) : List String :=
  fields.map Prod.fst

/-- The keys strictly increase, so no key occurs twice. -/
def Sorted (fields : Fields) : Prop :=
  (keys fields).Pairwise (· < ·)

/-- The value under a key. -/
def get? (fields : Fields) (key : String) : Option Json :=
  fields.lookup key

/-- The members with one more, which replaces a member of the same key. -/
def insert (key : String) (value : Json) : Fields → Fields
  | [] => [(key, value)]
  | (first, held) :: rest =>
    if key = first then (key, value) :: rest
    else if key < first then (key, value) :: (first, held) :: rest
    else (first, held) :: insert key value rest

/-- The members of a list of pairs; the last pair of a key counts. -/
def ofList (pairs : List (String × Json)) : Fields :=
  pairs.foldl (fun fields (key, value) => fields.insert key value) []

/-- All members of both; those of the second list win. -/
def union (fields more : Fields) : Fields :=
  more.foldl (fun fields (key, value) => fields.insert key value) fields

end Fields

/-- The free-form object with the given members. -/
def ofPairs (pairs : List (String × Json)) : Json :=
  .object (Fields.ofList pairs)

/-- The number of a natural. -/
def ofNat (value : Nat) : Json :=
  .number (.integer value)

/-- A floating-point value; one that is not finite has no number and becomes `null`. -/
def ofFloating : Floating → Json
  | .finite negative significand exponent =>
    .number (.floating (.finite negative significand exponent))
  | .infinite _ | .nan => .null

/-- A single-width value; one that is not finite becomes `null`. -/
def ofSingle : Floating → Json
  | .finite negative significand exponent =>
    .number (.single (.finite negative significand exponent))
  | .infinite _ | .nan => .null

/-- A member that is left out when it has no value. -/
def optionalMember (key : String) (value : Option Json) : List (String × Json) :=
  match value with
  | some value => [(key, value)]
  | none => []

/-- The text of a string value. -/
def string? : Json → Option String
  | .string value => some value
  | _ => none

/-- The truth value of a boolean value. -/
def boolean? : Json → Option Bool
  | .boolean value => some value
  | _ => none

end Json

end LlamaGateway
