import LlamaGateway.Json.Value

/-!
# Members of free-form objects

What stands under a key of an object that is put together from members: of several members with
that key, the last one. So each key can be looked up member by member, whatever the order of keys.
-/

namespace LlamaGateway

namespace Json

namespace Fields

@[simp] theorem get?_nil (key : String) : get? [] key = none := rfl

theorem get?_cons (first key : String) (held : Json) (rest : Fields) :
    get? ((first, held) :: rest) key = if key = first then some held else get? rest key := by
  by_cases same : key = first
  · simp [get?, same]
  · simp [get?, List.lookup_cons, same, beq_false_of_ne same]

@[simp] theorem get?_insert (fields : Fields) (key other : String) (value : Json) :
    (fields.insert key value).get? other =
      if other = key then some value else fields.get? other := by
  induction fields with
  | nil => exact get?_cons key other value []
  | cons member rest induction =>
    obtain ⟨first, held⟩ := member
    rw [insert]
    by_cases isFirst : key = first
    · subst isFirst
      rw [if_pos rfl, get?_cons, get?_cons]
      by_cases same : other = key <;> simp [same]
    · rw [if_neg isFirst]
      by_cases earlier : key < first
      · rw [if_pos earlier, get?_cons]
      · rw [if_neg earlier, get?_cons, get?_cons, induction]
        by_cases same : other = key
        · simp [same, isFirst]
        · simp [same]

/-- What is put in later counts. -/
@[simp] theorem get?_union (fields more : Fields) (key : String) :
    (fields.union more).get? key = ((ofList more).get? key).or (fields.get? key) := by
  induction more generalizing fields with
  | nil => rfl
  | cons member more induction =>
    obtain ⟨first, value⟩ := member
    have whole : fields.union ((first, value) :: more) = (fields.insert first value).union more :=
      rfl
    have alone : ofList ((first, value) :: more) = union [(first, value)] more := rfl
    rw [whole, alone, induction, induction, get?_insert, get?_cons]
    by_cases same : key = first <;> simp [same]

@[simp] theorem get?_ofList_nil (key : String) : (ofList []).get? key = none := rfl

@[simp] theorem get?_ofList_cons (first key : String) (value : Json)
    (rest : List (String × Json)) :
    (ofList ((first, value) :: rest)).get? key =
      ((ofList rest).get? key).or (if key = first then some value else none) := by
  have whole : ofList ((first, value) :: rest) = union [(first, value)] rest := rfl
  rw [whole, get?_union, get?_cons, get?_nil]

@[simp] theorem get?_ofList_append (front back : List (String × Json)) (key : String) :
    (ofList (front ++ back)).get? key =
      ((ofList back).get? key).or ((ofList front).get? key) := by
  have whole : ofList (front ++ back) = union (ofList front) back := List.foldl_append ..
  rw [whole, get?_union]

theorem get?_ofList_eq_none {pairs : List (String × Json)} {key : String}
    (absent : key ∉ pairs.map Prod.fst) : (ofList pairs).get? key = none := by
  induction pairs with
  | nil => rfl
  | cons pair pairs induction =>
    obtain ⟨absentFirst, absentRest⟩ := not_or.1 (mt List.mem_cons.2 absent)
    rw [get?_ofList_cons, induction absentRest, if_neg absentFirst]
    rfl

/-- The members have no other key. -/
def OnlyKey (key : String) (pairs : List (String × Json)) : Prop :=
  ∀ other ∈ pairs.map Prod.fst, other = key

theorem OnlyKey.get?_ofList {pairs : List (String × Json)} {key other : String}
    (only : OnlyKey key pairs) (different : other ≠ key) : (ofList pairs).get? other = none :=
  get?_ofList_eq_none fun member => different (only other member)

/-- The keys of an object are those under which something stands. -/
theorem mem_keys_iff {fields : Fields} {key : String} :
    key ∈ fields.keys ↔ (fields.get? key).isSome := by
  induction fields with
  | nil => simp [keys]
  | cons member rest induction =>
    obtain ⟨first, held⟩ := member
    have rest_iff : key ∈ rest.map Prod.fst ↔ (get? rest key).isSome := induction
    rw [keys, List.map_cons, List.mem_cons, rest_iff, get?_cons]
    by_cases same : key = first <;> simp [same]

theorem mem_of_get? {fields : Fields} {key : String} {value : Json}
    (found : fields.get? key = some value) : (key, value) ∈ fields := by
  induction fields with
  | nil => cases found
  | cons member rest induction =>
    obtain ⟨first, held⟩ := member
    rw [get?_cons] at found
    split at found
    · next same =>
      cases found
      rw [same]
      exact List.mem_cons_self
    · exact List.mem_cons_of_mem _ (induction found)

theorem mem_keys_insert {fields : Fields} {key other : String} {value : Json} :
    other ∈ (fields.insert key value).keys ↔ other = key ∨ other ∈ fields.keys := by
  rw [mem_keys_iff, mem_keys_iff, get?_insert]
  by_cases same : other = key <;> simp [same]

/-- An object that is put together from members has no other keys. -/
theorem mem_of_get?_ofList {pairs : List (String × Json)} {key : String}
    (present : ((ofList pairs).get? key).isSome) : key ∈ pairs.map Prod.fst := by
  refine Decidable.byContradiction fun absent => ?_
  rw [get?_ofList_eq_none absent] at present
  cases present

/-- The keys of an object are those of the members that it is put together from. -/
theorem mem_keys_ofList {pairs : List (String × Json)} {key : String} :
    key ∈ (ofList pairs).keys ↔ key ∈ pairs.map Prod.fst := by
  rw [mem_keys_iff]
  constructor
  · exact mem_of_get?_ofList
  · intro member
    induction pairs with
    | nil => cases member
    | cons pair pairs induction =>
      rw [get?_ofList_cons, Option.isSome_or, Bool.or_eq_true]
      rcases List.mem_cons.1 member with same | later
      · exact .inr (by rw [if_pos same]; rfl)
      · exact .inl (induction later)

/-- One more member keeps the keys in order. -/
theorem Sorted.insert {fields : Fields} (sorted : fields.Sorted) (key : String) (value : Json) :
    (fields.insert key value).Sorted := by
  induction fields with
  | nil => exact List.pairwise_singleton ..
  | cons member rest induction =>
    obtain ⟨first, held⟩ := member
    obtain ⟨below, sortedRest⟩ := List.pairwise_cons.1 sorted
    rw [Fields.insert]
    by_cases isFirst : key = first
    · rw [if_pos isFirst, isFirst]
      exact List.pairwise_cons.2 ⟨below, sortedRest⟩
    · rw [if_neg isFirst]
      by_cases earlier : key < first
      · rw [if_pos earlier]
        refine List.pairwise_cons.2 ⟨fun other member => ?_, sorted⟩
        rcases List.mem_cons.1 member with rfl | inRest
        · exact earlier
        · exact String.lt_trans earlier (below other inRest)
      · rw [if_neg earlier]
        refine List.pairwise_cons.2 ⟨fun other member => ?_, induction sortedRest⟩
        rcases mem_keys_insert.1 member with rfl | inRest
        · exact Std.lt_of_le_of_ne earlier (Ne.symm isFirst)
        · exact below other inRest

/-- More members keep the keys in order. -/
theorem Sorted.union {fields : Fields} (sorted : fields.Sorted) (more : Fields) :
    (fields.union more).Sorted := by
  induction more generalizing fields with
  | nil => exact sorted
  | cons member more induction => exact induction (sorted.insert member.1 member.2)

/-- An object that is put together from members has its keys in order. -/
theorem sorted_ofList (pairs : List (String × Json)) : (ofList pairs).Sorted := by
  have empty : Fields.Sorted [] := .nil
  exact empty.union pairs

theorem Sorted.nodup {fields : Fields} (sorted : fields.Sorted) : fields.keys.Nodup :=
  sorted.imp String.ne_of_lt

theorem insert_of_greatest {fields : Fields} {key : String} (value : Json)
    (greatest : ∀ other ∈ fields.keys, other < key) :
    fields.insert key value = fields ++ [(key, value)] := by
  induction fields with
  | nil => rfl
  | cons member rest induction =>
    obtain ⟨first, held⟩ := member
    obtain ⟨below, belowRest⟩ := List.forall_mem_cons.1 greatest
    have notFirst : key ≠ first := (String.ne_of_lt below).symm
    have notEarlier : ¬ key < first := String.lt_asymm below
    rw [insert, if_neg notFirst, if_neg notEarlier, induction belowRest, List.cons_append]

theorem Sorted.union_eq {fields more : Fields} (sorted : Sorted (fields ++ more)) :
    fields.union more = fields ++ more := by
  induction more generalizing fields with
  | nil => exact (List.append_nil fields).symm
  | cons member more induction =>
    obtain ⟨key, value⟩ := member
    have keys_eq : keys (fields ++ (key, value) :: more) = keys fields ++ key :: keys more :=
      List.map_append ..
    have greatest : ∀ other ∈ keys fields, other < key := by
      intro other inFields
      rw [Sorted, keys_eq] at sorted
      exact (List.pairwise_append.1 sorted).2.2 other inFields key List.mem_cons_self
    have whole : fields.union ((key, value) :: more) = (fields.insert key value).union more := rfl
    have moved : fields ++ (key, value) :: more = (fields ++ [(key, value)]) ++ more := by simp
    rw [moved] at sorted
    rw [whole, insert_of_greatest value greatest, induction sorted, moved]

/-- To put an object together from its own members changes nothing. -/
theorem Sorted.ofList_eq {fields : Fields} (sorted : fields.Sorted) : ofList fields = fields := by
  have appended : Sorted ([] ++ fields) := sorted
  exact appended.union_eq

/-- To put an object together from its own members changes nothing under any key. -/
theorem Sorted.get?_ofList {fields : Fields} (sorted : fields.Sorted) (key : String) :
    (ofList fields).get? key = fields.get? key := by
  rw [sorted.ofList_eq]

theorem mem_of_mem_insert {fields : Fields} {key : String} {value : Json}
    {member : String × Json} (inserted : member ∈ fields.insert key value) :
    member = (key, value) ∨ member ∈ fields := by
  induction fields with
  | nil => exact .inl (List.mem_singleton.1 inserted)
  | cons held rest induction =>
    rw [insert] at inserted
    split at inserted
    · rcases List.mem_cons.1 inserted with same | inRest
      · exact .inl same
      · exact .inr (List.mem_cons_of_mem held inRest)
    · split at inserted
      · exact List.mem_cons.1 inserted
      · rcases List.mem_cons.1 inserted with same | later
        · exact .inr (List.mem_cons.2 (.inl same))
        · exact (induction later).imp_right (List.mem_cons_of_mem held)

theorem mem_of_mem_union {fields more : Fields} {member : String × Json}
    (united : member ∈ fields.union more) : member ∈ fields ∨ member ∈ more := by
  induction more generalizing fields with
  | nil => exact .inl united
  | cons first more induction =>
    rcases induction united with inserted | later
    · rcases mem_of_mem_insert inserted with same | inFields
      · exact .inr (List.mem_cons.2 (.inl same))
      · exact .inl inFields
    · exact .inr (List.mem_cons_of_mem first later)

/-- An object that is put together from members holds no others. -/
theorem mem_of_mem_ofList {pairs : List (String × Json)} {member : String × Json}
    (inObject : member ∈ ofList pairs) : member ∈ pairs :=
  (mem_of_mem_union inObject).resolve_left List.not_mem_nil

end Fields

/-- The value of a member of an object. -/
def member? (key : String) : Json → Option Json
  | .object fields => Fields.get? fields key
  | _ => none

/-- The items of an array, none of another value. -/
def items : Json → List Json
  | .array items => items
  | _ => []

@[simp] theorem member?_ofPairs (key : String) (pairs : List (String × Json)) :
    (ofPairs pairs).member? key = (Fields.ofList pairs).get? key := rfl

@[simp] theorem items_array (values : List Json) : (array values).items = values := rfl

end Json

end LlamaGateway
