import LlamaGateway.Json.Reader
import LlamaGateway.Proofs.Json.Building
import LlamaGateway.Proofs.Json.Fields

/-!
# Stable values

A reader and a writer agree on a value if the reader makes the value again of what the writer makes
of it. A reader is stable if they agree on all it reads, whatever the form in which it was given.
The written form never nests deeper than what was read, so it stays within the limit on depth.
-/

namespace LlamaGateway

namespace Json

theorem itemsToDocument_eq_map (items : List Json) :
    itemsToDocument items = items.map toDocument := by
  induction items with
  | nil => rfl
  | cons item items induction => rw [itemsToDocument, induction, List.map_cons]

theorem membersToDocument_eq_map (members : List (String × Json)) :
    membersToDocument members = members.map fun member => (member.1, member.2.toDocument) := by
  induction members with
  | nil => rfl
  | cons member members induction =>
    obtain ⟨key, value⟩ := member
    rw [membersToDocument, induction, List.map_cons]

theorem depth_array_le {items : List Json} {bound : Nat}
    (each : ∀ item ∈ items, item.toDocument.depth ≤ bound) :
    (array items).toDocument.depth ≤ bound + 1 := by
  rw [toDocument, itemsToDocument_eq_map, Document.depth]
  refine Nat.succ_le_succ (Document.itemsDepth_le_iff.2 fun document member => ?_)
  obtain ⟨item, inItems, rfl⟩ := List.mem_map.1 member
  exact each item inItems

theorem depth_object_le {members : List (String × Json)} {bound : Nat}
    (each : ∀ member ∈ members, member.2.toDocument.depth ≤ bound) :
    (object members).toDocument.depth ≤ bound + 1 := by
  rw [toDocument, membersToDocument_eq_map, Document.depth]
  refine Nat.succ_le_succ (Document.membersDepth_le_iff.2 fun written member => ?_)
  obtain ⟨held, inMembers, rfl⟩ := List.mem_map.1 member
  exact each held inMembers

namespace Document

mutual

/-- Free-form data is made of every document without an unreadable part. -/
theorem isSome_toJson? : ∀ document : Document, document.toJson?.isSome = document.readable
  | .null | .boolean _ | .number _ | .string _ | .unreadable => rfl
  | .array items => by rw [toJson?, Option.isSome_map, isSome_itemsToJson? items, readable]
  | .object members => by rw [toJson?, Option.isSome_map, isSome_membersToJson? members, readable]

theorem isSome_itemsToJson? :
    ∀ items : List Document, (itemsToJson? items).isSome = readableItems items
  | [] => rfl
  | item :: items => by
    rw [readableItems, ← isSome_toJson? item, ← isSome_itemsToJson? items, itemsToJson?]
    cases toJson? item <;> cases itemsToJson? items <;> rfl

theorem isSome_membersToJson? :
    ∀ members : List (String × Document), (membersToJson? members).isSome = readableMembers members
  | [] => rfl
  | (key, value) :: members => by
    rw [readableMembers, ← isSome_toJson? value, ← isSome_membersToJson? members, membersToJson?]
    cases toJson? value <;> cases membersToJson? members <;> rfl

end

end Document

mutual

/-- What a value is written as has no unreadable part. -/
@[simp] theorem readable_toDocument : ∀ value : Json, value.toDocument.readable = true
  | .null | .boolean _ | .number _ | .string _ => rfl
  | .array items => readable_itemsToDocument items
  | .object members => readable_membersToDocument members

theorem readable_itemsToDocument :
    ∀ items : List Json, Document.readableItems (itemsToDocument items) = true
  | [] => rfl
  | item :: items => by
    simp [itemsToDocument, Document.readableItems, readable_toDocument item,
      readable_itemsToDocument items]

theorem readable_membersToDocument :
    ∀ members : List (String × Json), Document.readableMembers (membersToDocument members) = true
  | [] => rfl
  | (key, value) :: members => by
    simp [membersToDocument, Document.readableMembers, readable_toDocument value,
      readable_membersToDocument members]

end

namespace Document

variable {α β : Type}

/-- The value is read again from what it is written as, which nests at most so deeply. -/
structure Settled (read : Document → Option α) (write : α → Json) (bound : Nat) (value : α) :
    Prop where
  again : read (write value).toDocument = some value
  depth_le : (write value).toDocument.depth ≤ bound

/-- Whatever is read is read again from what it is written as, which nests no deeper. -/
def Stable (read : Document → Option α) (write : α → Json) : Prop :=
  ∀ document value, read document = some value → Settled read write document.depth value

theorem Settled.mono {read : Document → Option α} {write : α → Json} {bound greater : Nat}
    {value : α} (settled : Settled read write bound value) (le : bound ≤ greater) :
    Settled read write greater value :=
  ⟨settled.again, Nat.le_trans settled.depth_le le⟩

theorem stable_string? : Stable string? .string := by
  intro document value read
  unfold string? at read
  split at read <;> cases read
  exact ⟨rfl, Nat.le_refl _⟩

theorem stable_boolean? : Stable boolean? .boolean := by
  intro document value read
  unfold boolean? at read
  split at read <;> cases read
  exact ⟨rfl, Nat.le_refl _⟩

theorem stable_byte? : Stable byte? fun byte => .ofNat byte.toNat := by
  intro document byte read
  have fits : byte.toNat ≤ 255 := Nat.le_of_lt_succ byte.toNat_lt
  have written : (Json.ofNat byte.toNat).toDocument = .number (.integer (.ofNat byte.toNat)) := rfl
  refine ⟨?_, Nat.zero_le _⟩
  rw [written, byte?, natural?, if_pos fits, Option.map_some, UInt8.ofNat_toNat]

/-- A name of a choice is read again from the name alone. -/
theorem stable_choice? {isNothing : Document → Bool} {named : String → Option α}
    {name : α → String} (named_name : ∀ value, named (name value) = some value) :
    Stable (choice? isNothing named) fun value => .string (name value) :=
  fun _ value _ => ⟨named_name value, Nat.zero_le _⟩

theorem Settled.items {read : Document → Option α} {write : α → Json} {bound : Nat}
    {values : List α} (each : ∀ value ∈ values, Settled read write bound value) :
    Settled (items? read) (fun values => .array (values.map write)) (bound + 1) values where
  again := by
    rw [toDocument, itemsToDocument_eq_map, List.map_map, items?]
    exact mapM_map_of_forall fun value member => (each value member).again
  depth_le := by
    refine depth_array_le fun item member => ?_
    obtain ⟨value, inValues, rfl⟩ := List.mem_map.1 member
    exact (each value inValues).depth_le

theorem stable_items? {read : Document → Option α} {write : α → Json} (stable : Stable read write) :
    Stable (items? read) fun values => .array (values.map write) := by
  intro document values all
  unfold items? at all
  split at all
  · next items =>
    refine Settled.items fun value member => ?_
    obtain ⟨item, inItems, read⟩ := exists_of_mem_mapM all member
    exact (stable item value read).mono (itemsDepth_le_iff.1 (Nat.le_refl _) item inItems)
  · cases all

theorem itemsToJson?_eq_mapM (items : List Document) :
    itemsToJson? items = items.mapM toJson? := by
  induction items with
  | nil => rfl
  | cons item items induction => rw [itemsToJson?, induction, List.mapM_cons]

theorem membersToJson?_eq_mapM (members : List (String × Document)) :
    membersToJson? members =
      members.mapM fun member => (toJson? member.2).map fun value => (member.1, value) := by
  induction members with
  | nil => rfl
  | cons member members induction =>
    obtain ⟨key, value⟩ := member
    rw [membersToJson?, induction, List.mapM_cons]
    cases toJson? value <;> rfl

theorem fields?_eq_some_iff {document : Document} {fields : Fields} :
    document.fields? = some fields ↔ document.toJson? = some (.object fields) := by
  cases document <;> simp [fields?, toJson?]

theorem Settled.array {bound : Nat} {values : List Json}
    (each : ∀ value ∈ values, Settled toJson? id bound value) :
    Settled toJson? id (bound + 1) (.array values) where
  again := by
    have read : (values.map toDocument).mapM toJson? = some values :=
      mapM_map_of_forall fun value member => (each value member).again
    rw [id, toDocument, itemsToDocument_eq_map, toJson?, itemsToJson?_eq_mapM, read,
      Option.map_some]
  depth_le := depth_array_le fun value member => (each value member).depth_le

theorem Settled.object {bound : Nat} {fields : Fields} (sorted : fields.Sorted)
    (each : ∀ member ∈ fields, Settled toJson? id bound member.2) :
    Settled toJson? id (bound + 1) (.object fields) where
  again := by
    have read : membersToJson? (fields.map fun member => (member.1, member.2.toDocument)) =
        some fields := by
      rw [membersToJson?_eq_mapM]
      refine mapM_map_of_forall fun member inFields => ?_
      have value : toJson? member.2.toDocument = some member.2 := (each member inFields).again
      rw [value, Option.map_some]
    rw [id, toDocument, membersToDocument_eq_map, toJson?, read, Option.map_some, sorted.ofList_eq]
  depth_le := depth_object_le fun member inFields => (each member inFields).depth_le

/-- Each member of a free-form object is read from one of the members that it is put together
from. -/
theorem exists_of_mem_ofList {members : List (String × Document)} {pairs : List (String × Json)}
    (read : membersToJson? members = some pairs) {member : String × Json}
    (inFields : member ∈ Fields.ofList pairs) :
    ∃ document, (member.1, document) ∈ members ∧ document.toJson? = some member.2 := by
  rw [membersToJson?_eq_mapM] at read
  obtain ⟨⟨key, document⟩, inMembers, value⟩ :=
    exists_of_mem_mapM read (Fields.mem_of_mem_ofList inFields)
  obtain ⟨value, readValue, rfl⟩ := Option.map_eq_some_iff.1 value
  exact ⟨document, inMembers, readValue⟩

/-- Free-form data is read again from what it is written as. -/
theorem stable_toJson? : Stable toJson? id
  | .null, _, rfl | .boolean _, _, rfl | .number _, _, rfl | .string _, _, rfl =>
    ⟨rfl, Nat.le_refl _⟩
  | .array items, _, all => by
    obtain ⟨values, read, rfl⟩ := Option.map_eq_some_iff.1 all
    rw [itemsToJson?_eq_mapM] at read
    refine Settled.array fun value member => ?_
    obtain ⟨item, inItems, readItem⟩ := exists_of_mem_mapM read member
    have smaller := List.sizeOf_lt_of_mem inItems
    exact (stable_toJson? item value readItem).mono
      (itemsDepth_le_iff.1 (Nat.le_refl _) item inItems)
  | .object members, _, all => by
    obtain ⟨pairs, read, rfl⟩ := Option.map_eq_some_iff.1 all
    refine Settled.object (Fields.sorted_ofList pairs) fun member inFields => ?_
    obtain ⟨document, inMembers, value⟩ := exists_of_mem_ofList read inFields
    have smaller : sizeOf document < sizeOf members := by
      have member_lt := List.sizeOf_lt_of_mem inMembers
      rw [Prod.mk.sizeOf_spec] at member_lt
      omega
    exact (stable_toJson? document member.2 value).mono
      (membersDepth_le_iff.1 (Nat.le_refl _) _ inMembers)
termination_by document => document

theorem eq_null_of_toJson? (document : Document) (value : Json)
    (read : document.toJson? = some value) (null : id value = .null) : document = .null := by
  cases null
  cases document <;> simp [toJson?] at read ⊢

theorem stable_fields? : Stable fields? .object := by
  intro document fields read
  obtain ⟨again, depth_le⟩ := stable_toJson? document _ (fields?_eq_some_iff.1 read)
  exact ⟨fields?_eq_some_iff.2 again, depth_le⟩

theorem putEntry_of_new {key : String} (value : α) {entries : List (String × α)}
    (new : key ∉ entries.map Prod.fst) :
    putEntry key value entries = entries ++ [(key, value)] := by
  induction entries with
  | nil => rfl
  | cons entry entries induction =>
    obtain ⟨other, later⟩ := not_or.1 (mt List.mem_cons.2 new)
    rw [putEntry, if_neg (Ne.symm other), induction later, List.cons_append]

theorem mem_keys_putEntry {key other : String} {value : α} {entries : List (String × α)} :
    other ∈ (putEntry key value entries).map Prod.fst ↔
      other = key ∨ other ∈ entries.map Prod.fst := by
  induction entries with
  | nil => simp [putEntry]
  | cons entry entries induction =>
    obtain ⟨first, held⟩ := entry
    rw [putEntry]
    split
    · next same => simp [same]
    · simp only [List.map_cons, List.mem_cons, induction]
      exact or_left_comm

theorem nodup_keys_putEntry {key : String} {value : α} {entries : List (String × α)}
    (distinct : (entries.map Prod.fst).Nodup) :
    ((putEntry key value entries).map Prod.fst).Nodup := by
  induction entries with
  | nil => simp [putEntry]
  | cons entry entries induction =>
    obtain ⟨first, held⟩ := entry
    obtain ⟨new, later⟩ := List.nodup_cons.1 distinct
    rw [putEntry]
    split
    · next same =>
      subst same
      exact List.nodup_cons.2 ⟨new, later⟩
    · next other =>
      refine List.nodup_cons.2 ⟨fun member => ?_, induction later⟩
      rcases mem_keys_putEntry.1 member with same | inEntries
      · exact other same
      · exact new inEntries

theorem mem_of_mem_putEntry {key : String} {value : α} {entries : List (String × α)}
    {entry : String × α} (member : entry ∈ putEntry key value entries) :
    entry = (key, value) ∨ entry ∈ entries := by
  induction entries with
  | nil => exact .inl (List.mem_singleton.1 member)
  | cons held rest induction =>
    rw [putEntry] at member
    split at member
    · rcases List.mem_cons.1 member with same | inRest
      · exact .inl same
      · exact .inr (List.mem_cons_of_mem held inRest)
    · rcases List.mem_cons.1 member with same | later
      · exact .inr (List.mem_cons.2 (.inl same))
      · exact (induction later).imp_right (List.mem_cons_of_mem held)

/-- The entries with more put in, one after the other. -/
def putAll (entries more : List (String × α)) : List (String × α) :=
  more.foldl (fun entries entry => putEntry entry.1 entry.2 entries) entries

theorem nodup_keys_putAll {entries : List (String × α)} (more : List (String × α))
    (distinct : (entries.map Prod.fst).Nodup) : ((putAll entries more).map Prod.fst).Nodup := by
  induction more generalizing entries with
  | nil => exact distinct
  | cons entry more induction => exact induction (nodup_keys_putEntry distinct)

theorem mem_of_mem_putAll {entries more : List (String × α)} {entry : String × α}
    (member : entry ∈ putAll entries more) : entry ∈ entries ∨ entry ∈ more := by
  induction more generalizing entries with
  | nil => exact .inl member
  | cons first more induction =>
    rcases induction member with put | later
    · rcases mem_of_mem_putEntry put with same | inEntries
      · exact .inr (List.mem_cons.2 (.inl same))
      · exact .inl inEntries
    · exact .inr (List.mem_cons_of_mem first later)

/-- Entries with different keys are put in as they stand. -/
theorem putAll_eq_append {entries more : List (String × α)}
    (distinct : ((entries ++ more).map Prod.fst).Nodup) :
    putAll entries more = entries ++ more := by
  induction more generalizing entries with
  | nil => exact (List.append_nil entries).symm
  | cons entry more induction =>
    obtain ⟨key, value⟩ := entry
    have new : key ∉ entries.map Prod.fst := by
      rw [List.map_append] at distinct
      exact fun member => (List.nodup_append.1 distinct).2.2 key member key List.mem_cons_self rfl
    have moved : entries ++ (key, value) :: more = (entries ++ [(key, value)]) ++ more := by simp
    have whole : putAll entries ((key, value) :: more) = putAll (putEntry key value entries) more :=
      rfl
    rw [moved] at distinct
    rw [whole, putEntry_of_new value new, induction distinct, moved]

/-- Each entry of an ordered map is read from a part of the document. -/
theorem exists_of_mem_entries? {read : Document → Option α} {document : Document}
    {entries : List (String × α)} (all : entries? read document = some entries) :
    ∀ entry ∈ entries, ∃ part ∈ document.parts, read part = some entry.2 := by
  intro entry member
  unfold entries? at all
  split at all
  · next members =>
    obtain ⟨pairs, readPairs, same⟩ := Option.bind_eq_some_iff.1 all
    have entries_eq : putAll [] pairs = entries := Option.some.inj same
    rw [← entries_eq] at member
    have inPairs := (mem_of_mem_putAll member).resolve_left List.not_mem_nil
    obtain ⟨held, inMembers, readHeld⟩ := exists_of_mem_mapM readPairs inPairs
    obtain ⟨value, readValue, rfl⟩ := Option.map_eq_some_iff.1 readHeld
    exact ⟨held.2, List.mem_map.2 ⟨held, inMembers, rfl⟩, readValue⟩
  · cases all

theorem stable_entries? {read : Document → Option α} {write : α → Json}
    (stable : Stable read write) :
    Stable (entries? read) fun entries =>
      .object (entries.map fun entry => (entry.1, write entry.2)) := by
  intro document entries all
  have inside := exists_of_mem_entries? all
  unfold entries? at all
  split at all
  · next members =>
    obtain ⟨pairs, -, same⟩ := Option.bind_eq_some_iff.1 all
    have entries_eq : putAll [] pairs = entries := Option.some.inj same
    have distinct : (entries.map Prod.fst).Nodup := by
      rw [← entries_eq]
      exact nodup_keys_putAll pairs List.nodup_nil
    have each : ∀ entry ∈ entries, Settled read write (membersDepth members) entry.2 := by
      intro entry member
      obtain ⟨part, isPart, readPart⟩ := inside entry member
      exact (stable part entry.2 readPart).mono (Nat.le_of_lt_succ (depth_lt_of_mem_parts isPart))
    constructor
    · have readAgain : (entries.map fun entry => (entry.1, (write entry.2).toDocument)).mapM
          (fun member => (read member.2).map fun value => (member.1, value)) = some entries := by
        refine mapM_map_of_forall fun entry member => ?_
        rw [(each entry member).again, Option.map_some]
      have put : putAll [] entries = entries := by
        have appended : (([] ++ entries).map Prod.fst).Nodup := distinct
        exact putAll_eq_append appended
      rw [toDocument, membersToDocument_eq_map, List.map_map, entries?]
      refine Option.bind_eq_some_iff.2 ⟨entries, readAgain, congrArg some put⟩
    · refine depth_object_le fun member inWritten => ?_
      obtain ⟨entry, inEntries, rfl⟩ := List.mem_map.1 inWritten
      exact (each entry inEntries).depth_le
  · cases all

end Document

end Json

end LlamaGateway
