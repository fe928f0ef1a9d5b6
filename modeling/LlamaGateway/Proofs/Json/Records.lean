import LlamaGateway.Proofs.Json.Stability

/-!
# Stable records

A record is written as an object that leaves out the fields without a value. Such an object gives
each field its own value again, and a tagged one its tag and the record, so a record is stable if
its fields are.
-/

namespace LlamaGateway

namespace Json

/-- The object with the given fields, those without a value left out. -/
def ofRecord (fields : List (String × Option Json)) : Json :=
  .object (fields.flatMap fun field => optionalMember field.1 field.2)

theorem mem_optionalMember {key : String} {value : Option Json} {member : String × Json} :
    member ∈ optionalMember key value ↔ member.1 = key ∧ value = some member.2 := by
  cases value <;> simp [optionalMember, Prod.ext_iff, eq_comm]

theorem depth_ofRecord_le {fields : List (String × Option Json)} {bound : Nat}
    (within : ∀ field ∈ fields, ∀ part ∈ field.2, part.toDocument.depth ≤ bound) :
    (ofRecord fields).toDocument.depth ≤ bound + 1 := by
  refine depth_object_le fun member inObject => ?_
  obtain ⟨field, inFields, inField⟩ := List.mem_flatMap.1 inObject
  exact within field inFields member.2 (mem_optionalMember.1 inField).2

namespace Document

variable {α : Type}

/-- The value of a field is read again from what the field is written as, which nests at most so
deeply. -/
structure SettledField (read : Option Document → Option α) (write : α → Option Json) (bound : Nat)
    (value : α) : Prop where
  again : read ((write value).map toDocument) = some value
  depth_le : ∀ part ∈ write value, part.toDocument.depth ≤ bound

theorem SettledField.bind {β : Type} {read : Option Document → Option α} {write : α → Option Json}
    {bound : Nat} {value : α} (settled : SettledField read write bound value)
    {next : α → Option β} {result : β} (rest : next value = some result) :
    (read ((write value).map toDocument)).bind next = some result :=
  Option.bind_eq_some_iff.2 ⟨value, settled.again, rest⟩

/-- What stands in a field nests at most so deeply. -/
def FieldWithin (bound : Nat) (field : Option Document) : Prop :=
  ∀ document ∈ field, document.depth ≤ bound

section

variable {read : Document → Option α} {write : α → Json} {bound : Nat} {field : Option Document}

/-- A settled value is settled in a field that holds what it is written as. -/
theorem Settled.inField {value : α} (settled : Settled read write bound value)
    {readField : Option Document → Option α} {writeField : α → Option Json}
    (reads : ∀ document, readField (some document) = read document)
    (written : writeField value = some (write value)) :
    SettledField readField writeField bound value where
  again := by rw [written, Option.map_some, reads, settled.again]
  depth_le := by
    intro part inField
    rw [written] at inField
    cases inField
    exact settled.depth_le

theorem settled_required (stable : Stable read write) (within : FieldWithin bound field) {value : α}
    (readField : required read field = some value) :
    SettledField (required read) (fun value => some (write value)) bound value := by
  obtain ⟨document, inField, readDocument⟩ := Option.bind_eq_some_iff.1 readField
  have settled := (stable document value readDocument).mono (within document inField)
  exact settled.inField (fun _ => rfl) rfl

theorem settled_withDefault (stable : Stable read write) {default : α}
    (written : Settled read write bound default) (within : FieldWithin bound field) {value : α}
    (readField : withDefault default read field = some value) :
    SettledField (withDefault default read) (fun value => some (write value)) bound value := by
  have settled : Settled read write bound value := by
    cases field with
    | none =>
      cases readField
      exact written
    | some document => exact (stable document value readField).mono (within document rfl)
  exact settled.inField (fun _ => rfl) rfl

/-- The value of an optional field is read from what stands in it. -/
theorem exists_of_optional {value : α} (readField : optional read field = some (some value)) :
    ∃ document ∈ field, read document = some value := by
  cases field with
  | none => cases readField
  | some document =>
    change nullable read document = some (some value) at readField
    unfold nullable at readField
    split at readField
    · cases readField
    · obtain ⟨held, readHeld, same⟩ := Option.map_eq_some_iff.1 readField
      cases same
      exact ⟨document, rfl, readHeld⟩

/-- An optional field whose written form is `null` for nothing but `null`. -/
theorem settled_optional (stable : Stable read write)
    (null : ∀ document value, read document = some value → write value = .null → document = .null)
    (within : FieldWithin bound field) {value : Option α}
    (readField : optional read field = some value) :
    SettledField (optional read) (Option.map write) bound value := by
  cases field with
  | none =>
    cases readField
    exact ⟨rfl, fun part written => absurd written (Option.not_mem_none part)⟩
  | some document =>
    have le := within document rfl
    change nullable read document = some value at readField
    unfold nullable at readField
    split at readField
    · cases readField
      exact ⟨rfl, fun part written => absurd written (Option.not_mem_none part)⟩
    · next notNull =>
      obtain ⟨held, readHeld, rfl⟩ := Option.map_eq_some_iff.1 readField
      have settled := (stable document held readHeld).mono le
      constructor
      · change nullable read (write held).toDocument = some (some held)
        unfold nullable
        split
        · next written =>
          have nothing : write held = .null := by
            cases equation : write held <;> rw [equation] at written <;> cases written
          exact absurd (null document held readHeld nothing) notNull
        · rw [settled.again, Option.map_some]
      · intro part written
        cases written
        exact settled.depth_le

end

theorem settled_optional_string? {bound : Nat} {field : Option Document}
    (within : FieldWithin bound field) {value : Option String}
    (readField : optional string? field = some value) :
    SettledField (optional string?) (Option.map .string) bound value :=
  settled_optional stable_string? (fun _ _ _ => Json.noConfusion) within readField

theorem uniqueMember?_eq_some {key : String} {members : List (String × Document)}
    {field : Option Document} (found : uniqueMember? key members = some field) :
    ∀ document ∈ field, (key, document) ∈ members := by
  unfold uniqueMember? at found
  split at found
  · cases found
    rintro document ⟨⟩
  · next member only =>
    cases found
    rintro document ⟨⟩
    have inFilter : member ∈ members.filter fun member => member.1 = key := by
      rw [only]
      exact List.mem_singleton.2 rfl
    obtain ⟨inMembers, same⟩ := List.mem_filter.1 inFilter
    rw [← of_decide_eq_true same]
    exact inMembers
  · cases found

/-- What stands in the fields of a record are parts of it. -/
theorem mem_parts_of_record? {names : List String} {document : Document}
    {fields : List (Option Document)} (read : record? names document = some fields) :
    ∀ field ∈ fields, ∀ part ∈ field, part ∈ document.parts := by
  intro field member part inField
  unfold record? at read
  split at read
  · next members =>
    obtain ⟨name, -, found⟩ := exists_of_mem_mapM read member
    exact List.mem_map.2 ⟨_, uniqueMember?_eq_some found part inField, rfl⟩
  · next items =>
    split at read
    · cases read
      rcases List.mem_append.1 member with given | absent
      · obtain ⟨item, inItems, rfl⟩ := List.mem_map.1 given
        cases inField
        exact inItems
      · cases (List.mem_replicate.1 absent).2
        cases inField
    · cases read
  · cases read

/-- What stands in the fields of a record is less deep than the record. -/
theorem exists_bound_of_record? {names : List String} {document : Document}
    {fields : List (Option Document)} (read : record? names document = some fields) :
    ∃ bound, document.depth = bound + 1 ∧ ∀ field ∈ fields, FieldWithin bound field := by
  obtain ⟨bound, depth_eq⟩ : ∃ bound, document.depth = bound + 1 := by
    cases document with
    | array items => exact ⟨itemsDepth items, rfl⟩
    | object members => exact ⟨membersDepth members, rfl⟩
    | null | boolean | number | string | unreadable => cases read
  refine ⟨bound, depth_eq, fun field member part inField => ?_⟩
  have shallower := depth_lt_of_mem_parts (mem_parts_of_record? read field member part inField)
  rw [depth_eq] at shallower
  exact Nat.le_of_lt_succ shallower

theorem filter_membersToDocument_eq_nil {key : String} {members : List (String × Json)}
    (absent : key ∉ members.map Prod.fst) :
    (membersToDocument members).filter (fun member => member.1 = key) = [] := by
  rw [membersToDocument_eq_map, List.filter_eq_nil_iff]
  intro written inWritten same
  obtain ⟨member, inMembers, rfl⟩ := List.mem_map.1 inWritten
  exact absent (List.mem_map.2 ⟨member, inMembers, of_decide_eq_true same⟩)

theorem filter_ofRecord {fields : List (String × Option Json)}
    (distinct : (fields.map Prod.fst).Nodup) {field : String × Option Json}
    (member : field ∈ fields) :
    (membersToDocument (fields.flatMap fun field => optionalMember field.1 field.2)).filter
        (fun member => member.1 = field.1) =
      (field.2.map fun part => (field.1, part.toDocument)).toList := by
  induction fields with
  | nil => cases member
  | cons first fields induction =>
    obtain ⟨new, later⟩ := List.nodup_cons.1 distinct
    have append (front back : List (String × Json)) :
        membersToDocument (front ++ back) = membersToDocument front ++ membersToDocument back := by
      simp [membersToDocument_eq_map]
    rw [List.flatMap_cons, append, List.filter_append]
    rcases List.mem_cons.1 member with rfl | inFields
    · have absent : field.1 ∉ (fields.flatMap fun field =>
          optionalMember field.1 field.2).map Prod.fst := by
        intro inKeys
        obtain ⟨written, inWritten, same⟩ := List.mem_map.1 inKeys
        obtain ⟨other, inOthers, inOther⟩ := List.mem_flatMap.1 inWritten
        refine new (List.mem_map.2 ⟨other, inOthers, ?_⟩)
        rw [← same, (mem_optionalMember.1 inOther).1]
      rw [filter_membersToDocument_eq_nil absent, List.append_nil]
      obtain ⟨key, part⟩ := field
      cases part <;> simp [optionalMember, membersToDocument]
    · have absent : field.1 ∉ (optionalMember first.1 first.2).map Prod.fst := by
        intro inKeys
        obtain ⟨written, inWritten, same⟩ := List.mem_map.1 inKeys
        refine new (List.mem_map.2 ⟨field, inFields, ?_⟩)
        rw [← same, (mem_optionalMember.1 inWritten).1]
      rw [filter_membersToDocument_eq_nil absent, List.nil_append, induction later inFields]

/-- A written record gives each field its own value. -/
theorem record?_ofRecord {fields : List (String × Option Json)}
    (distinct : (fields.map Prod.fst).Nodup) :
    record? (fields.map Prod.fst) (ofRecord fields).toDocument =
      some (fields.map fun field => field.2.map toDocument) := by
  rw [ofRecord, toDocument, record?]
  refine mapM_map_eq fun field member => ?_
  rw [uniqueMember?, filter_ofRecord distinct member]
  cases field.2 <;> rfl

/-- A record that is read from the values of its fields is read from what it is written as. -/
theorem Settled.record {read : Document → Option α} {write : α → Json} {bound : Nat} {value : α}
    (fields : List (String × Option Json)) (written : write value = ofRecord fields)
    (distinct : (fields.map Prod.fst).Nodup)
    (again : ∀ document, record? (fields.map Prod.fst) document =
      some (fields.map fun field => field.2.map toDocument) → read document = some value)
    (within : ∀ field ∈ fields, ∀ part ∈ field.2, part.toDocument.depth ≤ bound) :
    Settled read write (bound + 1) value := by
  constructor
  · rw [written]
    exact again _ (record?_ofRecord distinct)
  · rw [written]
    exact depth_ofRecord_le within

/-- A record of one field is settled if the value of its field is. -/
theorem Settled.oneField {β : Type} {readField : Document → Option β} {writeField : β → Json}
    {name : String} {document : Document} {field : Option Document}
    (parts : record? [name] document = some [field]) {held : β}
    (settled : ∀ part, readField part = some held → Settled readField writeField part.depth held)
    (readHeld : required readField field = some held) {read : Document → Option α}
    {write : α → Json} {wrap : β → α}
    (reads : ∀ document part, record? [name] document = some [some part] →
      read document = (readField part).map wrap)
    (written : write (wrap held) = .object [(name, writeField held)]) :
    Settled read write document.depth (wrap held) := by
  obtain ⟨bound, depth_eq, within⟩ := exists_bound_of_record? parts
  obtain ⟨part, inField, readPart⟩ := Option.bind_eq_some_iff.1 readHeld
  have inner := (settled part readPart).mono (within field (List.mem_singleton.2 rfl) part inField)
  rw [depth_eq]
  refine Settled.record [(name, some (writeField held))] written (by simp)
    (fun document record => ?_) ?_
  · rw [reads document _ record, inner.again, Option.map_some]
  · intro field member part inField
    cases List.mem_singleton.1 member
    cases inField
    exact inner.depth_le

theorem depth_of_tagged? {tagName : String} {document tag body : Document}
    (read : document.tagged? tagName = some (tag, body)) : body.depth ≤ document.depth := by
  unfold tagged? at read
  split at read
  · next members =>
    split at read
    · cases read
      refine Nat.succ_le_succ (membersDepth_le_iff.2 fun member inRest => ?_)
      exact membersDepth_le_iff.1 (Nat.le_refl _) member (List.mem_filter.1 inRest).1
    · cases read
  · cases read
    refine Nat.succ_le_succ (itemsDepth_le_iff.2 fun item inItems => ?_)
    exact itemsDepth_le_iff.1 (Nat.le_refl _) item (List.mem_cons_of_mem tag inItems)
  · cases read

/-- A written record with a tag gives the tag and the record without it. -/
theorem tagged?_toDocument {tagName tag : String} {members : List (String × Json)}
    (absent : tagName ∉ members.map Prod.fst) :
    (Json.object ((tagName, .string tag) :: members)).toDocument.tagged? tagName =
      some (.string tag, (Json.object members).toDocument) := by
  rw [toDocument, membersToDocument, toDocument, toDocument, tagged?]
  simp only [List.filter_cons_of_pos, filter_membersToDocument_eq_nil absent, decide_true]
  have others : (membersToDocument members).filter (fun member => member.1 ≠ tagName) =
      membersToDocument members := by
    refine List.filter_eq_self.2 fun written inWritten => decide_eq_true fun same => ?_
    rw [membersToDocument_eq_map] at inWritten
    obtain ⟨member, inMembers, rfl⟩ := List.mem_map.1 inWritten
    exact absent (List.mem_map.2 ⟨member, inMembers, same⟩)
  rw [List.filter_cons_of_neg (by simp), others]

/-- A record that is read by the position of its tag among the names of the variants. -/
def taggedRecord? (tagName : String) (names : List String) (nested : Bool)
    (variant? : Document → Nat → Option α) (document : Document) : Option α :=
  if document.readable then do
    let (tag, body) ← document.tagged? tagName
    let position ← tag.tagPosition? names nested
    variant? body position
  else none

/-- A variant of a tagged record is written with its own tag and is settled without it. -/
inductive SettledVariant (tagName : String) (names : List String)
    (variant? : Document → Nat → Option α) (write : α → Json) (body : Document) (position : Nat)
    (value : α) : Prop
  | intro (tag : String) (members : List (String × Json))
      (written : write value = .object ((tagName, .string tag) :: members))
      (absent : tagName ∉ members.map Prod.fst) (named : names.idxOf? tag = some position)
      (settled : Settled (variant? · position) (fun _ => .object members) body.depth value)

/-- A tagged record is stable if each variant is settled. -/
theorem stable_taggedRecord? {tagName : String} {names : List String} {nested : Bool}
    {variant? : Document → Nat → Option α} {write : α → Json}
    (variants : ∀ body position value, variant? body position = some value →
      SettledVariant tagName names variant? write body position value) :
    Stable (taggedRecord? tagName names nested variant?) write := by
  intro document value read
  unfold taggedRecord? at read
  split at read
  · obtain ⟨⟨tag, body⟩, readTag, read⟩ := Option.bind_eq_some_iff.1 read
    obtain ⟨position, -, readBody⟩ := Option.bind_eq_some_iff.1 read
    obtain ⟨tag, members, written, absent, named, settled⟩ := variants body position value readBody
    constructor
    · rw [taggedRecord?, if_pos (readable_toDocument _), written]
      exact Option.bind_eq_some_iff.2 ⟨_, tagged?_toDocument absent, Option.bind_eq_some_iff.2
        ⟨position, named, settled.again⟩⟩
    · have same : (write value).toDocument.depth = (Json.object members).toDocument.depth := by
        simp [written, toDocument, membersToDocument, depth, membersDepth]
      rw [same]
      exact Nat.le_trans settled.depth_le (depth_of_tagged? readTag)
  · cases read

/-- A text, or else what a reader of records makes of the document. -/
def textOr? {β : Type} (text : String → α) (wrap : β → α) (read : Document → Option β)
    (document : Document) : Option α :=
  if document.readable then
    match document with
    | .string words => some (text words)
    | _ => (read document).map wrap
  else none

theorem stable_textOr? {β : Type} {text : String → α} {wrap : β → α} {read : Document → Option β}
    {writeRecord : β → Json} {write : α → Json} (stable : Stable read writeRecord)
    (object : ∀ value, ∃ members, writeRecord value = .object members)
    (write_text : ∀ words, write (text words) = .string words)
    (write_wrap : ∀ value, write (wrap value) = writeRecord value) :
    Stable (textOr? text wrap read) write := by
  intro document value readValue
  unfold textOr? at readValue
  split at readValue
  · split at readValue
    · next words _ =>
      cases readValue
      have written : (write (text words)).toDocument = .string words := by
        rw [write_text, toDocument]
      exact ⟨by rw [written]; rfl, Nat.le_of_eq (congrArg depth written)⟩
    · obtain ⟨held, readHeld, rfl⟩ := Option.map_eq_some_iff.1 readValue
      obtain ⟨again, depth_le⟩ := stable document held readHeld
      obtain ⟨members, written⟩ := object held
      rw [written] at again depth_le
      constructor
      · rw [write_wrap, written]
        unfold textOr?
        rw [if_pos (readable_toDocument _)]
        exact Option.map_eq_some_iff.2 ⟨held, again, rfl⟩
      · rw [write_wrap, written]
        exact depth_le
  · cases readValue

end Document

end Json

end LlamaGateway
