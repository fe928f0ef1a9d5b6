import LlamaGateway.Proofs.Conversation.StableForms
import LlamaGateway.Proofs.Json.Stability
import LlamaGateway.Request.Generation
import LlamaGateway.Response.Event

/-!
# Forms on the wire

What is read from JSON may come in many forms: records as arrays, `null` for what is left out, names
as objects, members that nothing reads. It is written in one form, and that form is read as the same
value, both as a document and as text. Text asks for more than documents do: it must not nest too
deeply, and its numbers must read back.

A response format is read from a free-form object, in which the last member with a key counts. There
is one for every object whose tag is a string and which has what the tag asks for.
-/

namespace LlamaGateway

open Json (Document Fields)
open Json.Document (Settled Stable settled_required settled_optional exists_bound_of_record?)

namespace Json.Document

/-- The value of the last member with a key. -/
def lastMember? (key : String) : List (String × Document) → Option Document
  | [] => none
  | (first, value) :: rest => (lastMember? key rest).or (if key = first then some value else none)

theorem lastMember?_cases {members : List (String × Document)} {pairs : List (String × Json)}
    (read : membersToJson? members = some pairs) (key : String) :
    lastMember? key members = none ∧ (Fields.ofList pairs).get? key = none ∨
      ∃ document value, lastMember? key members = some document ∧
        document.toJson? = some value ∧ (Fields.ofList pairs).get? key = some value := by
  induction members generalizing pairs with
  | nil =>
    cases read
    exact .inl ⟨rfl, rfl⟩
  | cons member members induction =>
    obtain ⟨first, document⟩ := member
    obtain ⟨value, readValue, read⟩ := Option.bind_eq_some_iff.1 read
    obtain ⟨later, readLater, same⟩ := Option.bind_eq_some_iff.1 read
    cases same
    rw [Fields.get?_ofList_cons, lastMember?]
    rcases induction readLater with ⟨absent, noValue⟩ | ⟨found, held, last, readHeld, value⟩
    · rw [absent, noValue]
      by_cases same : key = first
      · exact .inr ⟨document, value, by simp [same], readValue, by simp [same]⟩
      · exact .inl ⟨by simp [same], by simp [same]⟩
    · exact .inr ⟨found, held, by simp [last], readHeld, by simp [value]⟩

/-- What stands under a key of a free-form object is read from the last member with the key. -/
theorem get?_eq_some_iff {members : List (String × Document)} {pairs : List (String × Json)}
    (read : membersToJson? members = some pairs) {key : String} {value : Json} :
    (Fields.ofList pairs).get? key = some value ↔
      ∃ document, lastMember? key members = some document ∧ document.toJson? = some value := by
  rcases lastMember?_cases read key with ⟨absent, noValue⟩ | ⟨found, held, last, readHeld, present⟩
  · simp [absent, noValue]
  · simp [last, readHeld, present]

theorem isSome_get? {members : List (String × Document)} {pairs : List (String × Json)}
    (read : membersToJson? members = some pairs) (key : String) :
    ((Fields.ofList pairs).get? key).isSome = (lastMember? key members).isSome := by
  rcases lastMember?_cases read key with ⟨absent, noValue⟩ | ⟨found, held, last, -, present⟩
  · rw [absent, noValue, Option.isSome_none, Option.isSome_none]
  · rw [last, present, Option.isSome_some, Option.isSome_some]

theorem toJson?_eq_string_iff {document : Document} {text : String} :
    document.toJson? = some (.string text) ↔ document = .string text := by
  cases document <;> simp [toJson?]

/-- A member of a free-form object is read from a part that is less deep than the object. -/
theorem exists_of_mem_fields? {document : Document} {fields : Fields}
    (read : document.fields? = some fields) {member : String × Json} (inFields : member ∈ fields) :
    ∃ part : Document, part.depth + 1 ≤ document.depth ∧ part.toJson? = some member.2 := by
  unfold fields? at read
  split at read
  · next members =>
    obtain ⟨pairs, readPairs, rfl⟩ := Option.map_eq_some_iff.1 read
    obtain ⟨part, inMembers, readPart⟩ := exists_of_mem_ofList readPairs inFields
    have le := membersDepth_le_iff.1 (Nat.le_refl _) _ inMembers
    exact ⟨part, Nat.succ_le_succ le, readPart⟩
  · cases read

end Json.Document

namespace ResponseFormat

open Json.Document

/-- A format is made of a free-form object just if its `type` is a string and what that string asks
for is there. -/
theorem isSome_ofFields?_iff {fields : Fields} :
    (ofFields? fields).isSome ↔ ∃ tag, fields.get? "type" = some (.string tag) ∧
      (tag = "json_schema" → (fields.get? "json_schema").isSome) ∧
      (tag = "grammar" → (fields.get? "bnf").isSome) := by
  unfold ofFields?
  split
  · next tag found =>
    rw [found]
    by_cases schema : tag = "json_schema"
    · simp [schema]
    · by_cases grammar : tag = "grammar" <;> simp [schema, grammar]
  · next other =>
    simp only [Option.isSome_none, Bool.false_eq_true, false_iff, not_exists, not_and]
    intro tag found
    exact absurd found (other tag)

theorem isSome_ofDocument?_iff {document : Document} :
    (ofDocument? document).isSome ↔ document.readable = true ∧ ∃ members,
      document = .object members ∧ ∃ tag, lastMember? "type" members = some (.string tag) ∧
        (tag = "json_schema" → (lastMember? "json_schema" members).isSome) ∧
        (tag = "grammar" → (lastMember? "bnf" members).isSome) := by
  rw [ofDocument?, ← isSome_toJson?]
  cases document with
  | object members =>
    cases read : membersToJson? members with
    | none => simp [fields?, toJson?, read]
    | some pairs =>
      have typed (tag : String) : (Fields.ofList pairs).get? "type" = some (.string tag) ↔
          lastMember? "type" members = some (.string tag) := by
        rw [get?_eq_some_iff read]
        simp [toJson?_eq_string_iff]
      simp [fields?, toJson?, read, isSome_ofFields?_iff, typed, isSome_get? read]
  | null | boolean _ | number _ | string _ | array _ | unreadable => simp [fields?]

theorem settled_of_get? {document : Document} {fields : Fields}
    (readFields : document.fields? = some fields) {key tag : String} {value : Json}
    (found : fields.get? key = some value) (other : key ≠ "type") {format : ResponseFormat}
    (written : format.toJson = .object [("type", .string tag), (key, value)])
    (reads : ∀ fields : Fields, fields.get? "type" = some (.string tag) →
      fields.get? key = some value → ofFields? fields = some format) :
    Settled ofDocument? toJson document.depth format := by
  obtain ⟨part, shallower, readPart⟩ := exists_of_mem_fields? readFields (Fields.mem_of_get? found)
  have settled := stable_toJson? part value readPart
  have again : value.toDocument.toJson? = some value := settled.again
  have depth_le : value.toDocument.depth ≤ part.depth := settled.depth_le
  constructor
  · let members := [("type", Json.string tag), (key, value)]
    have readMembers : fields? format.toJson.toDocument = some (Fields.ofList members) := by
      rw [written]
      simp [members, Json.toDocument, Json.membersToDocument, fields?, membersToJson?, toJson?,
        again]
    rw [ofDocument?, readMembers]
    exact reads _ (by simp [members, other.symm]) (by simp [members])
  · obtain ⟨bound, depth_eq⟩ : ∃ bound, document.depth = bound + 1 := ⟨document.depth - 1, by omega⟩
    rw [written, depth_eq]
    refine Json.depth_object_le fun member inMembers => ?_
    rcases List.mem_cons.1 inMembers with rfl | last
    · exact Nat.zero_le _
    · cases List.mem_singleton.1 last
      exact Nat.le_trans depth_le (by omega)

theorem stable : Stable ofDocument? toJson := by
  intro document format read
  obtain ⟨fields, readFields, read⟩ := Option.bind_eq_some_iff.1 read
  unfold ofFields? at read
  split at read
  · next tag tagged =>
    by_cases schema : tag = "json_schema"
    · rw [if_pos schema] at read
      obtain ⟨value, found, rfl⟩ := Option.map_eq_some_iff.1 read
      refine settled_of_get? readFields found (by decide) rfl fun fields type present => ?_
      simp [ofFields?, type, present]
    · rw [if_neg schema] at read
      by_cases grammar : tag = "grammar"
      · rw [if_pos grammar] at read
        obtain ⟨value, found, rfl⟩ := Option.map_eq_some_iff.1 read
        refine settled_of_get? readFields found (by decide) rfl fun fields type present => ?_
        simp [ofFields?, type, present]
      · rw [if_neg grammar] at read
        cases read
        obtain ⟨part, shallower, -⟩ :=
          exists_of_mem_fields? readFields (Fields.mem_of_get? tagged)
        constructor
        · simp [toJson, Json.toDocument, Json.membersToDocument, ofDocument?, fields?,
            membersToJson?, toJson?, ofFields?, schema, grammar]
        · have one : (toJson (.unsupported tag)).toDocument.depth = 1 := rfl
          omega
  · cases read

end ResponseFormat

theorem ToolCallStatus.stable : Stable ToolCallStatus.ofDocument? ToolCallStatus.toJson := by
  have named (status : ToolCallStatus) : ofName? status.name = some status := by
    cases status <;> rfl
  exact Document.stable_choice? named

theorem ToolCallContent.stable : Stable ToolCallContent.ofDocument? ToolCallContent.toJson :=
  Document.stable_textOr? ToolCall.stable (fun _ => ⟨_, rfl⟩) (fun _ => rfl) (fun _ => rfl)

theorem ToolCallDelta.stable : Stable ToolCallDelta.ofDocument? ToolCallDelta.toJson := by
  intro document step read
  unfold ofDocument? at read
  split at read
  · next content status parts =>
    obtain ⟨bound, depth_eq, within⟩ := exists_bound_of_record? parts
    obtain ⟨body, readBody, read⟩ := Option.bind_eq_some_iff.1 read
    obtain ⟨progress, readProgress, read⟩ := Option.bind_eq_some_iff.1 read
    cases read
    have bodySettled := settled_required ToolCallContent.stable (within content (by simp)) readBody
    have progressSettled :=
      settled_required ToolCallStatus.stable (within status (by simp)) readProgress
    rw [depth_eq]
    refine Settled.record [("content", some body.toJson), ("parse_status", some progress.toJson)]
      rfl (by simp) (fun document record => ?_) ?_
    · simp only [List.map_cons, List.map_nil] at record
      rw [ofDocument?, record]
      exact bodySettled.bind (progressSettled.bind rfl)
    · simp only [List.forall_mem_cons]
      exact ⟨bodySettled.depth_le, progressSettled.depth_le, List.forall_mem_nil _⟩
  · cases read

theorem ChatPhase.stable : Stable ChatPhase.ofDocument? ChatPhase.toJson := by
  have named (phase : ChatPhase) : ofName? phase.name = some phase := by
    cases phase <;> rfl
  exact Document.stable_choice? named

theorem EventDelta.stable : Stable EventDelta.ofDocument? EventDelta.toJson :=
  Document.stable_textOr? ToolCallDelta.stable (fun _ => ⟨_, rfl⟩) (fun _ => rfl) (fun _ => rfl)

theorem ChatEvent.settled {document : Document} {event : ChatEvent}
    (read : ofDocument? document = some event) (unweighted : event.logProbs = none) :
    Settled ofDocument? toJson document.depth event := by
  unfold ofDocument? at read
  split at read
  · next phase delta stopReason logProbs parts =>
    obtain ⟨bound, depth_eq, within⟩ := exists_bound_of_record? parts
    obtain ⟨stage, readStage, read⟩ := Option.bind_eq_some_iff.1 read
    obtain ⟨carried, readCarried, read⟩ := Option.bind_eq_some_iff.1 read
    obtain ⟨reason, readReason, read⟩ := Option.bind_eq_some_iff.1 read
    obtain ⟨weights, readWeights, read⟩ := Option.bind_eq_some_iff.1 read
    cases read
    cases unweighted
    have stageSettled := settled_required ChatPhase.stable (within phase (by simp)) readStage
    have carriedSettled := settled_required EventDelta.stable (within delta (by simp)) readCarried
    have reasonSettled := settled_optional (Document.stable_choice? StopReason.ofName?_name)
      (fun _ _ _ => Json.noConfusion) (within stopReason (by simp)) readReason
    rw [depth_eq]
    refine Settled.record [("event_type", some stage.toJson), ("delta", some carried.toJson),
      ("stop_reason", reason.map StopReason.toJson), ("logprobs", none)] ?_ (by simp)
      (fun document record => ?_) ?_
    · simp [toJson, StopReason.member, TokenLogProbs.listMember, Json.ofRecord,
        Json.optionalMember]
    · simp only [List.map_cons, List.map_nil] at record
      rw [ofDocument?, record]
      exact stageSettled.bind (carriedSettled.bind (reasonSettled.bind rfl))
    · simp only [List.forall_mem_cons]
      exact ⟨stageSettled.depth_le, carriedSettled.depth_le, reasonSettled.depth_le,
        (fun part written => absurd written (Option.not_mem_none part)), List.forall_mem_nil _⟩
  · cases read

theorem ChatChunk.settled {document : Document} {chunk : ChatChunk}
    (read : ofDocument? document = some chunk) (unweighted : chunk.event.logProbs = none) :
    Settled ofDocument? toJson document.depth chunk := by
  unfold ofDocument? at read
  split at read
  · next field parts =>
    obtain ⟨event, readEvent, rfl⟩ := Option.map_eq_some_iff.1 read
    refine Settled.oneField parts (fun part readPart => ChatEvent.settled readPart unweighted)
      readEvent (fun document part record => ?_) rfl
    rw [ofDocument?, record]
    rfl
  · cases read

open Json.Document (lastMember?)

variable {α : Type}

/-- Every value of a kind that is read is read again from the document and from the text that it is
written as. -/
structure StableFormOn (kind : α → Prop) (read : Document → Option α) (write : α → Json) :
    Prop where
  document : ∀ document value, read document = some value → kind value →
    read (write value).toDocument = some value
  text : ∀ text value, (Document.ofText? text).bind read = some value → kind value →
    (∀ number ∈ (write value).numbers, number.ReadsBack) →
    (Document.ofText? (write value).compact).bind read = some value

/-- Every value that is read is read again from what it is written as. -/
abbrev StableForm (read : Document → Option α) (write : α → Json) : Prop :=
  StableFormOn (fun _ => True) read write

theorem StableFormOn.of_settled {kind : α → Prop} {read : Document → Option α} {write : α → Json}
    (settled : ∀ document value, read document = some value → kind value →
      Settled read write (max 2 document.depth) value) : StableFormOn kind read write where
  document := fun document value readValue ofKind =>
    (settled document value readValue ofKind).again
  text := by
    intro text value readValue ofKind readsBack
    obtain ⟨document, readText, readDocument⟩ := Option.bind_eq_some_iff.1 readValue
    obtain ⟨again, depth_le⟩ := settled document value readDocument ofKind
    have within := Document.depth_of_ofText? readText
    have shallow : (write value).toDocument.depth ≤ Document.maxDepth := by
      have two : 2 ≤ Document.maxDepth := by decide
      omega
    rw [Document.ofText?_compact readsBack shallow, Option.bind_some, again]

theorem StableForm.of_stable {read : Document → Option α} {write : α → Json}
    (stable : Stable read write) : StableForm read write :=
  .of_settled fun document value readValue _ =>
    (stable document value readValue).mono (Nat.le_max_right ..)

/-- Contents, messages, turns of the model, tool calls, tool definitions, response formats and chat
chunks without log probabilities have stable forms. A response format is made of just the objects
whose last `type` is a string and which have what that string asks for. -/
theorem wire_types_have_stable_forms :
    StableForm Content.ofDocument? Content.toJson ∧
    StableForm Message.ofDocument? Message.toJson ∧
    StableForm (AssistantMessage.ofDocument? false) AssistantMessage.toJson ∧
    StableForm ToolCall.ofDocument? ToolCall.toJson ∧
    StableForm ToolDefinition.ofDocument? ToolDefinition.toJson ∧
    StableForm ResponseFormat.ofDocument? ResponseFormat.toJson ∧
    StableFormOn (fun chunk => chunk.event.logProbs = none) ChatChunk.ofDocument?
      ChatChunk.toJson ∧
    ∀ document, (ResponseFormat.ofDocument? document).isSome ↔ document.readable = true ∧
      ∃ members, document = .object members ∧ ∃ tag,
        lastMember? "type" members = some (.string tag) ∧
        (tag = "json_schema" → (lastMember? "json_schema" members).isSome) ∧
        (tag = "grammar" → (lastMember? "bnf" members).isSome) := by
  refine ⟨.of_stable Content.stable, .of_stable Message.stable,
    .of_stable (AssistantMessage.stable false), .of_stable ToolCall.stable,
    .of_settled fun document definition read _ => ToolDefinition.settled read,
    .of_stable ResponseFormat.stable,
    .of_settled fun document chunk read unweighted => ?_,
    fun document => ResponseFormat.isSome_ofDocument?_iff⟩
  exact (ChatChunk.settled read unweighted).mono (Nat.le_max_right ..)

/-- Parts and messages as arrays, a context that is `null`, a stop reason and a tool as objects, and
a call as an array are all read, and read again from the one form that each is written in. -/
theorem wire_types_have_stable_forms_arrayForms :
    (Document.ofText? "[[\"text\",\"a\"],[\"image\",\x7b\"url\":\"u\"\x7d]]".toList).bind
        Content.ofDocument? = some (.parts [.text "a", .image (.url "u")]) ∧
      (Document.ofText? (Content.parts [.text "a", .image (.url "u")]).toJson.compact).bind
        Content.ofDocument? = some (.parts [.text "a", .image (.url "u")]) ∧
      (Document.ofText? "[\"user\",\"hi\",null]".toList).bind Message.ofDocument? =
        some (.user (.text "hi") none) ∧
      (Document.ofText? (Message.user (.text "hi") none).toJson.compact).bind
        Message.ofDocument? = some (.user (.text "hi") none) ∧
      (Document.ofText? ("\x7b\"role\":\"assistant\",\"content\":\"hi\",\"stop_reason\":" ++
          "\x7b\"end_of_message\":null\x7d\x7d").toList).bind Message.ofDocument? =
        some (.assistant ⟨.text "hi", .endOfMessage, []⟩) ∧
      (Document.ofText? (Message.assistant ⟨.text "hi", .endOfMessage, []⟩).toJson.compact).bind
        Message.ofDocument? = some (.assistant ⟨.text "hi", .endOfMessage, []⟩) ∧
      (Document.ofText? (ToolCall.toJson
        ⟨"c", .builtin .wolframAlpha, [("x", .number (.integer (-12)))]⟩).compact).bind
          ToolCall.ofDocument? =
        some ⟨"c", .builtin .wolframAlpha, [("x", .number (.integer (-12)))]⟩ := by
  obtain ⟨contents, messages, -, calls, -⟩ := wire_types_have_stable_forms
  have isContent : (Document.ofText?
      "[[\"text\",\"a\"],[\"image\",\x7b\"url\":\"u\"\x7d]]".toList).bind Content.ofDocument? =
        some (.parts [.text "a", .image (.url "u")]) := by
    decide +kernel
  have isUser : (Document.ofText? "[\"user\",\"hi\",null]".toList).bind Message.ofDocument? =
      some (.user (.text "hi") none) := by
    decide +kernel
  have isTurn : (Document.ofText? ("\x7b\"role\":\"assistant\",\"content\":\"hi\"," ++
      "\"stop_reason\":\x7b\"end_of_message\":null\x7d\x7d").toList).bind Message.ofDocument? =
        some (.assistant ⟨.text "hi", .endOfMessage, []⟩) := by
    decide +kernel
  refine ⟨isContent, contents.text _ _ isContent trivial nofun, isUser,
    messages.text _ _ isUser trivial nofun, isTurn, messages.text _ _ isTurn trivial nofun, ?_⟩
  refine calls.text "[\"c\",\x7b\"wolfram_alpha\":null\x7d,\x7b\"x\":-12\x7d]".toList _
    (by decide +kernel) trivial fun number member => ?_
  cases List.mem_singleton.1 member
  exact ⟨⟨true, ['1', '2'], [], none⟩, by decide +kernel, by decide +kernel⟩

end LlamaGateway
