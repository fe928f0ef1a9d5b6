import LlamaGateway.Conversation.Message
import LlamaGateway.Proofs.Json.Records

/-!
# Stable forms of conversations

Tools, contents and messages are read again from what they are written as.
-/

namespace LlamaGateway

open Json (Document)
open Json.Document (Settled Stable SettledField settled_required settled_optional
  settled_optional_string? settled_withDefault exists_bound_of_record?)

theorem ToolName.stable : Stable ToolName.ofDocument? ToolName.toJson := by
  intro document name read
  have whole := read
  unfold ofDocument? at read
  split at read
  · split at read
    · next tool found =>
      cases read
      refine ⟨?_, Nat.zero_le _⟩
      simp [toJson, toString, Json.toDocument, ofDocument?, Document.readable,
        BuiltinTool.ofDocument?, Document.choice?]
    · -- A custom name is written as the string that it was read from.
      obtain ⟨text, isString, rfl⟩ := Option.map_eq_some_iff.1 read
      unfold Document.string? at isString
      split at isString <;> cases isString
      exact ⟨whole, Nat.zero_le _⟩
  · cases read

theorem ToolCall.stable : Stable ToolCall.ofDocument? ToolCall.toJson := by
  intro document call read
  unfold ofDocument? at read
  split at read
  · next callId tool arguments parts =>
    obtain ⟨bound, depth_eq, within⟩ := exists_bound_of_record? parts
    obtain ⟨id, readId, read⟩ := Option.bind_eq_some_iff.1 read
    obtain ⟨name, readName, read⟩ := Option.bind_eq_some_iff.1 read
    obtain ⟨fields, readFields, read⟩ := Option.bind_eq_some_iff.1 read
    cases read
    have idSettled := settled_required Document.stable_string? (within callId (by simp)) readId
    have nameSettled := settled_required ToolName.stable (within tool (by simp)) readName
    have fieldsSettled :=
      settled_required Document.stable_fields? (within arguments (by simp)) readFields
    rw [depth_eq]
    refine Settled.record [("call_id", some (.string id)), ("tool_name", some name.toJson),
      ("arguments", some (.object fields))] rfl (by simp) (fun document record => ?_) ?_
    · simp only [List.map_cons, List.map_nil] at record
      rw [ofDocument?, record]
      exact idSettled.bind (nameSettled.bind (fieldsSettled.bind rfl))
    · simp only [List.forall_mem_cons]
      exact ⟨idSettled.depth_le, nameSettled.depth_le, fieldsSettled.depth_le,
        List.forall_mem_nil _⟩
  · cases read

theorem ToolParameter.stable : Stable ToolParameter.ofDocument? ToolParameter.toJson := by
  intro document parameter read
  unfold ofDocument? at read
  split at read
  · next kind description required default parts =>
    obtain ⟨bound, depth_eq, within⟩ := exists_bound_of_record? parts
    obtain ⟨type, readType, read⟩ := Option.bind_eq_some_iff.1 read
    obtain ⟨meaning, readMeaning, read⟩ := Option.bind_eq_some_iff.1 read
    obtain ⟨needed, readNeeded, read⟩ := Option.bind_eq_some_iff.1 read
    obtain ⟨value, readValue, read⟩ := Option.bind_eq_some_iff.1 read
    cases read
    have typeSettled := settled_required Document.stable_string? (within kind (by simp)) readType
    have meaningSettled := settled_optional_string? (within description (by simp)) readMeaning
    have neededSettled := settled_withDefault Document.stable_boolean? ⟨rfl, Nat.zero_le _⟩
      (within required (by simp)) readNeeded
    have valueSettled := settled_optional Document.stable_toJson?
      Document.eq_null_of_toJson? (within default (by simp)) readValue
    rw [depth_eq]
    refine Settled.record [("param_type", some (.string type)),
      ("description", meaning.map .string), ("required", some (.boolean needed)),
      ("default", value.map id)] ?_ (by simp) (fun document record => ?_) ?_
    · simp [toJson, describingMembers, Json.ofRecord, Json.optionalMember]
    · simp only [List.map_cons, List.map_nil] at record
      rw [ofDocument?, record]
      exact typeSettled.bind (meaningSettled.bind (neededSettled.bind (valueSettled.bind rfl)))
    · simp only [List.forall_mem_cons]
      exact ⟨typeSettled.depth_le, meaningSettled.depth_le, neededSettled.depth_le,
        valueSettled.depth_le, List.forall_mem_nil _⟩
  · cases read

/-- A definition without parameters is written with an empty object of them, which may nest deeper
than what was read. -/
theorem ToolDefinition.settled {document : Document} {definition : ToolDefinition}
    (read : ofDocument? document = some definition) :
    Settled ofDocument? toJson (max 2 document.depth) definition := by
  unfold ofDocument? at read
  split at read
  · next name description parameters parts =>
    obtain ⟨inner, depth_eq, within⟩ := exists_bound_of_record? parts
    obtain ⟨tool, readTool, read⟩ := Option.bind_eq_some_iff.1 read
    obtain ⟨meaning, readMeaning, read⟩ := Option.bind_eq_some_iff.1 read
    obtain ⟨entries, readEntries, read⟩ := Option.bind_eq_some_iff.1 read
    cases read
    obtain ⟨bound, bound_eq⟩ : ∃ bound, bound = max 1 inner := ⟨_, rfl⟩
    have outer : max 2 document.depth = bound + 1 := by omega
    have within (field) (member : field ∈ [name, description, parameters]) :
        Document.FieldWithin bound field := by
      intro part inField
      have le := within field member part inField
      omega
    have toolSettled := settled_required ToolName.stable (within name (by simp)) readTool
    have meaningSettled := settled_optional_string? (within description (by simp)) readMeaning
    have one : 1 ≤ bound := by omega
    have entriesSettled := settled_withDefault (Document.stable_entries? ToolParameter.stable)
      ⟨rfl, one⟩ (within parameters (by simp)) readEntries
    rw [outer]
    refine Settled.record [("tool_name", some tool.toJson),
      ("description", meaning.map .string), ("parameters", some (.object (entries.map fun entry =>
        (entry.1, entry.2.toJson))))] ?_ (by simp) (fun document record => ?_) ?_
    · simp [toJson, Json.ofRecord, Json.optionalMember]
    · simp only [List.map_cons, List.map_nil] at record
      rw [ofDocument?, record]
      exact toolSettled.bind (meaningSettled.bind (entriesSettled.bind rfl))
    · simp only [List.forall_mem_cons]
      exact ⟨toolSettled.depth_le, meaningSettled.depth_le, entriesSettled.depth_le,
        List.forall_mem_nil _⟩
  · cases read

example : (ToolDefinition.ofDocument? (.array [.object [("brave_search", .null)]])).map
    ToolDefinition.toJson =
      some (.object [("tool_name", .string "brave_search"), ("parameters", .object [])]) := by
  decide +kernel

theorem Image.stable : Stable Image.ofDocument? Image.toJson := by
  intro document image read
  unfold ofDocument? at read
  split at read
  · next address =>
    obtain ⟨text, readText, rfl⟩ := Option.map_eq_some_iff.1 read
    have settled := Document.stable_string? address text readText
    constructor
    · exact Option.map_eq_some_iff.2 ⟨text, settled.again, rfl⟩
    · rw [Document.depth_object_singleton]
      exact Nat.le_trans (Nat.le_of_eq (Document.depth_object_singleton _ _))
        (Nat.succ_le_succ settled.depth_le)
  · next body =>
    split at read
    · next bytes format parts =>
      obtain ⟨bound, depth_eq, within⟩ := exists_bound_of_record? parts
      obtain ⟨data, readData, read⟩ := Option.bind_eq_some_iff.1 read
      obtain ⟨kind, readKind, read⟩ := Option.bind_eq_some_iff.1 read
      cases read
      have dataSettled := settled_required (Document.stable_items? Document.stable_byte?)
        (within bytes (by simp)) readData
      have kindSettled := settled_optional_string? (within format (by simp)) readKind
      let fields : List (String × Option Json) :=
        [("bytes", some (.array (data.map fun byte => .ofNat byte.toNat))),
          ("format", kind.map .string)]
      have settled : Settled (fun body => ofDocument? (.object [("data", body)]))
          (fun _ => Json.ofRecord fields) (bound + 1) (.data data kind) := by
        refine Settled.record fields rfl (by simp [fields]) (fun document record => ?_) ?_
        · simp only [fields, List.map_cons, List.map_nil] at record
          simp only [ofDocument?, record]
          exact dataSettled.bind (kindSettled.bind rfl)
        · simp only [fields, List.forall_mem_cons]
          exact ⟨dataSettled.depth_le, kindSettled.depth_le, List.forall_mem_nil _⟩
      have written : toJson (.data data kind) = .object [("data", Json.ofRecord fields)] := by
        simp [toJson, fields, Json.ofRecord, Json.optionalMember]
      constructor
      · rw [written]
        exact settled.again
      · rw [written, Document.depth_object_singleton, depth_eq]
        exact Nat.le_trans (Nat.le_of_eq (Document.depth_object_singleton _ _))
          (Nat.succ_le_succ settled.depth_le)
    · cases read
  · cases read

theorem ContentPart.stable (nested : Bool) :
    Stable (ContentPart.ofDocument? nested) ContentPart.toJson := by
  refine Document.stable_taggedRecord? fun body position part read => ?_
  unfold ofTagged? at read
  split at read
  · split at read
    · next words parts =>
      obtain ⟨text, readText, rfl⟩ := Option.map_eq_some_iff.1 read
      refine ⟨"text", [("text", .string text)], rfl, by simp, rfl, ?_⟩
      refine Settled.oneField parts (fun part => Document.stable_string? part _) readText
        (fun document part record => ?_) rfl
      simp only [ofTagged?, record]
      rfl
    · cases read
  · split at read
    · next picture parts =>
      obtain ⟨image, readImage, rfl⟩ := Option.map_eq_some_iff.1 read
      refine ⟨"image", [("image", image.toJson)], rfl, by simp, rfl, ?_⟩
      refine Settled.oneField parts (fun part => Image.stable part _) readImage
        (fun document part record => ?_) rfl
      simp only [ofTagged?, record]
      rfl
    · cases read
  · cases read

theorem Content.stable : Stable Content.ofDocument? Content.toJson := by
  intro document content read
  unfold ofDocument? at read
  split at read
  · split at read
    · cases read
      exact ⟨rfl, Nat.le_refl _⟩
    · next items readable =>
      obtain ⟨parts, readParts, rfl⟩ := Option.map_eq_some_iff.1 read
      obtain ⟨again, depth_le⟩ :=
        Document.stable_items? (ContentPart.stable true) (.array items) parts readParts
      refine ⟨?_, depth_le⟩
      unfold ofDocument?
      rw [if_pos (Json.readable_toDocument _)]
      exact Option.map_eq_some_iff.2 ⟨parts, again, rfl⟩
    · cases read
  · cases read

namespace AssistantMessage

/-- Tool calls as a field that is left out if there are none. -/
def callsField (calls : List ToolCall) : Option Json :=
  if calls.isEmpty then none else some (.array (calls.map ToolCall.toJson))

theorem settled_callsField {field : Option Document} {bound : Nat}
    (within : Document.FieldWithin bound field) {calls : List ToolCall}
    (read : Document.withDefault [] (Document.items? ToolCall.ofDocument?) field = some calls) :
    SettledField (Document.withDefault [] (Document.items? ToolCall.ofDocument?)) callsField bound
      calls := by
  cases calls with
  | nil => exact ⟨rfl, fun part written => absurd written (Option.not_mem_none part)⟩
  | cons call calls =>
    cases field with
    | none => cases read
    | some document =>
      have settled := (Document.stable_items? ToolCall.stable document _ read).mono
        (within document rfl)
      exact settled.inField (fun _ => rfl) rfl

theorem toJson_eq (message : AssistantMessage) :
    message.toJson = Json.ofRecord [("content", some message.content.toJson),
      ("stop_reason", some message.stopReason.toJson),
      ("tool_calls", callsField message.toolCalls)] := by
  simp [toJson, members, callsField, Json.ofRecord, Json.optionalMember]

theorem stable (tagged : Bool) : Stable (AssistantMessage.ofDocument? tagged) toJson := by
  intro document message read
  unfold ofDocument? at read
  split at read
  · next content stopReason toolCalls parts =>
    obtain ⟨bound, depth_eq, within⟩ := exists_bound_of_record? parts
    obtain ⟨body, readBody, read⟩ := Option.bind_eq_some_iff.1 read
    obtain ⟨reason, readReason, read⟩ := Option.bind_eq_some_iff.1 read
    obtain ⟨calls, readCalls, read⟩ := Option.bind_eq_some_iff.1 read
    cases read
    have bodySettled := settled_required Content.stable (within content (by simp)) readBody
    have reasonSettled := settled_required (Document.stable_choice? StopReason.ofName?_name)
      (within stopReason (by simp)) readReason
    have callsSettled := settled_callsField (within toolCalls (by simp)) readCalls
    rw [depth_eq]
    refine Settled.record _ (toJson_eq _) (by simp) (fun document record => ?_) ?_
    · simp only [List.map_cons, List.map_nil] at record
      rw [ofDocument?, record]
      exact bodySettled.bind (reasonSettled.bind (callsSettled.bind rfl))
    · simp only [List.forall_mem_cons]
      exact ⟨bodySettled.depth_le, reasonSettled.depth_le, callsSettled.depth_le,
        List.forall_mem_nil _⟩
  · cases read

end AssistantMessage

theorem Content.toJson_ne_null (content : Content) : content.toJson ≠ .null := by
  cases content <;> exact Json.noConfusion

namespace Message

variable {body : Document} {message : Message}

/-- The kind of message at a position among the roles is settled, with its role in front. -/
abbrev SettledAt (body : Document) (position : Nat) (message : Message) : Prop :=
  Document.SettledVariant "role" ["system", "user", "assistant", "tool"] ofTagged? toJson body
    position message

theorem settledAt_system (read : ofTagged? body 0 = some message) : SettledAt body 0 message := by
  simp only [ofTagged?] at read
  split at read
  · next content parts =>
    obtain ⟨text, readText, read⟩ := Option.bind_eq_some_iff.1 read
    cases read
    refine .intro "system" [("content", text.toJson)] rfl (by simp) rfl ?_
    refine Settled.oneField parts (fun part => Content.stable part _) readText
      (fun document part record => ?_) rfl
    simp only [ofTagged?, record]
    exact Option.map_eq_bind.symm
  · cases read

theorem settledAt_user (read : ofTagged? body 1 = some message) : SettledAt body 1 message := by
  simp only [ofTagged?] at read
  split at read
  · next content context parts =>
    obtain ⟨bound, depth_eq, within⟩ := exists_bound_of_record? parts
    obtain ⟨text, readText, read⟩ := Option.bind_eq_some_iff.1 read
    obtain ⟨found, readFound, read⟩ := Option.bind_eq_some_iff.1 read
    cases read
    have textSettled := settled_required Content.stable (within content (by simp)) readText
    have foundSettled := settled_optional Content.stable
      (fun _ content _ written => (content.toJson_ne_null written).elim)
      (within context (by simp)) readFound
    refine .intro "user" (("content", text.toJson) ::
      Json.optionalMember "context" (found.map Content.toJson)) rfl ?_ rfl ?_
    · cases found <;> simp [Json.optionalMember]
    · rw [depth_eq]
      refine Settled.record [("content", some text.toJson), ("context", found.map Content.toJson)]
        ?_ (by simp) (fun document record => ?_) ?_
      · simp [Json.ofRecord, Json.optionalMember]
      · simp only [List.map_cons, List.map_nil] at record
        simp only [ofTagged?, record]
        exact textSettled.bind (foundSettled.bind rfl)
      · simp only [List.forall_mem_cons]
        exact ⟨textSettled.depth_le, foundSettled.depth_le, List.forall_mem_nil _⟩
  · cases read

theorem settledAt_assistant (read : ofTagged? body 2 = some message) :
    SettledAt body 2 message := by
  simp only [ofTagged?] at read
  obtain ⟨turn, readTurn, rfl⟩ := Option.map_eq_some_iff.1 read
  have settled := AssistantMessage.stable true body turn readTurn
  refine .intro "assistant" turn.members rfl ?_ rfl ?_
  · by_cases silent : turn.toolCalls.isEmpty <;>
      simp [AssistantMessage.members, silent, Json.optionalMember]
  · exact ⟨Option.map_eq_some_iff.2 ⟨turn, settled.again, rfl⟩, settled.depth_le⟩

theorem settledAt_tool (read : ofTagged? body 3 = some message) : SettledAt body 3 message := by
  simp only [ofTagged?] at read
  split at read
  · next callId name content parts =>
    obtain ⟨bound, depth_eq, within⟩ := exists_bound_of_record? parts
    obtain ⟨id, readId, read⟩ := Option.bind_eq_some_iff.1 read
    obtain ⟨tool, readTool, read⟩ := Option.bind_eq_some_iff.1 read
    obtain ⟨text, readText, read⟩ := Option.bind_eq_some_iff.1 read
    cases read
    have idSettled := settled_required Document.stable_string? (within callId (by simp)) readId
    have toolSettled := settled_required ToolName.stable (within name (by simp)) readTool
    have textSettled := settled_required Content.stable (within content (by simp)) readText
    refine .intro "tool" [("call_id", .string id), ("tool_name", tool.toJson),
      ("content", text.toJson)] rfl (by simp) rfl ?_
    rw [depth_eq]
    refine Settled.record [("call_id", some (.string id)), ("tool_name", some tool.toJson),
      ("content", some text.toJson)] rfl (by simp) (fun document record => ?_) ?_
    · simp only [List.map_cons, List.map_nil] at record
      simp only [ofTagged?, record]
      exact idSettled.bind (toolSettled.bind (textSettled.bind rfl))
    · simp only [List.forall_mem_cons]
      exact ⟨idSettled.depth_le, toolSettled.depth_le, textSettled.depth_le,
        List.forall_mem_nil _⟩
  · cases read

theorem stable : Stable ofDocument? toJson := by
  refine Document.stable_taggedRecord? fun body position message read => ?_
  match position with
  | 0 => exact settledAt_system read
  | 1 => exact settledAt_user read
  | 2 => exact settledAt_assistant read
  | 3 => exact settledAt_tool read
  | _ + 4 => cases read

end Message

end LlamaGateway
