import LlamaGateway.Proofs.Json.ObjectText
import LlamaGateway.Proofs.Reply.Frame
import LlamaGateway.Proofs.Reply.FirstCall

/-!
# Custom calls read back

The call of a custom tool is written as a function tag or as an object. Decoding its block gives the
call again, if the written form can be told from the parts around it and its JSON text is read back.
-/

namespace LlamaGateway

/-- The members of the object that stands for a call. -/
def FunctionObject.ofCall (name : String) (arguments : Json.Fields) : Json.Fields :=
  [("name", .string name), ("parameters", .object arguments), ("type", .string "function")]

/-- What makes the written form of a custom call readable. The text of its JSON part is read back
as the value it was written for. A function tag needs a name that can be told from the tag's other
parts and arguments without a closing tag; an object must not look like it held a function tag. -/
inductive ReadableCall : ToolPromptFormat → String → Json.Fields → Prop
  /-- A function tag around the arguments. -/
  | functionTag {name : String} {arguments : Json.Fields}
      (readBack : Json.parse? (Json.object arguments).render = some (.object arguments))
      (nonempty : name ≠ "") (closed : '>' ∉ name.toList)
      (trimmed : Text.trimBlank name.toList = name.toList)
      (fresh : ¬ FunctionTag.closing <:+: (Json.object arguments).compact) :
      ReadableCall .functionTag name arguments
  /-- An object with name and parameters. -/
  | json {name : String} {arguments : Json.Fields}
      (readBack : Json.parse? (Json.object (FunctionObject.ofCall name arguments)).render =
        some (.object (FunctionObject.ofCall name arguments)))
      (untagged : ¬ FunctionTag.opening <:+:
        (Json.object (FunctionObject.ofCall name arguments)).compact) :
      ReadableCall .json name arguments

theorem ToolCall.encodeCustom_functionTag (name : String) (arguments : Json.Fields) :
    encodeCustom .functionTag name arguments =
      FunctionTag.opening ++ name.toList ++ ['>'] ++ (Json.object arguments).compact ++
        FunctionTag.closing :=
  rfl

/-- A function tag is read as the call it was written for. -/
theorem FunctionTag.call?_written {name : String} {arguments : Json.Fields}
    (foreign : BuiltinTool.ofName? name = none)
    (trimmed : Text.trimBlank name.toList = name.toList)
    (readBack : Json.parse? (Json.object arguments).render = some (.object arguments)) :
    call? name.toList (Json.object arguments).compact = some ⟨.custom name, arguments⟩ := by
  have fields : arguments? (Json.object arguments).compact = some arguments := by
    simp only [arguments?]
    rw [← Json.render, Json.parseFields?_of_parse? readBack]
  rw [call?, Json.trimBlank_compact_object, fields, trimmed, String.ofList_toList]
  simp [FoundCall.named_custom foreign]

namespace FunctionObject

theorem get?_name_ofCall (name : String) (arguments : Json.Fields) :
    (ofCall name arguments).get? "name" = some (.string name) := by
  simp [ofCall, Json.Fields.get?]

theorem get?_parameters_ofCall (name : String) (arguments : Json.Fields) :
    (ofCall name arguments).get? "parameters" = some (.object arguments) := by
  simp [ofCall, Json.Fields.get?, List.lookup_cons]

/-- A function object is read as the call it was written for. -/
theorem call?_ofCall (name : String) (arguments : Json.Fields) :
    call? (ofCall name arguments) = some (FoundCall.named name arguments) := by
  have function : isFunction (ofCall name arguments) = true := by
    simp [isFunction, get?_name_ofCall]
  have parameters : parameters? (ofCall name arguments) = some arguments := by
    simp [parameters?, get?_parameters_ofCall]
  rw [call?, function, get?_name_ofCall, parameters]

end FunctionObject

/-- The written form of a readable custom call holds that call. -/
theorem Reply.call?_encodeCustom {format : ToolPromptFormat} {name : String}
    {arguments : Json.Fields} (foreign : BuiltinTool.ofName? name = none)
    (readable : ReadableCall format name arguments) (tagged : Bool) :
    call? tagged (ToolCall.encodeCustom format name arguments) =
      some ⟨.custom name, arguments⟩ := by
  cases readable with
  | functionTag readBack nonempty closed trimmed fresh =>
    have written : ToolCall.encodeCustom .functionTag name arguments =
        FunctionTag.opening ++ (name.toList ++ '>' ::
          ((Json.object arguments).compact ++ FunctionTag.closing ++ [])) := by
      rw [ToolCall.encodeCustom_functionTag]
      simp only [List.append_assoc, List.cons_append, List.nil_append, List.append_nil]
    have found := FunctionTag.find?_tag (by simpa using nonempty) closed fresh []
    have call := FunctionTag.call?_written foreign trimmed readBack
    simp only [call?, functionCall?, written, found, call]
  | json readBack untagged =>
    have written : ToolCall.encodeCustom .json name arguments =
        (Json.object (FunctionObject.ofCall name arguments)).compact := rfl
    have noTag := FunctionTag.find?_eq_none untagged
    have call : FunctionObject.ofText?
        (Json.object (FunctionObject.ofCall name arguments)).compact =
          some ⟨.custom name, arguments⟩ := by
      rw [FunctionObject.ofText?, Json.trimBlank_compact_object, ← Json.render,
        Json.parseFields?_of_parse? readBack, Option.bind_some,
        FunctionObject.call?_ofCall, FoundCall.named_custom foreign]
    simp only [call?, functionCall?, written, noTag, call]

/-- The block of a readable custom call stands in every dialog with the call, and decoding it gives
the call again, whatever stop reason is given. -/
theorem decode_block_of_custom_call (family : ModelFamily) (format : ToolPromptFormat)
    (earlier later : List Message) {turn : AssistantMessage} {call : ToolCall} {name : String}
    (only : turn.OnlyCalls call) (custom : call.tool = .custom name)
    (foreign : BuiltinTool.ofName? name = none)
    (readable : ReadableCall format name call.arguments) :
    (Dialog.encode (earlier ++ .assistant turn :: later) family format).toList =
        (family.beginMarker.toList ++ (Dialog.blocks format earlier).flatMap DialogBlock.render) ++
          (DialogBlock.ofMessage format (.assistant turn)).render ++
            ((Dialog.blocks format later).flatMap DialogBlock.render ++
              Template.assistantHeader) ∧
      ∀ (callId : String) (given : Option StopReason),
        Reply.decode callId (DialogBlock.ofMessage format (.assistant turn)).render given =
          ⟨.text "", turn.stopReason, [⟨callId, .custom name, call.arguments⟩]⟩ := by
  refine ⟨Dialog.toList_encode_append earlier later (.assistant turn) family format,
    fun callId given => ?_⟩
  have found : Reply.call? true (call.encode format) = some ⟨call.tool, call.arguments⟩ := by
    rw [ToolCall.encode, custom]
    exact Reply.call?_encodeCustom foreign readable true
  rw [Reply.decode_onlyCalls only found, custom]

/-- A note whose text holds markers, tags, quotes and a line break. -/
def markedNote : ToolCall :=
  ⟨"first", .custom "note", [("text", .string "\"<|eom_id|>\" <|python_tag|>\n{note}")]⟩

/-- The marked note is read back from its blocks in both formats. -/
theorem decode_block_of_markedNote :
    Reply.decode "again" (DialogBlock.ofMessage .functionTag
          (.assistant ⟨.text "", .endOfMessage, [markedNote]⟩)).render none =
        ⟨.text "", .endOfMessage, [⟨"again", .custom "note", markedNote.arguments⟩]⟩ ∧
      Reply.decode "again" (DialogBlock.ofMessage .json
          (.assistant ⟨.text "", .endOfMessage, [markedNote]⟩)).render none =
        ⟨.text "", .endOfMessage, [⟨"again", .custom "note", markedNote.arguments⟩]⟩ := by
  have only : AssistantMessage.OnlyCalls ⟨.text "", .endOfMessage, [markedNote]⟩ markedNote :=
    ⟨rfl, rfl, .inr rfl⟩
  have foreign : BuiltinTool.ofName? "note" = none := by decide
  have tagged : ReadableCall .functionTag "note" markedNote.arguments :=
    .functionTag (by decide +kernel) (by decide) (by decide) (by decide) (by decide +kernel)
  have plain : ReadableCall .json "note" markedNote.arguments :=
    .json (by decide +kernel) (by decide +kernel)
  exact
    ⟨(decode_block_of_custom_call .llama32 .functionTag [] [] only rfl foreign tagged).2
        "again" none,
      (decode_block_of_custom_call .llama32 .json [] [] only rfl foreign plain).2 "again" none⟩

end LlamaGateway
