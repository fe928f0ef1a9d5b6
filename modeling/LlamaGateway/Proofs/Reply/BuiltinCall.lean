import LlamaGateway.Proofs.Json.ObjectText
import LlamaGateway.Proofs.Reply.Frame
import LlamaGateway.Proofs.Reply.FirstCall

/-!
# Builtin calls read back

The call of a builtin tool is written as a method call with a query, and that of the interpreter as
the code itself. Decoding its block gives the call again, if what was written does not look like
another call that is searched for first.
-/

namespace LlamaGateway

namespace BuiltinTool

theorem name_nonempty (tool : BuiltinTool) : tool.name.toList ≠ [] := by
  cases tool <;> decide

theorem isWordChar_name (tool : BuiltinTool) :
    ∀ c ∈ tool.name.toList, Text.isWordChar c = true := by
  apply List.all_eq_true.1
  cases tool <;> decide

end BuiltinTool

/-- The arguments of a builtin call whose written form is readable: one query without double quotes,
or code that does not look like a method call or an object; neither holds a function tag. -/
inductive ReadableBuiltin : BuiltinTool → Json.Fields → Prop
  | query {tool : BuiltinTool} {text : String} (searches : tool ≠ .codeInterpreter)
      (unquoted : '"' ∉ text.toList) (untagged : ¬ FunctionTag.opening <:+: text.toList) :
      ReadableBuiltin tool [("query", .string text)]
  | code {text : String} (untagged : ¬ FunctionTag.opening <:+: text.toList)
      (uncalled : ¬ ".call(query=".toList <:+: text.toList)
      (unbraced : (Text.trimBlank text.toList).head? ≠ some '{') :
      ReadableBuiltin .codeInterpreter [("code", .string text)]

theorem Text.isSpace_isBlank {c : Char} (space : Json.Token.isSpace c = true) :
    isBlank c = true := by
  simp only [Json.Token.isSpace, Bool.or_eq_true, decide_eq_true_eq] at space
  rcases space with ((rfl | rfl) | rfl) | rfl <;> decide

/-- A text that does not start with a brace is no function object. -/
theorem FunctionObject.ofText?_eq_none {text : List Char}
    (unbraced : (Text.trimBlank text).head? ≠ some '{') : ofText? text = none := by
  cases parsed : Json.parseFields? (String.ofList (Text.trimBlank text)) with
  | none => simp [ofText?, parsed]
  | some fields =>
    have brace := Json.head?_of_parseFields? parsed
    cases start : Text.trimBlank text with
    | nil => simp [start] at brace
    | cons c rest =>
      have isFirst : (Text.trimBlank text).head? = some c := by rw [start, List.head?_cons]
      have visible : Text.isBlank c = false := Text.head?_trim isFirst
      have noSpace : ¬ Json.Token.isSpace c = true := fun space => by
        simp [Text.isSpace_isBlank space] at visible
      rw [start, List.dropWhile_cons_of_neg noSpace] at brace
      exact absurd (start ▸ brace) unbraced

namespace ToolCall

theorem argumentText_singleton (name text : String) :
    argumentText [(name, .string text)] name = text.toList := by
  simp [argumentText, Json.Fields.get?]

theorem encodeBuiltin_of_ne {tool : BuiltinTool} (searches : tool ≠ .codeInterpreter)
    (arguments : Json.Fields) :
    encodeBuiltin tool arguments =
      tool.name.toList ++ QueryCall.opening ++ argumentText arguments "query" ++ ['"', ')'] := by
  cases tool with
  | codeInterpreter => exact absurd rfl searches
  | braveSearch => rfl
  | wolframAlpha => rfl
  | photogen => rfl

/-- The written form of a query. -/
theorem encodeBuiltin_query {tool : BuiltinTool} (searches : tool ≠ .codeInterpreter)
    (text : String) :
    encodeBuiltin tool [("query", .string text)] =
      tool.name.toList ++ (QueryCall.opening ++ (text.toList ++ ['"', ')'])) := by
  rw [encodeBuiltin_of_ne searches, argumentText_singleton]
  simp only [List.append_assoc]

/-- A written query holds no function tag if the query itself holds none. -/
theorem opening_not_infix_query {text : List Char} (tool : BuiltinTool)
    (untagged : ¬ FunctionTag.opening <:+: text) :
    ¬ FunctionTag.opening <:+:
      tool.name.toList ++ (QueryCall.opening ++ (text ++ ['"', ')'])) := by
  have behind : ¬ FunctionTag.opening <:+: text ++ ['"', ')'] :=
    Text.not_infix_append untagged (by decide) (.inr ⟨'"', by decide, by decide⟩)
  have call : ¬ FunctionTag.opening <:+: QueryCall.opening ++ (text ++ ['"', ')']) :=
    Text.not_infix_append (by decide) behind (.inl ⟨'<', by decide, by decide⟩)
  refine Text.not_infix_append ?_ call (.inl ⟨'<', by decide, ?_⟩) <;> cases tool <;> decide

/-- A written query is no object: it starts with the name of the tool. -/
theorem head?_trimBlank_query (tool : BuiltinTool) (text : List Char) :
    (Text.trimBlank (tool.name.toList ++ (QueryCall.opening ++ (text ++ ['"', ')'])))).head? ≠
      some '{' := by
  obtain ⟨first, rest, name_eq, visible, other⟩ : ∃ first rest,
      tool.name.toList = first :: rest ∧ Text.isBlank first = false ∧ first ≠ '{' := by
    cases tool <;> exact ⟨_, _, rfl, by decide, by decide⟩
  have kept :
      Text.trimBlank (first :: ((rest ++ (QueryCall.opening ++ (text ++ ['"']))) ++ [')'])) =
        first :: ((rest ++ (QueryCall.opening ++ (text ++ ['"']))) ++ [')']) :=
    Text.trim_eq_self visible (by decide)
  have whole : tool.name.toList ++ (QueryCall.opening ++ (text ++ ['"', ')'])) =
      first :: ((rest ++ (QueryCall.opening ++ (text ++ ['"']))) ++ [')']) := by
    simp [name_eq]
  rw [whole, kept, List.head?_cons]
  simpa using other

end ToolCall

/-- The written form of a readable builtin call holds that call, if it is tagged. -/
theorem Reply.call?_encodeBuiltin {tool : BuiltinTool} {arguments : Json.Fields}
    (readable : ReadableBuiltin tool arguments) :
    call? true (ToolCall.encodeBuiltin tool arguments) = some ⟨.builtin tool, arguments⟩ := by
  cases readable with
  | @query _ text searches unquoted untagged =>
    have noTag := FunctionTag.find?_eq_none (ToolCall.opening_not_infix_query tool untagged)
    have noObject :=
      FunctionObject.ofText?_eq_none (ToolCall.head?_trimBlank_query tool text.toList)
    have found := QueryCall.find?_call tool.name_nonempty tool.isWordChar_name unquoted []
    rw [ToolCall.encodeBuiltin_query searches]
    simp only [call?, functionCall?, noTag, noObject, QueryCall.ofText?, found, Option.map_some,
      String.ofList_toList, ToolName.ofString_name, FoundCall.query]
  | @code text untagged uncalled unbraced =>
    have noTag := FunctionTag.find?_eq_none untagged
    have noObject := FunctionObject.ofText?_eq_none unbraced
    have noCall := QueryCall.find?_eq_none (QueryCall.opening_not_infix uncalled)
    have written : ToolCall.encodeBuiltin .codeInterpreter [("code", .string text)] =
        text.toList := ToolCall.argumentText_singleton "code" text
    rw [written]
    simp [call?, functionCall?, noTag, noObject, QueryCall.ofText?, noCall, FoundCall.code]

/-- The block of a readable builtin call stands in every dialog with the call, and decoding it gives
the call again, in every format and whatever stop reason is given. -/
theorem decode_block_of_builtin_call (family : ModelFamily) (format : ToolPromptFormat)
    (earlier later : List Message) {turn : AssistantMessage} {call : ToolCall}
    {tool : BuiltinTool} (only : turn.OnlyCalls call) (builtin : call.tool = .builtin tool)
    (readable : ReadableBuiltin tool call.arguments) :
    (Dialog.encode (earlier ++ .assistant turn :: later) family format).toList =
        (family.beginMarker.toList ++ (Dialog.blocks format earlier).flatMap DialogBlock.render) ++
          (DialogBlock.ofMessage format (.assistant turn)).render ++
            ((Dialog.blocks format later).flatMap DialogBlock.render ++
              Template.assistantHeader) ∧
      ∀ (callId : String) (given : Option StopReason),
        Reply.decode callId (DialogBlock.ofMessage format (.assistant turn)).render given =
          ⟨.text "", turn.stopReason, [⟨callId, .builtin tool, call.arguments⟩]⟩ := by
  refine ⟨Dialog.toList_encode_append earlier later (.assistant turn) family format,
    fun callId given => ?_⟩
  have found : Reply.call? true (call.encode format) = some ⟨call.tool, call.arguments⟩ := by
    rw [ToolCall.encode, builtin]
    exact Reply.call?_encodeBuiltin readable
  rw [Reply.decode_onlyCalls only found, builtin]

/-- Code over two lines that prints an end marker and looks like a query. -/
def markedCode : ToolCall :=
  ⟨"first", .builtin .codeInterpreter,
    [("code", .string " print('<|eot_id|>')\nquery(\"<|python_tag|>\")<|eom_id|>")]⟩

/-- A search over two lines that looks like another one and ends with an end marker. -/
def markedSearch : ToolCall :=
  ⟨"first", .builtin .braveSearch, [("query", .string "photogen.call(query=\n<|eom_id|>")]⟩

/-- The marked code and the marked search are read back from their blocks. -/
theorem decode_block_of_markedCode :
    Reply.decode "again" (DialogBlock.ofMessage .pythonList
          (.assistant ⟨.text "", .endOfTurn, [markedCode]⟩)).render none =
        ⟨.text "", .endOfTurn, [⟨"again", .builtin .codeInterpreter, markedCode.arguments⟩]⟩ ∧
      Reply.decode "again" (DialogBlock.ofMessage .json
          (.assistant ⟨.text "", .endOfMessage, [markedSearch]⟩)).render none =
        ⟨.text "", .endOfMessage,
          [⟨"again", .builtin .braveSearch, markedSearch.arguments⟩]⟩ := by
  have onlyCode : AssistantMessage.OnlyCalls ⟨.text "", .endOfTurn, [markedCode]⟩ markedCode :=
    ⟨rfl, rfl, .inl rfl⟩
  have code : ReadableBuiltin .codeInterpreter markedCode.arguments :=
    .code (by decide) (by decide) (by decide)
  have onlySearch :
      AssistantMessage.OnlyCalls ⟨.text "", .endOfMessage, [markedSearch]⟩ markedSearch :=
    ⟨rfl, rfl, .inr rfl⟩
  have search : ReadableBuiltin .braveSearch markedSearch.arguments :=
    .query (by decide) (by decide) (by decide)
  exact
    ⟨(decode_block_of_builtin_call .llama32 .pythonList [] [] onlyCode rfl code).2 "again" none,
      (decode_block_of_builtin_call .llama32 .json [] [] onlySearch rfl search).2 "again" none⟩

end LlamaGateway
