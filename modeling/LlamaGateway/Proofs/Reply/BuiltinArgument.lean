import LlamaGateway.Proofs.Json.Fields
import LlamaGateway.Proofs.Reply.BuiltinCall
import LlamaGateway.Proofs.Reply.ObjectAnswer

/-!
# Arguments of decoded builtin calls

A decoded call of a builtin tool has one argument. Written calls put it under the key of a query and
tagged code puts it under the key of code, whatever the tool. So the argument is where the tool's
own notation takes it from, and is written back with the call, except in a written call of the
interpreter: that one is written back as nothing.
-/

namespace LlamaGateway

/-- The text of an argument: a string as it is, any other value as JSON. -/
def Json.argumentText : Json → List Char
  | .string text => text.toList
  | value => value.compact

theorem BuiltinTool.argumentName_of_ne {tool : BuiltinTool} (searches : tool ≠ .codeInterpreter) :
    tool.argumentName = "query" := by
  cases tool <;> first | rfl | contradiction

namespace ToolCall

theorem argumentText_single (key : String) (value : Json) :
    argumentText [(key, value)] key = value.argumentText := by
  have held : Json.Fields.get? [(key, value)] key = some value := by
    simp [Json.Fields.get?_cons]
  rw [argumentText, held]
  cases value <;> rfl

theorem argumentText_single_of_ne {key other : String} (different : other ≠ key) (value : Json) :
    argumentText [(key, value)] other = [] := by
  have missing : Json.Fields.get? [(key, value)] other = none := by
    simp [Json.Fields.get?_cons, different]
  rw [argumentText, missing]

theorem encode_builtin {call : ToolCall} {tool : BuiltinTool} (builtin : call.tool = .builtin tool)
    (format : ToolPromptFormat) : call.encode format = encodeBuiltin tool call.arguments := by
  rw [encode, builtin]

/-- A builtin call is written with the text of the argument under the tool's own key. -/
theorem argumentText_infix_encodeBuiltin (tool : BuiltinTool) (arguments : Json.Fields) :
    argumentText arguments tool.argumentName <:+: encodeBuiltin tool arguments := by
  by_cases interpreter : tool = .codeInterpreter
  · subst interpreter
    exact List.infix_rfl
  · rw [encodeBuiltin_of_ne interpreter, BuiltinTool.argumentName_of_ne interpreter]
    exact ⟨tool.name.toList ++ QueryCall.opening, ['"', ')'], rfl⟩

end ToolCall

/-- A builtin tool that is called by name is called with a query. -/
theorem FoundCall.arguments_named_builtin {name : String} {arguments : Json.Fields}
    {tool : BuiltinTool} (builtin : (named name arguments).tool = .builtin tool) :
    ∃ value, (named name arguments).arguments = [("query", value)] := by
  rw [tool_named] at builtin
  simp only [named, builtin]
  exact ⟨_, rfl⟩

namespace Reply

/-- No call is written in a core, so that it is code if it is tagged. -/
def Unwritten (core : List Char) : Prop :=
  NoFunctionCall core ∧ Text.Nowhere QueryCall.StartsAt core

theorem unwritten_iff {core : List Char} : Unwritten core ↔ call? false core = none := by
  rw [call?_eq_iff]
  constructor
  · rintro ⟨missing, unasked⟩
    exact .text rfl missing unasked
  · intro holds
    cases holds with
    | text _ missing unasked => exact ⟨missing, unasked⟩

theorem not_unwritten_of_holds {core : List Char} {call : FoundCall}
    (holds : Holds false core (some call)) : ¬ Unwritten core := by
  rw [unwritten_iff, holds.call?_eq]
  nofun

/-- A builtin call has one argument: the query of a written call, or the code of a tagged core
without one. -/
theorem Holds.builtin_argument {tagged : Bool} {core : List Char} {call : FoundCall}
    {tool : BuiltinTool} (holds : Holds tagged core (some call))
    (builtin : call.tool = .builtin tool) :
    (¬ Unwritten core ∧ ∃ value, call.arguments = [("query", value)]) ∨
      (Unwritten core ∧ tool = .codeInterpreter ∧ ∃ value, call.arguments = [("code", value)]) := by
  cases holds with
  | functionTag first object =>
    exact .inl ⟨not_unwritten_of_holds (.functionTag first object),
      FoundCall.arguments_named_builtin builtin⟩
  | functionObject untagged found =>
    refine .inl ⟨not_unwritten_of_holds (.functionObject untagged found), ?_⟩
    obtain ⟨fields, -, isCall⟩ := Option.bind_eq_some_iff.1 found
    obtain ⟨name, parameters, -, rfl⟩ := FunctionObject.call?_eq_some_iff.1 isCall
    exact FoundCall.arguments_named_builtin builtin
  | query missing first => exact .inl ⟨not_unwritten_of_holds (.query missing first), _, rfl⟩
  | code isTagged missing unasked =>
    have interpreter : BuiltinTool.codeInterpreter = tool := ToolName.builtin.inj builtin
    exact .inr ⟨⟨missing, unasked⟩, interpreter.symm, _, rfl⟩

/-- A decoded call is the one that the peeled core holds. -/
theorem holds_of_mem_toolCalls {callId : String} {text : List Char} {given : Option StopReason}
    {frame : ReplyFrame} {call : ToolCall} (peels : ReplyFrame.Peels text frame)
    (member : call ∈ (decode callId text given).toolCalls) :
    call.callId = callId ∧ Holds frame.tagged frame.core (some ⟨call.tool, call.arguments⟩) := by
  rw [toolCalls_decode_of_peels peels] at member
  cases found : call? frame.tagged frame.core with
  | none => simp [callsOf, found] at member
  | some held =>
    obtain rfl : call = ⟨callId, held.tool, held.arguments⟩ := by
      simpa [callsOf, found] using member
    exact ⟨rfl, call?_eq_iff.1 found⟩

end Reply

namespace ToolCall

/-- The call has one argument, under the key of the tool, and is written back with its text. -/
def Placed (call : ToolCall) (tool : BuiltinTool) : Prop :=
  ∃ value, call.arguments = [(tool.argumentName, value)] ∧
    ∀ format, value.argumentText <:+: call.encode format

/-- The call has one argument, under the key of a query, and is written back as nothing. -/
def Dropped (call : ToolCall) : Prop :=
  ∃ value, call.arguments = [("query", value)] ∧ ∀ format, call.encode format = []

theorem Placed.of_arguments {call : ToolCall} {tool : BuiltinTool} {value : Json}
    (builtin : call.tool = .builtin tool)
    (arguments : call.arguments = [(tool.argumentName, value)]) : call.Placed tool := by
  refine ⟨value, arguments, fun format => ?_⟩
  have written := argumentText_infix_encodeBuiltin tool call.arguments
  rwa [encode_builtin builtin, ← argumentText_single tool.argumentName value, ← arguments]

theorem Dropped.of_arguments {call : ToolCall} {value : Json}
    (builtin : call.tool = .builtin .codeInterpreter)
    (arguments : call.arguments = [("query", value)]) : call.Dropped := by
  refine ⟨value, arguments, fun format => ?_⟩
  have different : "code" ≠ "query" := by decide
  rw [encode_builtin builtin, arguments]
  exact argumentText_single_of_ne different value

theorem Dropped.not_placed {call : ToolCall} (dropped : call.Dropped) :
    ¬ call.Placed .codeInterpreter := by
  rintro ⟨value, arguments, -⟩
  obtain ⟨other, others, -⟩ := dropped
  simp [others, BuiltinTool.argumentName] at arguments

end ToolCall

/-- A decoded call of a builtin tool has one argument. It is under the key that the tool's notation
is written from, and written back with the call, unless the call is a written one of the
interpreter, which is written back as nothing. -/
theorem builtin_argument_is_placed_iff {callId : String} {text : List Char}
    {given : Option StopReason} {frame : ReplyFrame} {call : ToolCall} {tool : BuiltinTool}
    (peels : ReplyFrame.Peels text frame)
    (member : call ∈ (Reply.decode callId text given).toolCalls)
    (builtin : call.tool = .builtin tool) :
    (call.Placed tool ↔ (tool = .codeInterpreter → Reply.Unwritten frame.core)) ∧
      (¬ call.Placed tool → call.Dropped) := by
  obtain ⟨-, holds⟩ := Reply.holds_of_mem_toolCalls peels member
  rcases holds.builtin_argument builtin with
    ⟨written, value, arguments⟩ | ⟨unwritten, rfl, value, arguments⟩
  · by_cases interpreter : tool = .codeInterpreter
    · subst interpreter
      have dropped : call.Dropped := .of_arguments builtin arguments
      exact ⟨⟨fun placed => absurd placed dropped.not_placed,
        fun code => absurd (code rfl) written⟩, fun _ => dropped⟩
    · have key : tool.argumentName = "query" := BuiltinTool.argumentName_of_ne interpreter
      have placed : call.Placed tool := .of_arguments builtin (by rw [key]; exact arguments)
      exact ⟨⟨fun _ same => absurd same interpreter, fun _ => placed⟩,
        fun unplaced => absurd placed unplaced⟩
  · have placed : call.Placed .codeInterpreter := .of_arguments builtin arguments
    exact ⟨⟨fun _ _ => unwritten, fun _ => placed⟩, fun unplaced => absurd placed unplaced⟩

/-- A call of the interpreter in a function tag. -/
def taggedCode : List Char :=
  "<function=code_interpreter>\x7b\"code\": \"print(1)\"\x7d</function>".toList

/-- A call of a search in a function tag, with a list as its argument. -/
def taggedSearch : List Char :=
  "<function=brave_search>\x7b\"terms\": [1, 2]\x7d</function>".toList

/-- The code in a function tag is held under the key of a query and is lost when the call is written
back, while code behind the tag of tool calls is kept. -/
theorem tagged_code_is_dropped :
    Reply.decode "first" taggedCode none =
        ⟨.text "", .outOfTokens,
          [⟨"first", .builtin .codeInterpreter, [("query", .string "print(1)")]⟩]⟩ ∧
      (∀ format, ToolCall.encode format
        ⟨"first", .builtin .codeInterpreter, [("query", .string "print(1)")]⟩ = []) ∧
      Reply.decode "first" "<|python_tag|>print(1)".toList none =
        ⟨.text "", .outOfTokens,
          [⟨"first", .builtin .codeInterpreter, [("code", .string "print(1)")]⟩]⟩ := by
  refine ⟨by decide +kernel, fun format => by cases format <;> decide, by decide +kernel⟩

/-- The argument of the tagged search is placed, and the tagged code is dropped. -/
theorem builtin_argument_is_placed_iff_taggedSearch :
    (ToolCall.mk "first" (.builtin .braveSearch)
        [("query", .array [.number (.integer 1), .number (.integer 2)])]).Placed .braveSearch ∧
      (ToolCall.mk "first" (.builtin .codeInterpreter)
        [("query", .string "print(1)")]).Dropped := by
  have searchCalls : ToolCall.mk "first" (.builtin .braveSearch)
      [("query", .array [.number (.integer 1), .number (.integer 2)])] ∈
        (Reply.decode "first" taggedSearch none).toolCalls := by
    decide +kernel
  have codeCalls : ToolCall.mk "first" (.builtin .codeInterpreter) [("query", .string "print(1)")] ∈
      (Reply.decode "first" taggedCode none).toolCalls := by
    decide +kernel
  have written : ¬ Reply.Unwritten (ReplyFrame.ofText taggedCode).core := by
    rw [Reply.unwritten_iff]
    decide +kernel
  have placed := (builtin_argument_is_placed_iff (ReplyFrame.peels_ofText taggedSearch)
    searchCalls rfl).1
  have dropped := builtin_argument_is_placed_iff (ReplyFrame.peels_ofText taggedCode) codeCalls rfl
  exact ⟨placed.2 nofun, dropped.2 fun held => written (dropped.1.1 held rfl)⟩

end LlamaGateway
