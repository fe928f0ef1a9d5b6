import LlamaGateway.Conversation.Message
import LlamaGateway.Conversation.Tool
import LlamaGateway.Json.Printer
import LlamaGateway.Model.AliasTable
import LlamaGateway.Text.Basic

/-!
# The dialog template

A conversation is rendered as one block a message, each with a header and an end marker, between
the family's begin marker and an open header for the model's reply. Calls of builtin tools have one
notation; calls of custom tools follow the tool prompt format.
-/

namespace LlamaGateway

/-- The end of a block: the turn is over, or the model waits for a tool. -/
inductive EndMarker where
  /-- The turn is over. -/
  | turn
  /-- The model waits for a tool. -/
  | message
deriving DecidableEq, Repr, Inhabited

namespace EndMarker

/-- The text of an end marker. -/
def text : EndMarker → List Char
  | .turn => "<|eot_id|>".toList
  | .message => "<|eom_id|>".toList

/-- The stop reason that an end marker stands for. -/
def stopReason : EndMarker → StopReason
  | .turn => .endOfTurn
  | .message => .endOfMessage

/-- The end marker that a text is. -/
def ofText? (candidate : List Char) : Option EndMarker :=
  if candidate = text .turn then some .turn
  else if candidate = text .message then some .message
  else none

@[simp] theorem ofText?_text (marker : EndMarker) : ofText? marker.text = some marker := by
  cases marker <;> rfl

end EndMarker

namespace Template

/-- The text before a role. -/
def startHeader : List Char := "<|start_header_id|>".toList

/-- The text after a role. -/
def endHeader : List Char := "<|end_header_id|>".toList

/-- The text in front of tool calls. -/
def toolTag : List Char := "<|python_tag|>".toList

/-- The header of a block. -/
def header (role : String) : List Char :=
  startHeader ++ role.toList ++ endHeader ++ ['\n', '\n']

/-- The header of the model's own block. -/
def assistantHeader : List Char := header "assistant"

end Template

namespace Json

mutual

/-- A value in the notation of call lists; strings stand between quotes as they are. -/
def callLiteral : Json → List Char
  | .string value => '"' :: value.toList ++ ['"']
  | .boolean true => "True".toList
  | .boolean false => "False".toList
  | .null => "None".toList
  | .number value => value.write
  | .array items => '[' :: callLiteralItems items
  | .object members => '{' :: callLiteralMembers members

/-- The items of a list and its closing bracket. -/
def callLiteralItems : List Json → List Char
  | [] => [']']
  | [item] => callLiteral item ++ [']']
  | item :: rest => callLiteral item ++ [',', ' '] ++ callLiteralItems rest

/-- The members of a dictionary and its closing brace. -/
def callLiteralMembers : List (String × Json) → List Char
  | [] => ['\x7d']
  | [(key, value)] => '"' :: key.toList ++ ['"', ':', ' '] ++ callLiteral value ++ ['\x7d']
  | (key, value) :: rest =>
    '"' :: key.toList ++ ['"', ':', ' '] ++ callLiteral value ++ [',', ' '] ++
      callLiteralMembers rest

end

end Json

namespace BuiltinTool

/-- The name of the tool's one argument. -/
def argumentName : BuiltinTool → String
  | .codeInterpreter => "code"
  | .braveSearch | .wolframAlpha | .photogen => "query"

end BuiltinTool

namespace ToolCall

/-- An argument as text: a string as it is, any other value as JSON, nothing if it is absent. -/
def argumentText (arguments : Json.Fields) (name : String) : List Char :=
  match arguments.get? name with
  | some (.string text) => text.toList
  | some value => value.compact
  | none => []

/-- The call of a builtin tool: its code alone, or a method call with the query. -/
def encodeBuiltin (tool : BuiltinTool) (arguments : Json.Fields) : List Char :=
  let argument := argumentText arguments tool.argumentName
  match tool with
  | .codeInterpreter => argument
  | .braveSearch | .wolframAlpha | .photogen =>
    tool.name.toList ++ ".call(query=\"".toList ++ argument ++ "\")".toList

/-- The call of a custom tool. -/
def encodeCustom (format : ToolPromptFormat) (name : String) (arguments : Json.Fields) :
    List Char :=
  match format with
  | .json =>
    (Json.object [("name", .string name), ("parameters", .object arguments),
      ("type", .string "function")]).compact
  | .functionTag =>
    "<function=".toList ++ name.toList ++ ['>'] ++ (Json.object arguments).compact ++
      "</function>".toList
  | .pythonList =>
    let written := arguments.map fun (key, value) => key.toList ++ '=' :: value.callLiteral
    '[' :: name.toList ++ '(' :: Text.joinWith [',', ' '] written ++ [')', ']']

/-- The text of a call. -/
def encode (format : ToolPromptFormat) (call : ToolCall) : List Char :=
  match call.tool with
  | .builtin tool => encodeBuiltin tool call.arguments
  | .custom name => encodeCustom format name call.arguments

end ToolCall

/-- A rendered message: its role, its text and how it ends. -/
structure DialogBlock where
  /-- The role in the header. -/
  role : String
  /-- The text between header and end marker. -/
  body : List Char
  /-- The end marker. -/
  ending : EndMarker
deriving DecidableEq, Repr

namespace DialogBlock

/-- The text of a block. -/
def render (block : DialogBlock) : List Char :=
  Template.header block.role ++ block.body ++ block.ending.text

/-- The role of a message in the template; results of tools have a role of their own. -/
def roleOf : Message → String
  | .tool _ _ _ => "ipython"
  | message => message.role

/-- The text of a turn of the model: a tag if it calls tools, what it says, then the calls. -/
def assistantBody (format : ToolPromptFormat) (turn : AssistantMessage) : List Char :=
  (if turn.toolCalls.isEmpty then [] else Template.toolTag) ++ turn.content.plainText.toList ++
    turn.toolCalls.flatMap (ToolCall.encode format)

/-- The text of a user turn: its content and, after an empty line, its context. -/
def userBody (content : Content) (context : Option Content) : List Char :=
  content.plainText.toList ++
    match context with
    | some context => '\n' :: '\n' :: context.plainText.toList
    | none => []

/-- The text of a message. -/
def bodyOf (format : ToolPromptFormat) : Message → List Char
  | .user content context => userBody content context
  | .assistant turn => assistantBody format turn
  | .system content | .tool _ _ content => content.plainText.toList

/-- The end marker of a message: only the model can wait for a tool. -/
def endingOf : Message → EndMarker
  | .assistant turn => if turn.stopReason = .endOfMessage then .message else .turn
  | _ => .turn

/-- The block of a message. -/
def ofMessage (format : ToolPromptFormat) (message : Message) : DialogBlock :=
  ⟨roleOf message, bodyOf format message, endingOf message⟩

end DialogBlock

namespace Dialog

/-- The blocks of a conversation, in order. -/
def blocks (format : ToolPromptFormat) (messages : List Message) : List DialogBlock :=
  messages.map (DialogBlock.ofMessage format)

/-- The rendered conversation, which ends with an open header for the reply. -/
def encode (messages : List Message) (family : ModelFamily) (format : ToolPromptFormat) : String :=
  String.ofList (family.beginMarker.toList ++
    (blocks format messages).flatMap DialogBlock.render ++ Template.assistantHeader)

end Dialog

end LlamaGateway
