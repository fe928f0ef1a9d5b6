import LlamaGateway.Calendar
import LlamaGateway.Conversation.Tool
import LlamaGateway.Error
import LlamaGateway.Json.Printer
import LlamaGateway.Model.AliasTable
import LlamaGateway.Prompt.Dialog
import LlamaGateway.Request.Generation
import LlamaGateway.Text.Basic

/-!
# Prompts

A request as the text that is sent to the model, and the same text without its begin marker, which
the provider adds itself. Builtin tools are named in an environment block; custom tools are
described as JSON objects in one of three prompts. The messages that describe tools come before the
caller's own: a leading system message is absorbed into them, every other message is kept as it is.
-/

namespace LlamaGateway

/-- The block that names the builtin tools, empty without any. The code interpreter is implied by
the environment. -/
def builtinToolBlock (tools : List BuiltinTool) : String :=
  let listed := (tools.filter fun tool => tool ≠ .codeInterpreter).map BuiltinTool.name
  if tools.isEmpty then ""
  else if listed.isEmpty then "Environment: ipython"
  else "Environment: ipython\nTools: " ++ ", ".intercalate listed

namespace ToolParameter

/-- Type and description of a parameter. -/
def summary (parameter : ToolParameter) : List (String × Json) :=
  [("type", .string parameter.kind), ("description", .string (parameter.description.getD ""))]

/-- Type and description of a parameter. -/
def schema (parameter : ToolParameter) : Json :=
  Json.ofPairs parameter.summary

/-- Type, description and default of a parameter. -/
def schemaWithDefault (parameter : ToolParameter) : Json :=
  Json.ofPairs (parameter.summary ++ Json.optionalMember "default" parameter.default)

/-- Every property of a parameter but its default. -/
def declaration (parameter : ToolParameter) : Json :=
  Json.ofPairs parameter.describingMembers

end ToolParameter

namespace ToolDefinition

/-- The text of the description, empty if there is none. -/
def descriptionText (definition : ToolDefinition) : String :=
  definition.description.getD ""

/-- The parameters under their names, each described by the same function. -/
def properties (describe : ToolParameter → Json) (definition : ToolDefinition) : Json :=
  Json.ofPairs (definition.parameters.map fun (name, parameter) => (name, describe parameter))

/-- The names of the required parameters as JSON. -/
def requiredList (definition : ToolDefinition) : Json :=
  .array (definition.requiredNames.map .string)

/-- The function object of the JSON prompt. -/
def functionSchema (definition : ToolDefinition) : Json :=
  Json.ofPairs [("type", .string "function"),
    ("function", Json.ofPairs [
      ("name", .string definition.name.toString),
      ("description", .string definition.descriptionText),
      ("parameters", Json.ofPairs [
        ("type", .string "object"),
        ("properties", definition.properties ToolParameter.schema),
        ("required", definition.requiredList)])])]

/-- The object of the function tag prompt. -/
def tagSchema (definition : ToolDefinition) : Json :=
  Json.ofPairs [("name", .string definition.name.toString),
    ("description", .string definition.descriptionText),
    ("parameters", definition.properties ToolParameter.declaration)]

/-- The object of the function list prompt. -/
def listSchema (definition : ToolDefinition) : Json :=
  Json.ofPairs [("name", .string definition.name.toString),
    ("description", .string definition.descriptionText),
    ("parameters", Json.ofPairs [
      ("type", .string "dict"),
      ("required", definition.requiredList),
      ("properties", definition.properties ToolParameter.schemaWithDefault)])]

end ToolDefinition

namespace ToolPrompt

/-- The prompt that asks for calls as JSON objects. -/
def json (tools : List ToolDefinition) : String :=
  "Answer the user's question by making use of the following functions if needed.\n" ++
    "If none of the function can be used, please say so.\n" ++
    "Here is a list of functions in JSON format:\n" ++
  String.join (tools.map fun tool => tool.functionSchema.renderPretty ++ "\n") ++
  "\nReturn function calls in JSON format."

/-- The instructions for calls in function tags. -/
def functionTagInstructions : String :=
  "Think very carefully before calling functions.\n" ++
    "If you choose to call a function ONLY reply in the following format " ++
    "with no prefix or suffix:\n\n" ++
    "<function=example_function_name>\x7b\"example_name\": \"example_value\"\x7d</function>\n\n" ++
    "Reminder:\n" ++
    "- If looking for real time information use relevant functions " ++
    "before falling back to brave_search\n" ++
    "- Function calls MUST follow the specified format, " ++
    "start with <function= and end with </function>\n" ++
    "- Required parameters MUST be specified\n" ++
    "- Only call one function at a time\n" ++
    "- Put the entire function call reply on one line"

/-- The description of one tool in the prompt that asks for function tags. -/
def functionTagEntry (tool : ToolDefinition) : String :=
  "Use the function '" ++ tool.name.toString ++ "' to '" ++ tool.descriptionText ++ "':\n" ++
    tool.tagSchema.render ++ "\n\n"

/-- The prompt that asks for calls in function tags. -/
def functionTag (tools : List ToolDefinition) : String :=
  "You have access to the following functions:\n\n" ++
    String.join (tools.map functionTagEntry) ++ functionTagInstructions

/-- The opening of the function list prompt when the caller gives none. -/
def functionListPreamble : String :=
  "You are an expert in composing functions. " ++
    "You are given a question and a set of possible functions.\n" ++
    "Based on the question, you will need to make one or more function/tool calls " ++
    "to achieve the purpose.\n" ++
    "If none of the function can be used, point it out. " ++
    "If the given question lacks the parameters required by the function,\n" ++
    "also point it out. You should only return the function call in tools call sections."

/-- The prompt that asks for a list of calls; a text of the caller replaces its opening. -/
def functionList (tools : List ToolDefinition) (preamble : Option String) : String :=
  preamble.getD functionListPreamble ++
  "\n\nIf you decide to invoke any of the function(s), you MUST put it in the format of " ++
    "[func_name1(params_name1=params_value1, params_name2=params_value2...), " ++
    "func_name2(params)]\n" ++
    "You SHOULD NOT include any other text in the response.\n\n" ++
    "Here is a list of functions in JSON format that you can invoke.\n\n" ++
  (Json.array (tools.map ToolDefinition.listSchema)).renderPretty ++ "\n"

end ToolPrompt

namespace Augmentation

/-- The end of the models' training data. -/
def knowledgeCutoff : String := "December 2023"

/-- The content of a leading system message, and the messages after it. -/
def splitSystem : List Message → Option Content × List Message
  | .system content :: rest => (some content, rest)
  | messages => (none, messages)

/-- The error for a tool prompt format that a kind of model does not take. -/
def unsupportedFormat (format : ToolPromptFormat) (models : String) : InferenceError :=
  .invalidRequest ("tool prompt format " ++ format.name ++ " is not supported for " ++ models ++
    " models")

/-- The error for a system message after the first message. -/
def misplacedSystem : InferenceError :=
  .invalidRequest "only one system message is supported, at the start of the conversation"

/-- The block of the builtin tools and a line break, or nothing. -/
def environment (request : ChatRequest) : String :=
  let block := builtinToolBlock request.builtinTools
  if block.isEmpty then "" else block ++ "\n"

/-- The system text with the date header. -/
def dateHeaderText (request : ChatRequest) (system : Option Content) (today : CalendarDate) :
    String :=
  environment request ++ "Cutting Knowledge Date: " ++ knowledgeCutoff ++ "\nToday Date: " ++
    today.toText ++
    match system with
    | some content => "\n" ++ content.plainText
    | none => ""

/-- The user message that describes the custom tools, if there are any. -/
def dateHeaderTools (request : ChatRequest) : Except InferenceError (List Message) :=
  let tools := request.customTools
  if tools.isEmpty then .ok []
  else
    match request.toolPromptFormat with
    | .json => .ok [.userText (ToolPrompt.json tools)]
    | .functionTag => .ok [.userText (ToolPrompt.functionTag tools)]
    | .pythonList => .error (unsupportedFormat request.toolPromptFormat "llama 3.1")

/-- The leading messages of the date header style. -/
def dateHeaderMessages (request : ChatRequest) (system : Option Content) (today : CalendarDate) :
    Except InferenceError (List Message) := do
  let tools ← dateHeaderTools request
  return .systemText (dateHeaderText request system today) :: tools

/-- The system text of the function list style, line breaks at either end included. -/
def functionListText (request : ChatRequest) (system : Option Content) :
    Except InferenceError String :=
  let tools := request.customTools
  let preamble := system.map Content.plainText
  if tools.isEmpty then .ok (environment request ++ preamble.getD "")
  else if request.toolPromptFormat = .pythonList then
    .ok (environment request ++ ToolPrompt.functionList tools preamble ++ "\n")
  else .error (unsupportedFormat request.toolPromptFormat "llama 3.2")

/-- A text without line breaks at either end. -/
def trimLineBreaks (text : String) : String :=
  String.ofList (Text.trim (· = '\n') text.toList)

/-- The leading messages of the function list style. -/
def functionListMessages (request : ChatRequest) (system : Option Content) :
    Except InferenceError (List Message) := do
  let text ← functionListText request system
  let trimmed := trimLineBreaks text
  return if trimmed.isEmpty then [] else [.systemText trimmed]

/-- The messages of a request after those that the family's prompt style puts before them. -/
def augment (request : ChatRequest) (family : ModelFamily) (today : CalendarDate) :
    Except InferenceError (List Message) :=
  let (system, rest) := splitSystem request.messages
  match family.toolPromptStyle with
  | .plain => .ok request.messages
  | .dateHeader =>
    if rest.any Message.isSystem then .error misplacedSystem
    else (dateHeaderMessages request system today).map (· ++ rest)
  | .functionList =>
    if rest.any Message.isSystem then .error misplacedSystem
    else (functionListMessages request system).map (· ++ rest)

end Augmentation

namespace ResponseFormat

/-- The sentence that asks for JSON of a schema. A grammar needs none: the provider enforces it. -/
def instruction? : ResponseFormat → Option String
  | .jsonSchema schema =>
    some ("Please respond in JSON format with the schema: " ++ schema.render)
  | .grammar _ | .unsupported _ => none

end ResponseFormat

/-- The prompt of a completion: its text and, after an empty line, the instruction. -/
def CompletionRequest.prompt (request : CompletionRequest) (family : ModelFamily) : String :=
  let text := request.content.plainText
  let instruction := request.responseFormat.bind ResponseFormat.instruction?
  family.beginMarker ++ text ++
    match instruction with
    | some instruction => (if text.isEmpty then "" else "\n\n") ++ instruction
    | none => ""

namespace ChatRequest

/-- The closing user message with the instruction, if there is one. -/
def instructionMessages (request : ChatRequest) : List Message :=
  ((request.responseFormat.bind ResponseFormat.instruction?).map Message.userText).toList

/-- The prompt of a conversation on a day. -/
def prompt (request : ChatRequest) (family : ModelFamily) (today : CalendarDate) :
    Except InferenceError String := do
  let messages ← Augmentation.augment request family today
  return Dialog.encode (messages ++ request.instructionMessages) family request.toolPromptFormat

end ChatRequest

/-- A prompt without one begin marker at its start. -/
def stripBeginMarker (family : ModelFamily) (prompt : String) : String :=
  match Text.dropPrefix? family.beginMarker.toList prompt.toList with
  | some rest => String.ofList rest
  | none => prompt

end LlamaGateway
