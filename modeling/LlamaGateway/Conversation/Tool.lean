import LlamaGateway.Json.Reader

/-!
# Tools

Names, definitions and calls of tools. The models know four tools by training; every other name is
a function of the caller.
-/

namespace LlamaGateway

open Json (Document)

/-- A tool that the models were trained to call. -/
inductive BuiltinTool where
  | braveSearch
  | wolframAlpha
  | photogen
  | codeInterpreter
deriving DecidableEq, Repr, Inhabited

namespace BuiltinTool

def name : BuiltinTool → String
  | .braveSearch => "brave_search"
  | .wolframAlpha => "wolfram_alpha"
  | .photogen => "photogen"
  | .codeInterpreter => "code_interpreter"

def ofName? (name : String) : Option BuiltinTool :=
  match name with
  | "brave_search" => some .braveSearch
  | "wolfram_alpha" => some .wolframAlpha
  | "photogen" => some .photogen
  | "code_interpreter" => some .codeInterpreter
  | _ => none

@[simp] theorem ofName?_name (tool : BuiltinTool) : ofName? tool.name = some tool := by
  cases tool <;> rfl

theorem name_eq_of_ofName? {name : String} {tool : BuiltinTool}
    (found : ofName? name = some tool) : tool.name = name := by
  unfold ofName? at found
  split at found <;> cases found <;> rfl

/-- The four names are those of the builtin tools. -/
theorem ofName?_eq_none_iff {name : String} :
    ofName? name = none ↔
      name ∉ ["brave_search", "wolfram_alpha", "photogen", "code_interpreter"] := by
  constructor
  · intro foreign listed
    simp only [List.mem_cons, List.not_mem_nil, or_false] at listed
    obtain rfl | rfl | rfl | rfl := listed <;> cases foreign
  · intro unlisted
    cases found : ofName? name with
    | none => rfl
    | some tool =>
      refine absurd ?_ unlisted
      rw [← name_eq_of_ofName? found]
      cases tool <;> decide

def toJson (tool : BuiltinTool) : Json :=
  .string tool.name

def ofDocument? : Document → Option BuiltinTool :=
  Document.choice? Document.isNull ofName?

end BuiltinTool

/-- The name of a tool. -/
inductive ToolName where
  | builtin (tool : BuiltinTool)
  | custom (name : String)
deriving DecidableEq, Repr, Inhabited

namespace ToolName

/-- The tool that a text names: the builtin one, or else a custom one. -/
def ofString (name : String) : ToolName :=
  match BuiltinTool.ofName? name with
  | some tool => .builtin tool
  | none => .custom name

@[simp] theorem ofString_name (tool : BuiltinTool) : ofString tool.name = .builtin tool := by
  simp [ofString]

theorem ofString_custom {name : String} (foreign : BuiltinTool.ofName? name = none) :
    ofString name = .custom name := by
  simp [ofString, foreign]

/-- The text of a name. -/
def toString : ToolName → String
  | .builtin tool => tool.name
  | .custom name => name

/-- The tool is a function of the caller. -/
def isCustom : ToolName → Bool
  | .builtin _ => false
  | .custom _ => true

/-- The builtin tool, if it is one. -/
def builtin? : ToolName → Option BuiltinTool
  | .builtin tool => some tool
  | .custom _ => none

def toJson (name : ToolName) : Json :=
  .string name.toString

def ofDocument? (document : Document) : Option ToolName :=
  if document.readable then
    match BuiltinTool.ofDocument? document with
    | some tool => some (.builtin tool)
    | none => document.string?.map .custom
  else none

end ToolName

/-- A parameter of a tool. -/
structure ToolParameter where
  /-- The name of its type. -/
  kind : String
  /-- What it means. -/
  description : Option String
  /-- A call has to give it. -/
  required : Bool
  /-- The value for when a call leaves it out. -/
  default : Option Json
deriving DecidableEq, Repr, Inhabited

namespace ToolParameter

/-- A described parameter without a default. -/
def described (kind description : String) (required : Bool) : ToolParameter :=
  ⟨kind, some description, required, none⟩

/-- The members of the JSON form of a parameter, but for its default. -/
def describingMembers (parameter : ToolParameter) : List (String × Json) :=
  ("param_type", .string parameter.kind) ::
    Json.optionalMember "description" (parameter.description.map .string) ++
      [("required", .boolean parameter.required)]

def toJson (parameter : ToolParameter) : Json :=
  .object (parameter.describingMembers ++ Json.optionalMember "default" parameter.default)

def ofDocument? (document : Document) : Option ToolParameter :=
  match document.record? ["param_type", "description", "required", "default"] with
  | some [kind, description, required, default] => do
    let kind ← Document.required Document.string? kind
    let description ← Document.optional Document.string? description
    let required ← Document.withDefault true Document.boolean? required
    let default ← Document.optional Document.toJson? default
    return ⟨kind, description, required, default⟩
  | _ => none

end ToolParameter

/-- A tool that the model may call. -/
structure ToolDefinition where
  /-- Its name. -/
  name : ToolName
  /-- What it does. -/
  description : Option String
  /-- Its parameters in the order of declaration. -/
  parameters : List (String × ToolParameter)
deriving DecidableEq, Repr, Inhabited

namespace ToolDefinition

/-- The definition of a builtin tool. -/
def builtin (tool : BuiltinTool) : ToolDefinition :=
  ⟨.builtin tool, none, []⟩

/-- The definition of a function of the caller, whatever its name. -/
def custom (name description : String) : ToolDefinition :=
  ⟨.custom name, some description, []⟩

/-- The definition with one more parameter; a known one keeps its place. -/
def withParameter (definition : ToolDefinition) (name : String) (parameter : ToolParameter) :
    ToolDefinition :=
  { definition with parameters := Document.putEntry name parameter definition.parameters }

/-- The names of the required parameters in the order of declaration. -/
def requiredNames (definition : ToolDefinition) : List String :=
  (definition.parameters.filter fun entry => entry.2.required).map Prod.fst

def toJson (definition : ToolDefinition) : Json :=
  let parameters := definition.parameters.map fun (name, parameter) => (name, parameter.toJson)
  .object (("tool_name", definition.name.toJson) ::
    Json.optionalMember "description" (definition.description.map .string) ++
      [("parameters", .object parameters)])

def ofDocument? (document : Document) : Option ToolDefinition :=
  match document.record? ["tool_name", "description", "parameters"] with
  | some [name, description, parameters] => do
    let name ← Document.required ToolName.ofDocument? name
    let description ← Document.optional Document.string? description
    let parameters ←
      Document.withDefault [] (Document.entries? ToolParameter.ofDocument?) parameters
    return ⟨name, description, parameters⟩
  | _ => none

end ToolDefinition

/-- Whether the model may or must call a tool. -/
inductive ToolChoice where
  | auto
  | required
deriving DecidableEq, Repr, Inhabited

namespace ToolChoice

def name : ToolChoice → String
  | .auto => "auto"
  | .required => "required"

def ofName? (name : String) : Option ToolChoice :=
  match name with
  | "auto" => some .auto
  | "required" => some .required
  | _ => none

def toJson (choice : ToolChoice) : Json :=
  .string choice.name

def ofDocument? : Document → Option ToolChoice :=
  Document.choice? Document.isNull ofName?

end ToolChoice

/-- How custom tools and their calls are written into a prompt. -/
inductive ToolPromptFormat where
  /-- A JSON object with type, name and parameters. -/
  | json
  /-- A function tag around the arguments. -/
  | functionTag
  /-- A list with one call in the notation of Python. -/
  | pythonList
deriving DecidableEq, Repr, Inhabited

namespace ToolPromptFormat

def name : ToolPromptFormat → String
  | .json => "json"
  | .functionTag => "function_tag"
  | .pythonList => "python_list"

def ofName? (name : String) : Option ToolPromptFormat :=
  match name with
  | "json" => some .json
  | "function_tag" => some .functionTag
  | "python_list" => some .pythonList
  | _ => none

def toJson (format : ToolPromptFormat) : Json :=
  .string format.name

def ofDocument? : Document → Option ToolPromptFormat :=
  Document.choice? Document.isNull ofName?

end ToolPromptFormat

/-- A call of a tool by the model. -/
structure ToolCall where
  /-- The identifier that ties the result to the call. -/
  callId : String
  /-- The tool. -/
  tool : ToolName
  /-- The arguments, a free-form object. -/
  arguments : Json.Fields
deriving DecidableEq, Repr, Inhabited

namespace ToolCall

def toJson (call : ToolCall) : Json :=
  .object [("call_id", .string call.callId), ("tool_name", call.tool.toJson),
    ("arguments", .object call.arguments)]

def ofDocument? (document : Document) : Option ToolCall :=
  match document.record? ["call_id", "tool_name", "arguments"] with
  | some [callId, tool, arguments] => do
    let callId ← Document.required Document.string? callId
    let tool ← Document.required ToolName.ofDocument? tool
    let arguments ← Document.required Document.fields? arguments
    return ⟨callId, tool, arguments⟩
  | _ => none

end ToolCall

end LlamaGateway
