import LlamaGateway.Call.Messages
import LlamaGateway.Error
import LlamaGateway.Prompt.Rendering
import LlamaGateway.Request.Generation

/-!
# Built calls

A request becomes one JSON object with a prompt or with messages. Only a chat with images is sent
as messages; everything else is rendered as a prompt. An absent or zero sampling parameter is left
to the provider, except for the longest text, which always has a bound.
-/

namespace LlamaGateway

namespace CallOptions

/-- The longest text, in tokens, when the caller sets none. -/
def defaultMaxTokens : Nat := 512

/-- A member for a value that is there and not zero. -/
def nonZeroMember (key : String) : Option Floating → List (String × Json)
  | some value => if value.isZero then [] else [(key, .ofFloating value)]
  | none => []

/-- A member for a count that is there and not zero. -/
def countMember (key : String) : Option Nat → List (String × Json)
  | some count => if count = 0 then [] else [(key, .ofNat count)]
  | none => []

/-- The bound of the text: the caller's unless it is zero. -/
def maxTokens (params : SamplingParams) : Nat :=
  match params.maxTokens with
  | some count => if count = 0 then defaultMaxTokens else count
  | none => defaultMaxTokens

/-- A member for a penalty that is not neutral. -/
def penaltyMember (penalty : Floating) : List (String × Json) :=
  if penalty.farFromOne then [("repeat_penalty", .ofFloating penalty)] else []

/-- The members for sampling parameters. -/
def samplingMembers (params : SamplingParams) : List (String × Json) :=
  ("max_tokens", .ofNat (maxTokens params)) :: penaltyMember params.repetitionPenalty ++
    nonZeroMember "temperature" params.temperature ++ countMember "top_k" params.topK ++
    nonZeroMember "top_p" params.topP

/-- The members for a response format. -/
def formatMembers : Option ResponseFormat → Except InferenceError (List (String × Json))
  | none => .ok []
  | some (.jsonSchema schema) =>
    .ok [("response_format", .ofPairs [("type", .string "json_object"), ("schema", schema)])]
  | some (.grammar rules) =>
    .ok [("response_format", .ofPairs [("type", .string "grammar"), ("grammar", rules)])]
  | some (.unsupported tag) => .error (.unsupportedResponseFormat tag)

/-- The options of a call. -/
def build (params : SamplingParams) (format : Option ResponseFormat) :
    Except InferenceError Json.Fields :=
  (formatMembers format).map fun members => Json.Fields.ofList (samplingMembers params ++ members)

end CallOptions

/-- What a call carries. -/
inductive CallShape where
  | prompt
  | messages
deriving DecidableEq, Repr, Inhabited

/-- The name of a shape. -/
def CallShape.name : CallShape → String
  | .prompt => "prompt"
  | .messages => "messages"

/-- A call as it is sent. -/
structure BuiltCall where
  /-- What it carries. -/
  shape : CallShape
  /-- The JSON object that is sent. -/
  params : Json.Fields
deriving DecidableEq, Repr

namespace BuiltCall

/-- The model. -/
def model? (call : BuiltCall) : Option String :=
  (call.params.get? "model").bind Json.string?

/-- The output is to be delivered as it is generated. -/
def stream (call : BuiltCall) : Bool :=
  ((call.params.get? "stream").bind Json.boolean?).getD false

/-- The prompt. -/
def prompt? (call : BuiltCall) : Option String :=
  (call.params.get? "prompt").bind Json.string?

/-- The error for a completion with images. -/
def completionMedia : InferenceError :=
  .unsupportedMedia "fireworks does not support media for completion requests"

/-- The members that all calls of a request have. -/
def commonParams (request : GenerationRequest) (options : Json.Fields) : Json.Fields :=
  (Json.Fields.ofList [("model", .string request.model), ("stream", .boolean request.stream)]).union
    options

/-- The wish for log probabilities, if there is one. -/
def logProbsMember (request : GenerationRequest) : List (String × Json) :=
  match request.logProbs with
  | some config => if config.topK = 0 then [] else [("logprobs", .ofNat config.topK)]
  | none => []

/-- The call with a prompt; the provider adds the begin marker itself. -/
def ofPrompt (request : GenerationRequest) (family : ModelFamily) (options : Json.Fields)
    (prompt : String) : BuiltCall :=
  let input := ("prompt", Json.string (stripBeginMarker family prompt))
  ⟨.prompt, (commonParams request options).union (input :: logProbsMember request)⟩

/-- The call with messages. -/
def ofMessages (request : GenerationRequest) (options : Json.Fields) (messages : List Json) :
    BuiltCall :=
  ⟨.messages, (commonParams request options).insert "messages" (.array messages)⟩

/-- The rendered prompt of a request. -/
def renderPrompt (request : GenerationRequest) (family : ModelFamily) (today : CalendarDate) :
    Except InferenceError String :=
  match request with
  | .completion request => .ok (request.prompt family)
  | .chat request => request.prompt family today

/-- The refusal of a completion with images, and otherwise the options of a call. -/
def checkedOptions (request : GenerationRequest) : Except InferenceError Json.Fields :=
  match request with
  | .completion _ =>
    if request.hasMedia then .error completionMedia
    else CallOptions.build request.sampling request.responseFormat
  | .chat _ => CallOptions.build request.sampling request.responseFormat

/-- The input of a call with the given options. -/
def withOptions (request : GenerationRequest) (family : ModelFamily) (today : CalendarDate)
    (fetchRemote : Bool) (options : Json.Fields) : Session BuiltCall :=
  match request.hasMedia, request with
  | true, .chat chat => do
    let messages ← CallMessages.build fetchRemote chat.messages
    return ofMessages request options messages
  | _, _ =>
    Session.lift ((renderPrompt request family today).map (ofPrompt request family options))

/-- The call of a request. -/
def build (request : GenerationRequest) (family : ModelFamily) (today : CalendarDate)
    (fetchRemote : Bool) : Session BuiltCall := do
  let options ← Session.lift (checkedOptions request)
  withOptions request family today fetchRemote options

end BuiltCall

end LlamaGateway
