import LlamaGateway.Conversation.Message
import LlamaGateway.Json.Reader

/-!
# Generation requests

A request completes raw content or continues a conversation. Its `model` is an alias until the
alias table has resolved it, and then the provider's resource identifier. It may say how the next
token is chosen, how long a text may become, which log probabilities are reported, and what the
output has to look like.
-/

namespace LlamaGateway

open Json (Document)

/-- A constraint on the output. -/
inductive ResponseFormat where
  /-- JSON that fits a schema. -/
  | jsonSchema (schema : Json)
  /-- Text that a grammar derives. -/
  | grammar (rules : Json)
  /-- A format with an unknown tag. -/
  | unsupported (tag : String)
deriving DecidableEq, Repr, Inhabited

namespace ResponseFormat

/-- The tag of a format. -/
def tag : ResponseFormat → String
  | .jsonSchema _ => "json_schema"
  | .grammar _ => "grammar"
  | .unsupported tag => tag

def toJson : ResponseFormat → Json
  | .jsonSchema schema => .object [("type", .string "json_schema"), ("json_schema", schema)]
  | .grammar rules => .object [("type", .string "grammar"), ("bnf", rules)]
  | .unsupported tag => .object [("type", .string tag)]

/-- The format of a free-form object. -/
def ofFields? (fields : Json.Fields) : Option ResponseFormat :=
  match fields.get? "type" with
  | some (.string tag) =>
    if tag = "json_schema" then (fields.get? "json_schema").map .jsonSchema
    else if tag = "grammar" then (fields.get? "bnf").map .grammar
    else some (.unsupported tag)
  | _ => none

def ofDocument? (document : Json.Document) : Option ResponseFormat :=
  document.fields?.bind ofFields?

end ResponseFormat

/-- How the next token is chosen. -/
inductive SamplingStrategy where
  /-- The likeliest token. -/
  | greedy
  /-- Among the tokens that make up a share of the probability. -/
  | topP
  /-- Among the likeliest few tokens. -/
  | topK
deriving DecidableEq, Repr, Inhabited

namespace SamplingStrategy

def name : SamplingStrategy → String
  | .greedy => "greedy"
  | .topP => "top_p"
  | .topK => "top_k"

def ofName? (name : String) : Option SamplingStrategy :=
  match name with
  | "greedy" => some .greedy
  | "top_p" => some .topP
  | "top_k" => some .topK
  | _ => none

def toJson (strategy : SamplingStrategy) : Json :=
  .string strategy.name

def ofDocument? : Document → Option SamplingStrategy :=
  Document.choice? Document.isNull ofName?

end SamplingStrategy

/-- Sampling parameters; an absent one is left to the provider. -/
structure SamplingParams where
  /-- How the next token is chosen. -/
  strategy : SamplingStrategy
  /-- The temperature. -/
  temperature : Option Floating
  /-- The share of the probability that counts. -/
  topP : Option Floating
  /-- The number of tokens that count. -/
  topK : Option Nat
  /-- The longest text, in tokens. -/
  maxTokens : Option Nat
  /-- The penalty for repetition; one is neutral. -/
  repetitionPenalty : Floating
deriving DecidableEq, Repr

namespace SamplingParams

/-- Greedy choice, a neutral penalty and nothing else. -/
def default : SamplingParams :=
  ⟨.greedy, none, none, none, none, Floating.Format.double.ofInt 1⟩

instance : Inhabited SamplingParams := ⟨default⟩

/-- A value, or `null` if there is none. -/
def orNull {α : Type} (write : α → Json) : Option α → Json
  | some value => write value
  | none => .null

def toJson (params : SamplingParams) : Json :=
  .object [("strategy", params.strategy.toJson),
    ("temperature", orNull Json.ofFloating params.temperature),
    ("top_p", orNull Json.ofFloating params.topP),
    ("top_k", orNull Json.ofNat params.topK),
    ("max_tokens", orNull Json.ofNat params.maxTokens),
    ("repetition_penalty", Json.ofFloating params.repetitionPenalty)]

/-- The names of the fields, in order. -/
def fieldNames : List String :=
  ["strategy", "temperature", "top_p", "top_k", "max_tokens", "repetition_penalty"]

def ofDocument? (document : Document) : Option SamplingParams :=
  match document.record? fieldNames with
  | some [strategy, temperature, topP, topK, maxTokens, repetitionPenalty] => do
    let word := Document.natural? Document.word32Max
    let strategy ← Document.withDefault .greedy SamplingStrategy.ofDocument? strategy
    let temperature ← Document.optional Document.floating? temperature
    let topP ← Document.optional Document.floating? topP
    let topK ← Document.optional word topK
    let maxTokens ← Document.optional word maxTokens
    let penalty ←
      Document.withDefault default.repetitionPenalty Document.floating? repetitionPenalty
    return ⟨strategy, temperature, topP, topK, maxTokens, penalty⟩
  | _ => none

end SamplingParams

/-- A wish for log probabilities. -/
structure LogProbConfig where
  /-- The number of candidates to report at each position; zero asks for none. -/
  topK : Nat
deriving DecidableEq, Repr, Inhabited

namespace LogProbConfig

def toJson (config : LogProbConfig) : Json :=
  .object [("top_k", .ofNat config.topK)]

def ofDocument? (document : Document) : Option LogProbConfig :=
  match document.record? ["top_k"] with
  | some [topK] => (Document.withDefault 0 (Document.natural? Document.word32Max) topK).map .mk
  | _ => none

end LogProbConfig

/-- A request to complete raw content. -/
structure CompletionRequest where
  /-- The model. -/
  model : String
  /-- The content to complete. -/
  content : Content
  /-- How to sample. -/
  sampling : SamplingParams
  /-- What the output has to look like. -/
  responseFormat : Option ResponseFormat
  /-- Deliver the output as it is generated. -/
  stream : Bool
  /-- Which log probabilities to report. -/
  logProbs : Option LogProbConfig
deriving DecidableEq, Repr, Inhabited

/-- A request to continue a conversation. -/
structure ChatRequest where
  /-- The model. -/
  model : String
  /-- The conversation so far. -/
  messages : List Message
  /-- How to sample. -/
  sampling : SamplingParams
  /-- The tools that the model may call. -/
  tools : List ToolDefinition
  /-- Whether it may or must call one. -/
  toolChoice : ToolChoice
  /-- How tools and calls are written into the prompt. -/
  toolPromptFormat : ToolPromptFormat
  /-- What the output has to look like. -/
  responseFormat : Option ResponseFormat
  /-- Deliver the output as it is generated. -/
  stream : Bool
  /-- Which log probabilities to report. -/
  logProbs : Option LogProbConfig
deriving DecidableEq, Repr, Inhabited

/-- A request of either kind. -/
inductive GenerationRequest where
  | completion (request : CompletionRequest)
  | chat (request : ChatRequest)
deriving DecidableEq, Repr, Inhabited

namespace CompletionRequest

/-- A request for plain text with default settings. -/
def ofText (model text : String) : CompletionRequest :=
  ⟨model, .text text, .default, none, false, none⟩

end CompletionRequest

namespace ChatRequest

/-- A request for a conversation with default settings. -/
def ofMessages (model : String) (messages : List Message) : ChatRequest :=
  ⟨model, messages, .default, [], .auto, .json, none, false, none⟩

/-- The tools that are functions of the caller, in order. -/
def customTools (request : ChatRequest) : List ToolDefinition :=
  request.tools.filter fun tool => tool.name.isCustom

/-- The builtin tools, in order. -/
def builtinTools (request : ChatRequest) : List BuiltinTool :=
  request.tools.filterMap fun tool => tool.name.builtin?

end ChatRequest

namespace GenerationRequest

/-- The model. -/
def model : GenerationRequest → String
  | .completion request => request.model
  | .chat request => request.model

/-- Deliver the output as it is generated. -/
def stream : GenerationRequest → Bool
  | .completion request => request.stream
  | .chat request => request.stream

/-- How to sample. -/
def sampling : GenerationRequest → SamplingParams
  | .completion request => request.sampling
  | .chat request => request.sampling

/-- What the output has to look like. -/
def responseFormat : GenerationRequest → Option ResponseFormat
  | .completion request => request.responseFormat
  | .chat request => request.responseFormat

/-- Which log probabilities to report. -/
def logProbs : GenerationRequest → Option LogProbConfig
  | .completion request => request.logProbs
  | .chat request => request.logProbs

/-- Some content of the request holds an image. -/
def hasMedia : GenerationRequest → Bool
  | .completion request => request.content.hasMedia
  | .chat request => request.messages.any Message.hasMedia

end GenerationRequest

end LlamaGateway
