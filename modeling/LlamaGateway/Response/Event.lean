import LlamaGateway.Conversation.Message

/-!
# Responses and stream events

What a caller receives when a call is not streamed, and while it is streamed.
-/

namespace LlamaGateway

open Json (Document)

/-- The candidates at one position with their log probabilities, in the provider's order. -/
structure TokenLogProbs where
  /-- A candidate token and its log probability. -/
  candidates : List (String × Floating)
deriving DecidableEq, Repr, Inhabited

namespace TokenLogProbs

def toJson (position : TokenLogProbs) : Json :=
  let members := position.candidates.map fun (token, value) => (token, Json.ofFloating value)
  .object [("logprobs_by_token", .object members)]

def ofDocument? (document : Document) : Option TokenLogProbs :=
  match document.record? ["logprobs_by_token"] with
  | some [candidates] =>
    (Document.required (Document.entries? Document.floating?) candidates).map .mk
  | _ => none

/-- The member with the log probabilities of a response, left out if there are none. -/
def listMember (positions : Option (List TokenLogProbs)) : List (String × Json) :=
  Json.optionalMember "logprobs" (positions.map fun positions => .array (positions.map toJson))

/-- The log probabilities of a response field. -/
def ofField? (field : Option Document) : Option (Option (List TokenLogProbs)) :=
  Document.optional (Document.items? ofDocument?) field

end TokenLogProbs

/-- The result of a completion. -/
structure CompletionResponse where
  /-- The generated text. -/
  content : String
  /-- Why generation stopped. -/
  stopReason : StopReason
  /-- The log probabilities, position by position. -/
  logProbs : Option (List TokenLogProbs)
deriving DecidableEq, Repr, Inhabited

namespace CompletionResponse

def toJson (response : CompletionResponse) : Json :=
  .object ([("content", .string response.content), ("stop_reason", response.stopReason.toJson)] ++
    TokenLogProbs.listMember response.logProbs)

def ofDocument? (document : Document) : Option CompletionResponse :=
  match document.record? ["content", "stop_reason", "logprobs"] with
  | some [content, stopReason, logProbs] => do
    let content ← Document.required Document.string? content
    let stopReason ← Document.required StopReason.ofDocument? stopReason
    let logProbs ← TokenLogProbs.ofField? logProbs
    return ⟨content, stopReason, logProbs⟩
  | _ => none

end CompletionResponse

/-- The result of a chat. -/
structure ChatResponse where
  /-- The turn of the model. -/
  message : AssistantMessage
  /-- The log probabilities, position by position. -/
  logProbs : Option (List TokenLogProbs)
deriving DecidableEq, Repr, Inhabited

namespace ChatResponse

def toJson (response : ChatResponse) : Json :=
  .object (("completion_message", response.message.toJson) ::
    TokenLogProbs.listMember response.logProbs)

def ofDocument? (document : Document) : Option ChatResponse :=
  match document.record? ["completion_message", "logprobs"] with
  | some [message, logProbs] => do
    let message ← Document.required (AssistantMessage.ofDocument? false) message
    let logProbs ← TokenLogProbs.ofField? logProbs
    return ⟨message, logProbs⟩
  | _ => none

end ChatResponse

/-- The vectors of an embedding, one an input. -/
structure EmbeddingsResponse where
  /-- The vectors, of single width. -/
  vectors : List (List Floating)
deriving DecidableEq, Repr, Inhabited

namespace EmbeddingsResponse

def toJson (response : EmbeddingsResponse) : Json :=
  .object [("embeddings",
    .array (response.vectors.map fun vector => .array (vector.map Json.ofSingle)))]

def ofDocument? (document : Document) : Option EmbeddingsResponse :=
  match document.record? ["embeddings"] with
  | some [vectors] =>
    (Document.required (Document.items? (Document.items? Document.single?)) vectors).map .mk
  | _ => none

end EmbeddingsResponse

/-- A piece of a streamed completion. -/
structure CompletionChunk where
  /-- The text of the piece. -/
  delta : String
  /-- Why generation stopped, as far as it is known. -/
  stopReason : Option StopReason
  /-- The log probabilities of the piece. -/
  logProbs : Option (List TokenLogProbs)
deriving DecidableEq, Repr, Inhabited

/-- The member with a stop reason, left out if there is none. -/
def StopReason.member (reason : Option StopReason) : List (String × Json) :=
  Json.optionalMember "stop_reason" (reason.map StopReason.toJson)

namespace CompletionChunk

def toJson (chunk : CompletionChunk) : Json :=
  .object (("delta", .string chunk.delta) :: StopReason.member chunk.stopReason ++
    TokenLogProbs.listMember chunk.logProbs)

def ofDocument? (document : Document) : Option CompletionChunk :=
  match document.record? ["delta", "stop_reason", "logprobs"] with
  | some [delta, stopReason, logProbs] => do
    let delta ← Document.required Document.string? delta
    let stopReason ← Document.optional StopReason.ofDocument? stopReason
    let logProbs ← TokenLogProbs.ofField? logProbs
    return ⟨delta, stopReason, logProbs⟩
  | _ => none

end CompletionChunk

/-- How far a tool call is read. -/
inductive ToolCallStatus where
  | started
  | inProgress
  | failure
  | success
deriving DecidableEq, Repr, Inhabited

namespace ToolCallStatus

def name : ToolCallStatus → String
  | .started => "started"
  | .inProgress => "in_progress"
  | .failure => "failure"
  | .success => "success"

def ofName? (name : String) : Option ToolCallStatus :=
  match name with
  | "started" => some .started
  | "in_progress" => some .inProgress
  | "failure" => some .failure
  | "success" => some .success
  | _ => none

def toJson (status : ToolCallStatus) : Json :=
  .string status.name

def ofDocument? : Document → Option ToolCallStatus :=
  Document.choice? Document.isNull ofName?

end ToolCallStatus

/-- The raw text of a tool call, or the call. -/
inductive ToolCallContent where
  | raw (text : String)
  | call (call : ToolCall)
deriving DecidableEq, Repr, Inhabited

namespace ToolCallContent

def toJson : ToolCallContent → Json
  | .raw text => .string text
  | .call found => found.toJson

def ofDocument? (document : Document) : Option ToolCallContent :=
  if document.readable then
    match document with
    | .string text => some (.raw text)
    | _ => (ToolCall.ofDocument? document).map .call
  else none

end ToolCallContent

/-- A step of a tool call. -/
structure ToolCallDelta where
  /-- The text of the step, or the call. -/
  content : ToolCallContent
  /-- How far the call is read. -/
  status : ToolCallStatus
deriving DecidableEq, Repr, Inhabited

namespace ToolCallDelta

def toJson (delta : ToolCallDelta) : Json :=
  .object [("content", delta.content.toJson), ("parse_status", delta.status.toJson)]

def ofDocument? (document : Document) : Option ToolCallDelta :=
  match document.record? ["content", "parse_status"] with
  | some [content, status] => do
    let content ← Document.required ToolCallContent.ofDocument? content
    let status ← Document.required ToolCallStatus.ofDocument? status
    return ⟨content, status⟩
  | _ => none

end ToolCallDelta

/-- The phase of a streamed chat. -/
inductive ChatPhase where
  | start
  | progress
  | complete
deriving DecidableEq, Repr, Inhabited

namespace ChatPhase

def name : ChatPhase → String
  | .start => "start"
  | .progress => "progress"
  | .complete => "complete"

def ofName? (name : String) : Option ChatPhase :=
  match name with
  | "start" => some .start
  | "progress" => some .progress
  | "complete" => some .complete
  | _ => none

def toJson (phase : ChatPhase) : Json :=
  .string phase.name

def ofDocument? : Document → Option ChatPhase :=
  Document.choice? Document.isNull ofName?

end ChatPhase

/-- What an event carries: text, or a step of a tool call. -/
inductive EventDelta where
  /-- Text. -/
  | text (words : String)
  /-- A step of a tool call. -/
  | toolCall (step : ToolCallDelta)
deriving DecidableEq, Repr, Inhabited

namespace EventDelta

def toJson : EventDelta → Json
  | .text words => .string words
  | .toolCall step => step.toJson

/-- What the event of a JSON document carries. -/
def ofDocument? (document : Document) : Option EventDelta :=
  if document.readable then
    match document with
    | .string words => some (.text words)
    | _ => (ToolCallDelta.ofDocument? document).map .toolCall
  else none

end EventDelta

/-- An event of a streamed chat. -/
structure ChatEvent where
  /-- The phase. -/
  phase : ChatPhase
  /-- What it carries. -/
  delta : EventDelta
  /-- Why generation stopped, as far as it is known. -/
  stopReason : Option StopReason
  /-- The log probabilities of the piece. -/
  logProbs : Option (List TokenLogProbs)
deriving DecidableEq, Repr, Inhabited

namespace ChatEvent

/-- An event with text. -/
def text (phase : ChatPhase) (words : String) (stopReason : Option StopReason) : ChatEvent :=
  ⟨phase, .text words, stopReason, none⟩

/-- An event with a step of a tool call. -/
def toolStep (status : ToolCallStatus) (content : ToolCallContent)
    (stopReason : Option StopReason) : ChatEvent :=
  ⟨.progress, .toolCall ⟨content, status⟩, stopReason, none⟩

def toJson (event : ChatEvent) : Json :=
  .object ([("event_type", event.phase.toJson), ("delta", event.delta.toJson)] ++
    StopReason.member event.stopReason ++ TokenLogProbs.listMember event.logProbs)

def ofDocument? (document : Document) : Option ChatEvent :=
  match document.record? ["event_type", "delta", "stop_reason", "logprobs"] with
  | some [phase, delta, stopReason, logProbs] => do
    let phase ← Document.required ChatPhase.ofDocument? phase
    let delta ← Document.required EventDelta.ofDocument? delta
    let stopReason ← Document.optional StopReason.ofDocument? stopReason
    let logProbs ← TokenLogProbs.ofField? logProbs
    return ⟨phase, delta, stopReason, logProbs⟩
  | _ => none

end ChatEvent

/-- A chunk of a streamed chat, which holds one event. -/
structure ChatChunk where
  /-- The event. -/
  event : ChatEvent
deriving DecidableEq, Repr, Inhabited

namespace ChatChunk

def toJson (chunk : ChatChunk) : Json :=
  .object [("event", chunk.event.toJson)]

def ofDocument? (document : Document) : Option ChatChunk :=
  match document.record? ["event"] with
  | some [event] => (Document.required ChatEvent.ofDocument? event).map .mk
  | _ => none

end ChatChunk

end LlamaGateway
