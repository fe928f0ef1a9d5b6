import LlamaGateway.Config.Load
import LlamaGateway.Context.Scope
import LlamaGateway.Provider.Client

/-!
# The gateway

A call goes through six stages: the model is looked up, the request is built, the API key is
chosen, a client is built, the call is sent, and the provider's answer is brought into the caller's
form. The first failure ends the call.
-/

namespace LlamaGateway

/-- What an HTTP client is needed for. -/
inductive ClientUse where
  /-- To fetch images. -/
  | fetching
  /-- To call the provider. -/
  | calling
deriving DecidableEq, Repr

/-- The error for a client that cannot be built. -/
def ClientUse.failure (cause : String) : ClientUse → InferenceError
  | .fetching => .internal ("failed to build download client: " ++ cause)
  | .calling => .internal ("failed to build HTTP client: " ++ cause)

/-- Events for a caller, and what asking for them sends. -/
structure Delivery (α : Type) where
  /-- The events. -/
  events : EventStream α
  /-- The number of events that are there before the first chunk is asked for. -/
  ready : Nat
  /-- What is sent when the first chunk is asked for. -/
  deferred : List Exchange

namespace Delivery

/-- What is sent while a number of events is asked for. -/
def exchangesAfter {α : Type} (delivery : Delivery α) (asked : Nat) : List Exchange :=
  if delivery.ready < asked then delivery.deferred else []

end Delivery

/-- The outcome of a call. -/
inductive Generated (α β : Type) where
  | response (value : α)
  | stream (delivery : Delivery β)

/-- A stream as diagnostics show it. -/
def Generated.streamText : String := "Stream(..)"

/-- Looks up a model identifier. -/
abbrev ModelLookup := String → Except InferenceError ModelTarget

/-- A gateway to the provider. -/
structure Gateway where
  /-- Its settings. -/
  config : ProviderConfig
  /-- How it looks up models. -/
  findModel : ModelLookup
  /-- The date that prompts show. -/
  today : CalendarDate
  /-- The identifier of a tool call that is found in a reply. -/
  callId : String
  /-- Why a client cannot be built. -/
  clientFault? : ClientUse → Option String

namespace Gateway

/-- The gateway for settings: its models are the hosted ones and the configured aliases, and it can
build its clients. -/
def ofConfig (config : ProviderConfig) (today : CalendarDate) (callId : String) : Gateway :=
  ⟨config, (AliasTable.hostedWith config.models).target, today, callId, fun _ => none⟩

/-- The gateway with another way to look up models. -/
def withLookup (gateway : Gateway) (findModel : ModelLookup) : Gateway :=
  { gateway with findModel := findModel }

/-- The gateway with other faults of its clients. -/
def withClientFaults (gateway : Gateway) (clientFault? : ClientUse → Option String) : Gateway :=
  { gateway with clientFault? := clientFault? }

/-- The gateway as diagnostics show it. -/
def diagnosticText (gateway : Gateway) : String :=
  "FireworksInferenceAdapter \x7b base_url: " ++
    Text.diagnosticQuote gateway.config.baseUrl.toText ++ ", timeout: " ++
    gateway.config.timeout.diagnosticText ++ ", .. \x7d"

/-- The kind of a request. -/
def kindOf : GenerationRequest → RequestKind
  | .completion _ => .completion
  | .chat _ => .chat

/-- A client is built, or the call fails. -/
def client (gateway : Gateway) (use : ClientUse) : Except InferenceError Unit :=
  match gateway.clientFault? use with
  | some cause => .error (use.failure cause)
  | none => .ok ()

/-- Building the call of a request takes a client: images of a chat are to be fetched. -/
def fetches (gateway : Gateway) (request : GenerationRequest) : Bool :=
  gateway.config.downloadImages && request.hasMedia && kindOf request = .chat

/-- The call of a request. A client that fetches images is built behind the options. -/
def build (gateway : Gateway) (request : GenerationRequest) (family : ModelFamily) :
    Session BuiltCall := do
  let options ← Session.lift (BuiltCall.checkedOptions request)
  let () ← Session.lift (if gateway.fetches request then gateway.client .fetching else .ok ())
  BuiltCall.withOptions request family gateway.today gateway.config.downloadImages options

/-- The provider's answer to a request for a model that is looked up. -/
def send (gateway : Gateway) (ambient : Option CallContext) (request : GenerationRequest)
    (family : ModelFamily) : Session ProviderOutput := do
  let call ← gateway.build request family
  let apiKey ← Session.lift (Credential.resolve gateway.config.apiKey ambient)
  let () ← Session.lift (gateway.client .calling)
  ProviderClient.answer ⟨gateway.config.baseUrl, apiKey⟩ call (kindOf request)

/-- The caller's form of an answer, from the forms of a body and of chunks. -/
def present {α β : Type} (ofBody : ProviderBody → Except InferenceError α)
    (ofChunks : RawStream → EventStream β) (ready : Nat) :
    ProviderOutput → Except InferenceError (Generated α β)
  | .body content => (ofBody content).map .response
  | .stream source => .ok (.stream ⟨ofChunks source.chunks, ready, source.deferred⟩)

/-- Complete raw content. -/
def complete (gateway : Gateway) (ambient : Option CallContext) (model : String)
    (request : CompletionRequest) : Session (Generated CompletionResponse CompletionChunk) := do
  let target ← Session.lift (gateway.findModel model)
  let request := GenerationRequest.completion { request with model := target.resource }
  let output ← gateway.send ambient request target.family
  Session.lift (present CompletionResponse.ofBody CompletionStream.events 0 output)

/-- Continue a conversation. The start of a streamed answer is there before anything is sent. -/
def chatComplete (gateway : Gateway) (ambient : Option CallContext) (model : String)
    (request : ChatRequest) : Session (Generated ChatResponse ChatChunk) := do
  let target ← Session.lift (gateway.findModel model)
  let request := GenerationRequest.chat { request with model := target.resource }
  let output ← gateway.send ambient request target.family
  Session.lift (present (ChatResponse.ofBody gateway.callId) (ChatStream.events gateway.callId) 1
    output)

/-- Embed contents, which the provider does not offer. -/
def embeddings (_ : Gateway) (_ : String) (_ : List Content) :
    Except InferenceError EmbeddingsResponse :=
  .error (.notSupported "embeddings")

end Gateway

end LlamaGateway
