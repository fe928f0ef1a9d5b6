import LlamaGateway.Call.Building
import LlamaGateway.Network.Session
import LlamaGateway.Response.Stream

/-!
# Provider calls

How a built call is sent and what is made of the reply. A streamed prompt is sent when its first
chunk is asked for; streamed messages are sent at once, so that a refusal fails the call itself.
-/

namespace LlamaGateway

/-- The kind of request that a call was built for. -/
inductive RequestKind where
  | completion
  | chat
deriving DecidableEq, Repr, Inhabited

/-- A stream of chunks. -/
structure ChunkSource where
  /-- The chunks. -/
  chunks : RawStream
  /-- What is sent when the first chunk is asked for. -/
  deferred : List Exchange

/-- What a provider answers. -/
inductive ProviderOutput where
  | body (content : ProviderBody)
  | stream (source : ChunkSource)

/-- Where calls go and the key they carry. -/
structure ProviderClient where
  /-- The address of the provider. -/
  baseUrl : Url
  /-- The API key. -/
  apiKey : String

/-- The address for calls of a shape. -/
def Url.endpoint (base : Url) (shape : CallShape) : String :=
  let start := String.ofList (Text.trimEnd (· = '/') base.toText.toList)
  match shape with
  | .prompt => start ++ "/completions"
  | .messages => start ++ "/chat/completions"

namespace RawStream

/-- The text that ends a stream. -/
def doneMarker : List Char := "[DONE]".toList

/-- The chunk of an event, none for an event without data. -/
def chunk? (data : List Char) : Option (Except InferenceError ProviderBody) :=
  if data.isEmpty then none
  else
    match ProviderBody.parse? data with
    | some body => some (.ok body)
    | none => some (.error (.streaming "unparseable stream chunk: not a response"))

/-- The chunks of events, up to the marker of the end. White space around data does not count. -/
def ofEvents : List ServerEvents.Item → RawStream
  | [] => []
  | .error cause :: rest => .error (.streaming cause) :: ofEvents rest
  | .ok data :: rest =>
    let data := Text.trimBlank data
    if data = doneMarker then [] else (chunk? data).toList ++ ofEvents rest

end RawStream

namespace ProviderClient

/-- The text of a refused call's body, empty if it broke off. -/
def refusalText (reply : IncomingReply) : String :=
  if reply.complete then reply.text else ""

/-- The reply to a call, unless there is none or the provider refused the call. -/
def accepted : Except String IncomingReply → Except InferenceError IncomingReply
  | .error cause => .error (.upstream cause)
  | .ok reply =>
    if reply.status.isSuccess then .ok reply
    else
      .error (.upstream ("fireworks returned " ++ reply.status.text ++ ": " ++ refusalText reply))

/-- The key can stand in a header, and the address for calls of a shape can be requested. -/
def canSend (client : ProviderClient) (shape : CallShape) : Bool :=
  Header.isValue (Utf8.encode client.apiKey.toList) && client.baseUrl.isRequestable &&
    Url.isRequestText (client.baseUrl.withoutUser.endpoint shape)

/-- Post a call. A client that cannot send fails without a request. -/
def post {α : Type} (client : ProviderClient) (call : BuiltCall)
    (read : IncomingReply → Except InferenceError α) : Session α :=
  if client.canSend call.shape then
    Session.exchange (.post (client.baseUrl.endpoint call.shape) client.apiKey call.params)
      fun reply => (accepted reply).bind read
  else Session.lift (.error (.upstream "the request cannot be built"))

/-- The body of a reply. -/
def bodyOf (reply : IncomingReply) : Except InferenceError ProviderBody :=
  match reply.complete, ProviderBody.ofBytes? reply.body with
  | true, some body => .ok body
  | _, _ => .error (.upstream "failed to parse response: not a response")

/-- The chunks of a reply. -/
def chunksOf (reply : IncomingReply) : RawStream :=
  RawStream.ofEvents (ServerEvents.ofBody reply.body reply.complete)

/-- The body that answers a call. -/
def wholeBody (client : ProviderClient) (call : BuiltCall) : Session ProviderBody :=
  client.post call bodyOf

/-- The chunks that answer a call, which is sent at once. -/
def chunksNow (client : ProviderClient) (call : BuiltCall) : Session RawStream :=
  client.post call fun reply => .ok (chunksOf reply)

/-- The chunks that answer a call, which is sent when the first one is asked for. A failure to send
it takes the place of that chunk. -/
def chunksLater (client : ProviderClient) (call : BuiltCall) : Session ChunkSource :=
  fun network sent =>
    let opened := client.chunksNow call network sent
    match opened.result with
    | .ok chunks => ⟨.ok ⟨chunks, opened.exchanges⟩, []⟩
    | .error failure => ⟨.ok ⟨[.error failure], opened.exchanges⟩, []⟩

/-- A completion is always sent as a prompt. -/
def misshapen : InferenceError :=
  .internal "completion requests are always sent as a prompt"

/-- The answer to a streamed call. -/
def stream (client : ProviderClient) (call : BuiltCall) : Session ProviderOutput :=
  match call.shape with
  | .prompt => do
    let source ← client.chunksLater call
    return .stream source
  | .messages => do
    let chunks ← client.chunksNow call
    return .stream ⟨chunks, []⟩

/-- The answer to a call of a kind of request. -/
def answer (client : ProviderClient) (call : BuiltCall) (kind : RequestKind) :
    Session ProviderOutput :=
  if kind = .completion ∧ call.shape = .messages then Session.lift (.error misshapen)
  else if call.stream then client.stream call
  else do
    let body ← client.wholeBody call
    return .body body

end ProviderClient

end LlamaGateway
