import LlamaGateway.CommandLine.Arguments
import LlamaGateway.Config.Load
import LlamaGateway.Gateway

/-!
# Running a command

A command prints the generated text and then the tool calls, or fails with an error text. The exit
status tells whether the request itself was wrong.
-/

namespace LlamaGateway

namespace CommandLine

/-- Why a run failed. -/
inductive Failure where
  | refused (refusal : Refusal)
  | config (error : ConfigError)
  | call (error : InferenceError)
deriving DecidableEq, Repr

/-- The exit status of a failed run. -/
def Failure.status : Failure → Nat
  | .refused .help => 0
  | .refused _ => 2
  | .config _ => 1
  | .call error => if error.isCallerError then 2 else 1

/-- The outcome of a run. -/
structure Outcome where
  /-- What was printed. -/
  output : String
  /-- Why the run failed, if it did. -/
  failure : Option Failure
  /-- What was sent, in order. -/
  exchanges : List Exchange

/-- The exit status of a run. -/
def Outcome.status (outcome : Outcome) : Nat :=
  match outcome.failure with
  | some failure => failure.status
  | none => 0

/-- The text of a call, a JSON object. -/
def callText (call : ToolCall) : String :=
  call.toJson.render

/-- What a whole completion prints. -/
def completionText (response : CompletionResponse) : String :=
  response.content ++ "\n"

/-- What a whole chat prints. -/
def chatText (response : ChatResponse) : String :=
  response.message.content.plainText ++ "\n" ++
    String.join (response.message.toolCalls.map fun call => callText call ++ "\n")

/-- What an event of a streamed chat prints. -/
def eventText (chunk : ChatChunk) : String :=
  match chunk.event.delta with
  | .text words => words
  | .toolCall step =>
    match step.content with
    | .raw text => text
    | .call call => "\n" ++ callText call ++ "\n"

/-- What a stream prints up to its first error, and that error. -/
def streamText {α : Type} (print : α → String) : EventStream α → String × Option InferenceError
  | [] => ("\n", none)
  | .error failure :: _ => ("", some failure)
  | .ok event :: rest =>
    let (text, failure) := streamText print rest
    (print event ++ text, failure)

/-- What a call prints, and its error. -/
def printed {α β : Type} (printResponse : α → String) (printEvent : β → String) :
    Except InferenceError (Generated α β) → String × Option InferenceError
  | .error failure => ("", some failure)
  | .ok (.response value) => (printResponse value, none)
  | .ok (.stream delivery) => streamText printEvent delivery.events

/-- What reading all events of a call sends. -/
def deferredExchanges {α β : Type} : Except InferenceError (Generated α β) → List Exchange
  | .ok (.stream delivery) => delivery.deferred
  | _ => []

/-- Where the user breaks off a stream that is being printed. -/
structure Interruption where
  /-- The number of events that are printed. -/
  printed : Nat
  /-- The next event is being waited for. -/
  waiting : Bool
deriving DecidableEq, Repr

/-- What is left of a delivery that is broken off. -/
def Interruption.cut {α : Type} (interruption : Interruption) (delivery : Delivery α) :
    Delivery α :=
  { delivery with
    events := delivery.events.take interruption.printed
    deferred := delivery.exchangesAfter (interruption.printed + interruption.waiting.toNat) }

/-- The outcome of a call up to an interruption. Only a stream can be interrupted, and an
interrupted one ends as if that had been all of it. -/
def upTo {α β : Type} (interruption? : Option Interruption) (traced : Traced (Generated α β)) :
    Traced (Generated α β) :=
  match interruption?, traced.result with
  | some interruption, .ok (.stream delivery) =>
    ⟨.ok (.stream (interruption.cut delivery)), traced.exchanges⟩
  | _, _ => traced

/-- The outcome of a call. -/
def outcomeOf {α β : Type} (printResponse : α → String) (printEvent : β → String)
    (traced : Traced (Generated α β)) : Outcome :=
  let (output, failure) := printed printResponse printEvent traced.result
  ⟨output, failure.map .call, traced.exchanges ++ deferredExchanges traced.result⟩

/-- A message of the user, with images after its text. -/
def userMessage (text : String) (images : List String) : Message :=
  if images.isEmpty then .userText text
  else .user (.parts (.text text :: images.map fun address => .image (.url address))) none

/-- The context of a command: the caller's key as provider data. -/
def callerContext (apiKey : Option String) : CallContext :=
  match apiKey with
  | some key => CallContext.empty.withData [(CallerData.apiKeyMember, .string key)]
  | none => CallContext.empty

/-- The request of a completion. -/
def completionRequest (prompt : String) (options : GenerationOptions) : CompletionRequest :=
  { CompletionRequest.ofText "" prompt with
    sampling := options.sampling, stream := options.stream }

/-- The request of a chat. -/
def chatRequest (message : String) (system : Option String) (images : List String)
    (options : GenerationOptions) : ChatRequest :=
  let messages := (system.map Message.systemText).toList ++ [userMessage message images]
  { ChatRequest.ofMessages "" messages with
    sampling := options.sampling, stream := options.stream }

/-- The outcome of a command. -/
def runCommand (gateway : Gateway) (context : CallContext) (network : Network)
    (interruption? : Option Interruption) : Command → Outcome
  | .complete model prompt options =>
    outcomeOf completionText CompletionChunk.delta
      (upTo interruption?
        (gateway.complete (some context) model (completionRequest prompt options) network 0))
  | .chat model message system images options =>
    outcomeOf chatText eventText
      (upTo interruption?
        (gateway.chatComplete (some context) model (chatRequest message system images options)
          network 0))

/-- What a run depends on. -/
structure World where
  /-- The environment variables. -/
  environment : Environment
  /-- The contents of a file, if it can be read. -/
  file? : String → Option String
  /-- The network. -/
  network : Network
  /-- The date. -/
  today : CalendarDate
  /-- The identifier of a tool call that is found in a reply. -/
  callId : String

/-- The bytes of an environment variable. -/
def World.setting? (world : World) (name : String) : Option (List UInt8) :=
  world.environment.bindings.lookup name

/-- What may come in the way of a run. -/
structure Circumstances where
  /-- Why an HTTP client cannot be built. -/
  clientFault? : ClientUse → Option String
  /-- Where the user breaks off a stream. -/
  interruption? : Option Interruption
  /-- The contents of a file whose path is no text, if it can be read. -/
  fileAt? : List UInt8 → Option String

/-- Nothing comes in the way. -/
def Circumstances.usual : Circumstances := ⟨fun _ => none, none, fun _ => none⟩

namespace Circumstances

/-- The contents of the file at a path, if it can be read. -/
def contents? (circumstances : Circumstances) (world : World) (path : List UInt8) :
    Option String :=
  match textOf? path with
  | some text => world.file? text
  | none => circumstances.fileAt? path

/-- What errors show of a path that is no text. -/
def pathText (path : List UInt8) : String :=
  String.ofList (Utf8.decodeLenient ['\uFFFD'] path)

/-- The configuration of an invocation. -/
def loadConfig (circumstances : Circumstances) (world : World) :
    Option (List UInt8) → Except ConfigError Config
  | some path =>
    Config.load world.environment (pathText path) (circumstances.contents? world path)
  | none => .ok .default

/-- The gateway for a configuration. -/
def gateway (circumstances : Circumstances) (world : World) (config : Config) : Gateway :=
  (Gateway.ofConfig config.provider world.today world.callId).withClientFaults
    circumstances.clientFault?

end Circumstances

/-- The outcome of a list of arguments. -/
def runIn (circumstances : Circumstances) (world : World) (arguments : List String) : Outcome :=
  match invocation world.setting? arguments with
  | .error refusal => ⟨"", some (.refused refusal), []⟩
  | .ok invocation =>
    match circumstances.loadConfig world invocation.configPath with
    | .error fault => ⟨"", some (.config fault), []⟩
    | .ok config =>
      runCommand (circumstances.gateway world config) (callerContext invocation.apiKey)
        world.network circumstances.interruption? invocation.command

/-- The outcome of a list of arguments when nothing comes in the way. -/
def run (world : World) (arguments : List String) : Outcome :=
  runIn .usual world arguments

end CommandLine

end LlamaGateway
