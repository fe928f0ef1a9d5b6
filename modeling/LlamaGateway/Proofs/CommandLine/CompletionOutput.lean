import LlamaGateway.CommandLine.Run
import LlamaGateway.Proofs.Gateway.Course
import LlamaGateway.Proofs.Response.CompletionAgreement

/-!
# Output of completions

A completion prints the same whether it is streamed or not, wherever the provider cuts its text: the
events of the stream say the content of the response, and both end with a line break.
-/

namespace LlamaGateway

open Gateway (Presentation Ready)

/-- Every call is accepted, and its reply is of a kind. -/
def Network.Answers (network : Network) (kind : IncomingReply → Prop) : Prop :=
  ∀ sent request, request.isPost = true →
    ∃ reply, network sent request = .ok reply ∧ reply.status.isSuccess = true ∧ kind reply

namespace Gateway.Ready

variable {setting : Gateway.Setting} (ready : Ready setting) {kind : IncomingReply → Prop}

theorem opened_of_answers (answers : setting.network.Answers kind)
    (sends : ready.client.canSend ready.call.shape = true) :
    ∃ reply, ready.opened = .ok reply ∧ kind reply := by
  obtain ⟨reply, came, isSuccess, isKind⟩ := answers
    (setting.sent + ready.fetched.length) (ready.client.posting ready.call) rfl
  refine ⟨reply, ?_, isKind⟩
  rw [opened, ProviderClient.opened, if_pos sends, came, ProviderClient.accepted, if_pos isSuccess]

theorem opened_of_not_canSend (blocked : ready.client.canSend ready.call.shape = false) :
    ready.opened = .error (.upstream "the request cannot be built") :=
  if_neg (Bool.eq_false_iff.1 blocked)

end Gateway.Ready

namespace CommandLine

/-- A completion as the command line asks for it. -/
structure AskedCompletion where
  /-- The path of the configuration file, in bytes. -/
  configPath : Option (List UInt8)
  /-- The caller's API key. -/
  apiKey : Option String
  /-- The model. -/
  model : String
  /-- The text to complete. -/
  prompt : String
  /-- The longest text, in tokens. -/
  maxTokens : Option Nat
  /-- The temperature. -/
  temperature : Option Floating

namespace AskedCompletion

/-- The invocation, streamed or not. -/
def invocation (asked : AskedCompletion) (stream : Bool) : Invocation :=
  ⟨asked.configPath, asked.apiKey,
    .complete asked.model asked.prompt ⟨stream, asked.maxTokens, asked.temperature⟩⟩

/-- The call of the command. -/
def setting (asked : AskedCompletion) (gateway : Gateway) (context : CallContext)
    (network : Network) (stream : Bool) : Gateway.Setting :=
  gateway.completing (some context) asked.model network 0
    (completionRequest asked.prompt ⟨stream, asked.maxTokens, asked.temperature⟩)

variable (asked : AskedCompletion) (gateway : Gateway) (context : CallContext) (network : Network)
  (stream : Bool)

/-- A completion fetches nothing. -/
theorem fetchable (target : ModelTarget) :
    (asked.setting gateway context network stream).Fetchable target := by
  intro fetches
  simp [Gateway.fetches, setting, Gateway.completing, Gateway.kindOf] at fetches

/-- A text is always built into a call with a prompt. -/
theorem exists_built (target : ModelTarget) : ∃ call,
    ((asked.setting gateway context network stream).building target).result = .ok call ∧
      call.shape = .prompt :=
  ⟨_, rfl, rfl⟩

/-- What the command prints, and its error. -/
def printed (asked : AskedCompletion) (gateway : Gateway) (context : CallContext)
    (network : Network) (stream : Bool) : String × Option InferenceError :=
  CommandLine.printed completionText CompletionChunk.delta
    ((asked.setting gateway context network stream).outcome .completion).result

variable {gateway context network stream}

theorem printed_of_unknown {failure : InferenceError}
    (unknown : gateway.findModel asked.model = .error failure) :
    asked.printed gateway context network stream = ("", some failure) := by
  rw [printed, Gateway.outcome_of_unknown (asked.setting ..) .completion unknown]
  rfl

theorem printed_of_unresolved {target : ModelTarget} {failure : InferenceError}
    (found : gateway.findModel asked.model = .ok target)
    (unresolved : Credential.resolve gateway.config.apiKey (some context) = .error failure) :
    asked.printed gateway context network stream = ("", some failure) := by
  obtain ⟨call, built, -⟩ := asked.exists_built gateway context network stream target
  rw [← Gateway.Setting.prepared_of_fetchable (asked.fetchable _ _ _ _ target)] at built
  rw [printed, Gateway.outcome_of_unresolved (asked.setting ..) .completion found built unresolved]
  rfl

theorem printed_of_not_callable {target : ModelTarget} {apiKey cause : String}
    (found : gateway.findModel asked.model = .ok target)
    (resolved : Credential.resolve gateway.config.apiKey (some context) = .ok apiKey)
    (fault : gateway.clientFault? .calling = some cause) :
    asked.printed gateway context network stream =
      ("", some (ClientUse.calling.failure cause)) := by
  obtain ⟨call, built, -⟩ := asked.exists_built gateway context network stream target
  rw [← Gateway.Setting.prepared_of_fetchable (asked.fetchable _ _ _ _ target)] at built
  rw [printed, Gateway.outcome_of_not_callable (asked.setting ..) .completion found built resolved
    fault]
  rfl

/-- A completion is no chat, so it is posted when its first chunk is asked for. -/
theorem printed_streamed (ready : Ready (asked.setting gateway context network true)) :
    asked.printed gateway context network true =
      streamText CompletionChunk.delta (CompletionStream.events ready.openedChunks) := by
  have noImage : ¬ ready.request.IsImageChat := by
    rintro ⟨⟨chat, isChat⟩, -⟩
    cases isChat
  rw [printed, Gateway.outcome_of_later .completion ready rfl noImage]
  rfl

theorem printed_whole (ready : Ready (asked.setting gateway context network false)) :
    asked.printed gateway context network false =
      CommandLine.printed completionText CompletionChunk.delta
        (((ready.opened.bind ProviderClient.bodyOf).bind CompletionResponse.ofBody).map
          .response) := by
  rw [printed, Gateway.outcome_of_whole .completion ready rfl]
  rfl

end AskedCompletion

/-- A stream without an error prints all its events and a line break. -/
theorem streamText_map_ok {β : Type} (print : β → String) (events : List β) :
    streamText print (events.map .ok) = (String.join (events.map print) ++ "\n", none) := by
  induction events with
  | nil => rfl
  | cons event events induction =>
    rw [List.map_cons, streamText, induction]
    simp [String.join_cons, String.append_assoc]

variable {chunks : RawStream} {body : ProviderBody} {delivered : List CompletionChunk}
  {response : CompletionResponse} {streaming whole : Network}

section

variable (isEvents : CompletionStream.events chunks = delivered.map .ok)
  (isResponse : CompletionResponse.ofBody body = .ok response)
  (tells : TellsResponse delivered response)
  (streams : streaming.Answers fun reply => ProviderClient.chunksOf reply = chunks)
  (answers : whole.Answers fun reply => ProviderClient.bodyOf reply = .ok body)

include isEvents isResponse tells streams answers

theorem AskedCompletion.printed_agrees (asked : AskedCompletion) (gateway : Gateway)
    (context : CallContext) :
    asked.printed gateway context streaming true = asked.printed gateway context whole false := by
  cases found : gateway.findModel asked.model with
  | error failure => rw [asked.printed_of_unknown found, asked.printed_of_unknown found]
  | ok target =>
    cases resolved : Credential.resolve gateway.config.apiKey (some context) with
    | error failure =>
      rw [asked.printed_of_unresolved found resolved, asked.printed_of_unresolved found resolved]
    | ok apiKey =>
      cases fault : gateway.clientFault? .calling with
      | some cause =>
        rw [asked.printed_of_not_callable found resolved fault,
          asked.printed_of_not_callable found resolved fault]
      | none =>
        obtain ⟨streamedCall, builtStreamed, streamedShape⟩ :=
          asked.exists_built gateway context streaming true target
        obtain ⟨wholeCall, builtWhole, wholeShape⟩ :=
          asked.exists_built gateway context whole false target
        let streamed : Ready (asked.setting gateway context streaming true) :=
          ⟨target, found, streamedCall, builtStreamed, apiKey, resolved,
            asked.fetchable _ _ _ _ target, fault⟩
        let atOnce : Ready (asked.setting gateway context whole false) :=
          ⟨target, found, wholeCall, builtWhole, apiKey, resolved,
            asked.fetchable _ _ _ _ target, fault⟩
        rw [asked.printed_streamed streamed, asked.printed_whole atOnce]
        -- Both clients have the same address and key and both calls have a prompt, so both can be
        -- sent or neither can.
        have sameShape : atOnce.call.shape = streamed.call.shape :=
          wholeShape.trans streamedShape.symm
        cases sends : streamed.client.canSend streamed.call.shape with
        | false =>
          rw [streamed.openedChunks_of_error (streamed.opened_of_not_canSend sends),
            atOnce.opened_of_not_canSend (sameShape ▸ sends)]
          rfl
        | true =>
          obtain ⟨reply, opened, isBody⟩ := atOnce.opened_of_answers answers (sameShape ▸ sends)
          obtain ⟨reply', opened', isChunks⟩ := streamed.opened_of_answers streams sends
          rw [opened, streamed.openedChunks_of_ok opened', isChunks, isEvents, streamText_map_ok,
            tells.content]
          simp [Except.bind, isBody, isResponse, Except.map, CommandLine.printed, completionText]

end

/-- The same world with another network. -/
def World.within (world : World) (network : Network) : World :=
  { world with network := network }

/-- Two runs that ask for one completion, streamed and as a whole, each in a network that answers
with its form of the reply. -/
structure AlternativeRuns (chunks : RawStream) (body : ProviderBody) where
  /-- What both ask for. -/
  asked : AskedCompletion
  /-- What both depend on but for the network. -/
  world : World
  /-- The arguments that ask for a stream. -/
  streamedArguments : List String
  streamed_asks : CommandLine.invocation world.setting? streamedArguments =
    .ok (asked.invocation true)
  /-- The arguments that do not. -/
  plainArguments : List String
  plain_asks : CommandLine.invocation world.setting? plainArguments = .ok (asked.invocation false)
  /-- The network of the streamed run. -/
  streaming : Network
  streams : streaming.Answers fun reply => ProviderClient.chunksOf reply = chunks
  /-- The network of the other run. -/
  whole : Network
  answers : whole.Answers fun reply => ProviderClient.bodyOf reply = .ok body

namespace AlternativeRuns

variable (runs : AlternativeRuns chunks body)

/-- The outcome of the streamed run. -/
def streamedOutcome : Outcome :=
  run (runs.world.within runs.streaming) runs.streamedArguments

/-- The outcome of the other run. -/
def plainOutcome : Outcome :=
  run (runs.world.within runs.whole) runs.plainArguments

end AlternativeRuns

/-- The outcome of a run that asks for a completion, in the gateway of its configuration. -/
theorem run_of_asks {world : World} {arguments : List String} {asked : AskedCompletion}
    {stream : Bool} (asks : invocation world.setting? arguments = .ok (asked.invocation stream))
    (network : Network) :
    run (world.within network) arguments =
      match Circumstances.usual.loadConfig world asked.configPath with
      | .error fault => ⟨"", some (.config fault), []⟩
      | .ok config =>
        outcomeOf completionText CompletionChunk.delta
          ((asked.setting (Circumstances.usual.gateway world config)
            (callerContext asked.apiKey) network stream).outcome .completion) := by
  change invocation (world.within network).setting? arguments = _ at asks
  rw [run, runIn, asks]
  rfl

/-- Both runs print the same and fail alike. -/
theorem AlternativeRuns.agree (runs : AlternativeRuns chunks body)
    (isEvents : CompletionStream.events chunks = delivered.map .ok)
    (isResponse : CompletionResponse.ofBody body = .ok response)
    (tells : TellsResponse delivered response) :
    runs.streamedOutcome.output = runs.plainOutcome.output ∧
      runs.streamedOutcome.failure = runs.plainOutcome.failure := by
  rw [streamedOutcome, plainOutcome, run_of_asks runs.streamed_asks, run_of_asks runs.plain_asks]
  cases Circumstances.usual.loadConfig runs.world runs.asked.configPath with
  | error fault => exact ⟨rfl, rfl⟩
  | ok config =>
    have same := runs.asked.printed_agrees isEvents isResponse tells runs.streams runs.answers
      (Circumstances.usual.gateway runs.world config) (callerContext runs.asked.apiKey)
    exact ⟨congrArg Prod.fst same, congrArg (fun shown => shown.2.map Failure.call) same⟩

end CommandLine

/-- Wherever the provider cuts a completion, the stream tells the response to the whole, and the
command line prints the same with and without a stream. -/
theorem streamed_completion_agrees (completion : CutCompletion) (trailer : Bool)
    {chunks : RawStream} {body : ProviderBody}
    (streamed : Delivers completion.reason chunks (completion.chunkTexts trailer))
    (carried : body.Carries completion.whole completion.reason) :
    (∃ delivered response, CompletionStream.events chunks = delivered.map .ok ∧
      CompletionResponse.ofBody body = .ok response ∧ TellsResponse delivered response) ∧
      ∀ runs : CommandLine.AlternativeRuns chunks body,
        runs.streamedOutcome.output = runs.plainOutcome.output ∧
          runs.streamedOutcome.failure = runs.plainOutcome.failure := by
  obtain ⟨delivered, response, isEvents, isResponse, tells⟩ :=
    completion.exists_tellsResponse trailer streamed carried
  exact ⟨⟨delivered, response, isEvents, isResponse, tells⟩,
    fun runs => runs.agree isEvents isResponse tells⟩

/-- A greeting that is cut within its word and ends with a marker and a finish reason. -/
def cutGreeting : CutCompletion where
  toCutText := .ended ["Hel", "lo"] .message (some "stop") (by decide)
  unmarked := nofun

/-- A reply of lines. -/
def replyOf (lines : List String) : IncomingReply :=
  let text := lines.flatMap fun line => line.toList ++ ['\n']
  ⟨⟨200⟩, none, Utf8.encode text, String.ofList text, true⟩

/-- A network that answers every request with a reply. -/
def answering (reply : IncomingReply) : Network :=
  fun _ _ => .ok reply

theorem answers_answering {reply : IncomingReply} {kind : IncomingReply → Prop}
    (accepted : reply.status.isSuccess = true) (isKind : kind reply) :
    (answering reply).Answers kind :=
  fun _ _ _ => ⟨reply, rfl, accepted, isKind⟩

/-- The greeting as a provider streams it. -/
def streamedGreeting : IncomingReply :=
  replyOf ["data: \x7b\"choices\":[\x7b\"text\":\"Hel\"\x7d]\x7d", "",
    "data: \x7b\"choices\":[\x7b\"text\":\"lo\"\x7d]\x7d", "",
    "data: \x7b\"choices\":[\x7b\"text\":\"<|eom_id|>\",\"finish_reason\":\"stop\"\x7d]\x7d", ""]

/-- The greeting as a provider sends it at once. -/
def wholeGreeting : IncomingReply :=
  replyOf ["\x7b\"choices\":[\x7b\"text\":\"Hello<|eom_id|>\",\"finish_reason\":\"stop\"\x7d]\x7d"]

/-- Two runs that ask for the greeting. -/
def greetingRuns : CommandLine.AlternativeRuns
    (.ofTexts (some "stop") (cutGreeting.chunkTexts false))
    (.ofText cutGreeting.whole (some "stop")) where
  asked := ⟨none, some "key", "Llama3.1-8B-Instruct", "Greet.", none, none⟩
  world := ⟨⟨[]⟩, fun _ => none, fun _ _ => .error "offline", .thirdOfJuly, "call"⟩
  streamedArguments :=
    ["--api-key", "key", "complete", "--stream", "Llama3.1-8B-Instruct", "Greet."]
  streamed_asks := by decide +kernel
  plainArguments := ["--api-key", "key", "complete", "Llama3.1-8B-Instruct", "Greet."]
  plain_asks := by decide +kernel
  streaming := answering streamedGreeting
  streams := answers_answering rfl (by decide +kernel)
  whole := answering wholeGreeting
  answers := answers_answering rfl (by decide +kernel)

/-- Both runs print the greeting without its marker. -/
theorem streamed_completion_agrees_cutGreeting :
    greetingRuns.plainOutcome.output = "Hello\n" ∧
      greetingRuns.streamedOutcome.output = greetingRuns.plainOutcome.output ∧
      greetingRuns.streamedOutcome.failure = greetingRuns.plainOutcome.failure :=
  ⟨by decide +kernel,
    (streamed_completion_agrees cutGreeting false (Delivers.ofTexts (some "stop") (by decide))
      (ProviderBody.carries_ofText cutGreeting.whole (some "stop"))).2 greetingRuns⟩

end LlamaGateway
