import LlamaGateway.Proofs.Gateway.Effects

/-!
# Exit statuses

The exit status of a run tells what was sent. The status for a wrong request means that nothing was
posted, and accepted arguments end with status zero exactly if their call neither fails nor delivers
an error before the user breaks off its stream. Unless that happens, the provider has then accepted
one request.
-/

namespace LlamaGateway

namespace CommandLine

section

variable {α β : Type} (printResponse : α → String) (printEvent : β → String)

theorem streamText_failure_eq_none_iff {events : EventStream β} :
    (streamText printEvent events).2 = none ↔ ∀ failure, .error failure ∉ events := by
  induction events with
  | nil => simp [streamText]
  | cons item rest induction =>
    cases item with
    | error failure =>
      simp only [streamText, reduceCtorEq, List.mem_cons, not_or, false_iff, not_forall]
      exact ⟨failure, fun apart => apart.1 rfl⟩
    | ok event => simpa [streamText] using induction

theorem mem_of_streamText_failure {events : EventStream β} {failure : InferenceError}
    (fails : (streamText printEvent events).2 = some failure) : .error failure ∈ events := by
  induction events with
  | nil => cases fails
  | cons item rest induction =>
    cases item with
    | error met =>
      cases fails
      exact List.mem_cons_self
    | ok event => exact List.mem_cons_of_mem _ (induction fails)

variable {traced : Traced (Generated α β)}

theorem printed_failure_eq_none_iff :
    (printed printResponse printEvent traced.result).2 = none ↔
      ∀ failure, ¬ traced.Fails failure := by
  unfold Traced.Fails
  rcases traced.result with failure | value | delivery
  · simp [printed]
  · simp [printed]
  · exact streamText_failure_eq_none_iff printEvent

theorem fails_of_printed_failure {failure : InferenceError}
    (fails : (printed printResponse printEvent traced.result).2 = some failure) :
    traced.Fails failure := by
  unfold Traced.Fails
  rcases result : traced.result with met | value | delivery
  · rw [result] at fails
    exact Option.some.inj fails
  · rw [result] at fails
    cases fails
  · rw [result] at fails
    exact mem_of_streamText_failure printEvent fails

theorem status_outcomeOf :
    (outcomeOf printResponse printEvent traced).status =
      match (printed printResponse printEvent traced.result).2 with
      | none => 0
      | some failure => if failure.isCallerError then 2 else 1 := by
  dsimp only [outcomeOf, Outcome.status]
  cases (printed printResponse printEvent traced.result).2 <;> rfl

/-- The outcome of a call exits with zero exactly if the call does not fail. -/
theorem status_outcomeOf_eq_zero_iff :
    (outcomeOf printResponse printEvent traced).status = 0 ↔
      ∀ failure, ¬ traced.Fails failure := by
  rw [← printed_failure_eq_none_iff printResponse printEvent, status_outcomeOf]
  cases (printed printResponse printEvent traced.result).2 with
  | none => simp
  | some failure => cases byCaller : failure.isCallerError <;> simp [byCaller]

/-- The outcome of a call exits with two only if the caller is to blame for its failure. -/
theorem fails_of_status_outcomeOf_eq_two
    (wrong : (outcomeOf printResponse printEvent traced).status = 2) :
    ∃ failure, traced.Fails failure ∧ failure.IsCallerFault := by
  rw [status_outcomeOf] at wrong
  cases fails : (printed printResponse printEvent traced.result).2 with
  | none => simp [fails] at wrong
  | some failure =>
    refine ⟨failure, fails_of_printed_failure printResponse printEvent fails, ?_⟩
    cases byCaller : failure.isCallerError with
    | true => exact InferenceError.isCallerError_iff.1 byCaller
    | false => simp [fails, byCaller] at wrong

end

section

variable {α β : Type} {traced : Traced (Generated α β)} {interruption? : Option Interruption}

/-- The call fails, or its stream delivers an error before it is broken off. -/
def FailsWithin (interruption? : Option Interruption) (traced : Traced (Generated α β))
    (failure : InferenceError) : Prop :=
  match traced.result with
  | .error met => met = failure
  | .ok (.response _) => False
  | .ok (.stream delivery) =>
    match interruption? with
    | none => .error failure ∈ delivery.events
    | some interruption => .error failure ∈ delivery.events.take interruption.printed

theorem fails_upTo_iff {failure : InferenceError} :
    (upTo interruption? traced).Fails failure ↔ FailsWithin interruption? traced failure := by
  obtain ⟨result, exchanges⟩ := traced
  cases interruption? <;> rcases result with met | value | delivery <;> rfl

theorem FailsWithin.fails {failure : InferenceError}
    (fails : FailsWithin interruption? traced failure) : traced.Fails failure := by
  unfold FailsWithin at fails
  unfold Traced.Fails
  rcases result : traced.result with met | value | delivery
  · rwa [result] at fails
  · rwa [result] at fails
  · rw [result] at fails
    cases interruption? with
    | none => exact fails
    | some interruption => exact List.mem_of_mem_take fails

/-- What is posted up to an interruption is the start of what would be posted without it. -/
theorem posts_upTo_prefix_posts (interruption? : Option Interruption)
    (traced : Traced (Generated α β)) : (upTo interruption? traced).posts <+: traced.posts := by
  obtain ⟨result, exchanges⟩ := traced
  cases interruption? with
  | none => exact List.prefix_rfl
  | some interruption =>
    rcases result with met | value | delivery
    · exact List.prefix_rfl
    · exact List.prefix_rfl
    · simp only [upTo, Traced.posts, deferredExchanges, Interruption.cut, Delivery.exchangesAfter]
      split
      · exact List.prefix_rfl
      · simp

theorem posts_upTo_eq_nil (noPost : traced.posts = []) :
    (upTo interruption? traced).posts = [] := by
  have shorter := posts_upTo_prefix_posts interruption? traced
  rw [noPost] at shorter
  exact List.prefix_nil.1 shorter

end

/-- The call of a command fails, or its stream delivers an error before it is broken off. -/
def Command.Fails (gateway : Gateway) (context : CallContext) (network : Network)
    (interruption? : Option Interruption) (failure : InferenceError) : Command → Prop
  | .complete model prompt options =>
    FailsWithin interruption?
      (gateway.complete (some context) model (completionRequest prompt options) network 0) failure
  | .chat model message system images options =>
    FailsWithin interruption?
      (gateway.chatComplete (some context) model (chatRequest message system images options)
        network 0) failure

/-- What the outcome of a command tells of its call. -/
structure TellsEffects (outcome : Outcome) (interruption? : Option Interruption)
    (fails : InferenceError → Prop) : Prop where
  /-- At most one request is posted. -/
  posted_once : (postsAmong outcome.exchanges).length ≤ 1
  /-- Nothing is posted for a wrong request. -/
  wrong : outcome.status = 2 → postsAmong outcome.exchanges = []
  /-- Status zero means that the call does not fail. -/
  status_eq_zero_iff : outcome.status = 0 ↔ ∀ failure, ¬ fails failure
  /-- Without an interruption the provider has then accepted the one request that was posted. -/
  accepted : interruption? = none → outcome.status = 0 → ∃ exchange reply,
    postsAmong outcome.exchanges = [exchange] ∧ exchange.reply = .ok reply ∧
      reply.status.isSuccess = true

theorem tellsEffects_outcomeOf {α β : Type} (printResponse : α → String) (printEvent : β → String)
    (interruption? : Option Interruption) {setting : Gateway.Setting}
    {traced : Traced (Generated α β)} (effects : CallEffects setting traced) :
    TellsEffects (outcomeOf printResponse printEvent (upTo interruption? traced)) interruption?
      (FailsWithin interruption? traced) where
  posted_once := (posts_upTo_prefix_posts interruption? traced).length_le.trans effects.posted_once
  wrong wrong := by
    obtain ⟨failure, fails, byCaller⟩ :=
      fails_of_status_outcomeOf_eq_two printResponse printEvent wrong
    exact posts_upTo_eq_nil (effects.refused failure (fails_upTo_iff.1 fails).fails byCaller)
  status_eq_zero_iff := by
    rw [status_outcomeOf_eq_zero_iff printResponse printEvent]
    exact forall_congr' fun failure => not_congr fails_upTo_iff
  accepted := by
    rintro rfl succeeds
    exact effects.completed ((status_outcomeOf_eq_zero_iff printResponse printEvent).1 succeeds)

/-- What the outcome of a command tells. -/
theorem tellsEffects_runCommand (gateway : Gateway) (context : CallContext) (network : Network)
    (interruption? : Option Interruption) (command : Command) :
    TellsEffects (runCommand gateway context network interruption? command) interruption?
      fun failure => command.Fails gateway context network interruption? failure := by
  cases command with
  | complete model prompt options =>
    exact tellsEffects_outcomeOf completionText CompletionChunk.delta interruption?
      (gateway.keepsEffects.complete (some context) model network 0
        (completionRequest prompt options))
  | chat model message system images options =>
    exact tellsEffects_outcomeOf chatText eventText interruption?
      (gateway.keepsEffects.chatComplete (some context) model network 0
        (chatRequest message system images options))

/-- What the outcome of a run tells of the call behind it. -/
structure RunEffects (circumstances : Circumstances) (world : World) (arguments : List String) :
    Prop where
  /-- At most one request is posted. -/
  posted_once : (postsAmong (runIn circumstances world arguments).exchanges).length ≤ 1
  /-- Status two means that nothing was posted. -/
  wrong : (runIn circumstances world arguments).status = 2 →
    postsAmong (runIn circumstances world arguments).exchanges = []
  /-- Accepted arguments end with status zero exactly if there is a configuration and the call in it
  does not fail before its stream is broken off. -/
  status_eq_zero_iff : ∀ accepted, invocation world.setting? arguments = .ok accepted →
    ((runIn circumstances world arguments).status = 0 ↔
      ∃ config, circumstances.loadConfig world accepted.configPath = .ok config ∧
        ∀ failure, ¬ accepted.command.Fails (circumstances.gateway world config)
          (callerContext accepted.apiKey) world.network circumstances.interruption? failure)
  /-- Without an interruption the provider has then accepted the one request that was posted. -/
  accepted : circumstances.interruption? = none →
    ∀ accepted, invocation world.setting? arguments = .ok accepted →
      (runIn circumstances world arguments).status = 0 →
        ∃ exchange reply, postsAmong (runIn circumstances world arguments).exchanges = [exchange] ∧
          exchange.reply = .ok reply ∧ reply.status.isSuccess = true

theorem runEffects (circumstances : Circumstances) (world : World) (arguments : List String) :
    RunEffects circumstances world arguments := by
  cases reads : invocation world.setting? arguments with
  | error refusal =>
    have isRun : runIn circumstances world arguments = ⟨"", some (.refused refusal), []⟩ := by
      rw [runIn, reads]
    constructor <;> simp [isRun, postsAmong, reads]
  | ok accepted =>
    cases loads : circumstances.loadConfig world accepted.configPath with
    | error fault =>
      have isRun : runIn circumstances world arguments = ⟨"", some (.config fault), []⟩ := by
        rw [runIn, reads]
        simp only [loads]
      constructor <;> simp [isRun, postsAmong, reads, loads, Outcome.status, Failure.status]
    | ok config =>
      have isRun : runIn circumstances world arguments =
          runCommand (circumstances.gateway world config) (callerContext accepted.apiKey)
            world.network circumstances.interruption? accepted.command := by
        rw [runIn, reads]
        simp only [loads]
      have tells := tellsEffects_runCommand (circumstances.gateway world config)
        (callerContext accepted.apiKey) world.network circumstances.interruption? accepted.command
      rw [← isRun] at tells
      refine ⟨tells.posted_once, tells.wrong, ?_, fun usual _ _ => tells.accepted usual⟩
      intro other same
      cases reads.symm.trans same
      rw [tells.status_eq_zero_iff]
      simp [loads]

end CommandLine

/-- Calls post one request at most, and none that is their caller's fault; no call of a configured
gateway gets into a state that should not be, and the exit status of a run tells what was posted. -/
theorem calls_and_runs_post_once (gateway : Gateway) (config : ProviderConfig)
    (today : CalendarDate) (callId : String) (clientFault? : ClientUse → Option String)
    (circumstances : CommandLine.Circumstances) (world : CommandLine.World)
    (arguments : List String) :
    gateway.KeepsEffects ∧
      ((Gateway.ofConfig config today callId).withClientFaults clientFault?).NeverMisshapen ∧
      CommandLine.RunEffects circumstances world arguments :=
  ⟨gateway.keepsEffects, Gateway.neverMisshapen_ofConfig config today callId clientFault?,
    CommandLine.runEffects circumstances world arguments⟩

/-- A gateway whose address has a path and nothing behind it. -/
def plainGateway : Gateway :=
  .ofConfig { ProviderConfig.default with apiKey := some "key" } .thirdOfJuly "call"

/-- A question about a picture. -/
def askedPicture : ChatRequest :=
  .ofMessages "" [.user (.parts [.text "What is it?", .image (.url "https://host.example/a.png")])
    none]

/-- A world with no files and no network. -/
def emptyWorld : CommandLine.World :=
  ⟨⟨[]⟩, fun _ => none, fun _ _ => .error "offline", .thirdOfJuly, "call"⟩

/-- Arguments that ask an unknown model. -/
def unknownModelArguments : List String :=
  ["--api-key", "key", "chat", "Llama9-1B", "Hi"]

/-- The picture goes to the endpoint for messages, and a run for an unknown model, which is the
fault of the caller, posts nothing. -/
theorem calls_and_runs_post_once_askedPicture :
    (∃ exchange target,
      (plainGateway.chatComplete none "Llama3.2-11B-Vision-Instruct" askedPicture
        (fun _ _ => .error "offline") 0).posts = [exchange] ∧
      exchange.request.address = "https://api.fireworks.ai/inference/v1/chat/completions" ∧
      target.toText = exchange.request.address ∧
      plainGateway.config.baseUrl.PathGoesOn target "/chat/completions".toList) ∧
    (CommandLine.runIn .usual emptyWorld unknownModelArguments).status = 2 ∧
      postsAmong (CommandLine.runIn .usual emptyWorld unknownModelArguments).exchanges = [] := by
  obtain ⟨keeps, -, run⟩ := calls_and_runs_post_once plainGateway .default .thirdOfJuly
    "call" (fun _ => none) .usual emptyWorld unknownModelArguments
  constructor
  · have addresses : ((plainGateway.chatComplete none "Llama3.2-11B-Vision-Instruct" askedPicture
        (fun _ _ => .error "offline") 0).posts.map fun exchange => exchange.request.address) =
          ["https://api.fireworks.ai/inference/v1/chat/completions"] := by
      decide +kernel
    obtain ⟨exchange, posts, address⟩ := List.map_eq_singleton_iff.1 addresses
    have effects := keeps.chatComplete none "Llama3.2-11B-Vision-Instruct"
      (fun _ _ => .error "offline") 0 askedPicture
    obtain ⟨ready, ⟨target, serves, request⟩, -⟩ :=
      effects.posted exchange (posts ▸ List.mem_singleton_self exchange)
    refine ⟨exchange, target, posts, address, by rw [request, OutgoingRequest.address], ?_⟩
    have isImageChat : ready.request.IsImageChat := ⟨⟨_, rfl⟩, nofun⟩
    exact (serves.path_iff _ (.messages isImageChat)).2 ⟨rfl, rfl⟩
  · have wrong : (CommandLine.runIn .usual emptyWorld unknownModelArguments).status = 2 := by
      decide +kernel
    exact ⟨wrong, run.wrong wrong⟩

/-- A configuration whose address has a query. -/
def tenantConfig : Except ConfigError Config :=
  Config.parse ⟨[]⟩
    "[fireworks]\napi_key = \"key\"\nbase_url = \"https://proxy.example/v1?tenant=a\"\n"

/-- The call of the gateway for a configuration. -/
def tenantCall (config : Config) : Traced (Generated CompletionResponse CompletionChunk) :=
  (Gateway.ofConfig config.provider .thirdOfJuly "call").complete none
    "Llama3.1-8B-Instruct" (.ofText "" "Hi") (fun _ _ => .error "offline") 0

/-- Behind a query the endpoint belongs to the query: the configuration is accepted, the request is
posted, and it goes to the path of the provider's address alone. -/
theorem tenant_takes_endpoint : ∃ config exchange target,
    tenantConfig = .ok config ∧ (tenantCall config).posts = [exchange] ∧
      exchange.request.address = "https://proxy.example/v1?tenant=a/completions" ∧
      Url.parse? exchange.request.address = some target ∧ target.path.text = "/v1".toList ∧
      ¬ config.provider.baseUrl.PathGoesOn target "/completions".toList := by
  have addresses : (tenantConfig.toOption.map fun config =>
      (config.provider.baseUrl.path.text,
        (tenantCall config).posts.map fun exchange => exchange.request.address)) =
          some ("/v1".toList, ["https://proxy.example/v1?tenant=a/completions"]) := by
    decide +kernel
  have path : ((Url.parse? "https://proxy.example/v1?tenant=a/completions").map fun target =>
      target.path.text) = some "/v1".toList := by
    decide +kernel
  cases parsed : tenantConfig with
  | error fault => simp [parsed, Except.toOption] at addresses
  | ok config =>
    rw [parsed] at addresses
    obtain ⟨basePath, posts⟩ := Prod.mk.inj (Option.some.inj addresses)
    obtain ⟨exchange, posts, address⟩ := List.map_eq_singleton_iff.1 posts
    obtain ⟨target, isTarget, path⟩ := Option.map_eq_some_iff.1 path
    refine ⟨config, exchange, target, rfl, posts, address, address ▸ isTarget, path, ?_⟩
    rintro ⟨bare, -, same⟩
    have lengths := congrArg List.length same
    rw [path, List.length_append] at lengths
    simp at lengths

end LlamaGateway
