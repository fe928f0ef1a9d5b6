import LlamaGateway.Gateway
import LlamaGateway.Proofs.Call.Fetching
import LlamaGateway.Proofs.Provider.Posting

/-!
# Courses of a call

A call is ready once its model is found, its request is built, a key is chosen and the clients for
it can be built; before that it fetches images at most. A ready call takes one of three courses: its
reply is awaited as a whole, or it is streamed and posted at once, or it is streamed and posted
later.
-/

namespace LlamaGateway

theorem Credential.not_isInternal_of_resolve {configured : Option String}
    {ambient : Option CallContext} {failure : InferenceError}
    (fails : resolve configured ambient = .error failure) : ¬ failure.IsInternal := by
  rintro ⟨text, rfl⟩
  unfold resolve at fails
  split at fails
  · cases fails
  · split at fails
    · cases fails
    · split at fails <;> cases fails

namespace Gateway

variable {α β : Type}

/-- A call, and what it is carried out in. -/
structure Setting where
  /-- The gateway. -/
  gateway : Gateway
  /-- The context. -/
  ambient : Option CallContext
  /-- The model that the caller names. -/
  model : String
  /-- The request for the resource of a model. -/
  request : String → GenerationRequest
  /-- The network. -/
  network : Network
  /-- The number of requests that were sent before. -/
  sent : Nat

/-- How the answers to a kind of request are brought into the caller's form. -/
structure Presentation (α β : Type) where
  /-- The form of a body. -/
  ofBody : ProviderBody → Except InferenceError α
  /-- The form of chunks. -/
  ofChunks : RawStream → EventStream β
  /-- The number of events that are there before the first chunk is asked for. -/
  ready : Nat

/-- The forms of a completion. -/
def Presentation.completion : Presentation CompletionResponse CompletionChunk :=
  ⟨CompletionResponse.ofBody, CompletionStream.events, 0⟩

/-- The forms of a chat. -/
def Presentation.chat (callId : String) : Presentation ChatResponse ChatChunk :=
  ⟨ChatResponse.ofBody callId, ChatStream.events callId, 1⟩

/-- The outcome of a call. -/
def Setting.outcome (setting : Setting) (form : Presentation α β) : Traced (Generated α β) :=
  let work : Session (Generated α β) := do
    let target ← Session.lift (setting.gateway.findModel setting.model)
    let output ← setting.gateway.send setting.ambient (setting.request target.resource)
      target.family
    Session.lift (present form.ofBody form.ofChunks form.ready output)
  work setting.network setting.sent

variable (gateway : Gateway) (ambient : Option CallContext) (model : String) (network : Network)
  (sent : Nat)

/-- The completion of raw content as a call. -/
def completing (request : CompletionRequest) : Setting :=
  ⟨gateway, ambient, model, fun resource => .completion { request with model := resource }, network,
    sent⟩

/-- The continuation of a conversation as a call. -/
def chatting (request : ChatRequest) : Setting :=
  ⟨gateway, ambient, model, fun resource => .chat { request with model := resource }, network, sent⟩

theorem complete_eq_outcome (request : CompletionRequest) :
    gateway.complete ambient model request network sent =
      (gateway.completing ambient model network sent request).outcome .completion := rfl

theorem chatComplete_eq_outcome (request : ChatRequest) :
    gateway.chatComplete ambient model request network sent =
      (gateway.chatting ambient model network sent request).outcome
        (.chat gateway.callId) := rfl

/-- Where an internal error of a call can come from: the lookup of its model, or a client that
cannot be built. -/
inductive Setting.MakesInternal (setting : Setting) : InferenceError → Prop
  | lookup {failure : InferenceError}
      (fails : setting.gateway.findModel setting.model = .error failure) :
      MakesInternal setting failure
  | client {use : ClientUse} {cause : String}
      (fault : setting.gateway.clientFault? use = some cause) :
      MakesInternal setting (use.failure cause)

/-- What comes of building the request for a model. -/
def Setting.building (setting : Setting) (target : ModelTarget) : Traced BuiltCall :=
  BuiltCall.build (setting.request target.resource) target.family setting.gateway.today
    setting.gateway.config.downloadImages setting.network setting.sent

/-- Images are fetched at most. -/
theorem Setting.sends_building (setting : Setting) (target : ModelTarget) :
    ∀ exchange ∈ (setting.building target).exchanges, exchange.request.IsFetch :=
  BuiltCall.sends_build _ _ _ _ setting.network setting.sent

/-- The client that fetches images can be built, if the request for a model needs one. -/
def Setting.Fetchable (setting : Setting) (target : ModelTarget) : Prop :=
  setting.gateway.fetches (setting.request target.resource) = true →
    setting.gateway.clientFault? .fetching = none

theorem client_eq_ok {gateway : Gateway} {use : ClientUse}
    (noFault : gateway.clientFault? use = none) : gateway.client use = .ok () := by
  rw [client, noFault]

theorem client_eq_error {gateway : Gateway} {use : ClientUse} {cause : String}
    (fault : gateway.clientFault? use = some cause) :
    gateway.client use = .error (use.failure cause) := by
  rw [client, fault]

/-- What comes of building the request with the clients that it takes. -/
def Setting.prepared (setting : Setting) (target : ModelTarget) : Traced BuiltCall :=
  setting.gateway.build (setting.request target.resource) target.family setting.network setting.sent

theorem Setting.prepared_of_fetchable {setting : Setting} {target : ModelTarget}
    (fetchable : setting.Fetchable target) :
    setting.prepared target = setting.building target := by
  have ready : (if setting.gateway.fetches (setting.request target.resource)
      then setting.gateway.client .fetching else .ok ()) = .ok () := by
    split
    · next fetches => exact client_eq_ok (fetchable fetches)
    · rfl
  rw [prepared, Gateway.build, ready]
  rfl

/-- Without a client for its images a request is refused before any of them is fetched. -/
theorem Setting.prepared_of_not_fetchable {setting : Setting} {target : ModelTarget}
    (blocked : ¬ setting.Fetchable target) : ∃ failure,
      setting.prepared target = ⟨.error failure, []⟩ ∧
        (failure.IsInternal → setting.MakesInternal failure) := by
  obtain ⟨fetches, fault⟩ := Classical.not_imp.1 blocked
  obtain ⟨cause, fault⟩ := Option.ne_none_iff_exists'.1 fault
  rw [prepared, Gateway.build, if_pos fetches, client_eq_error fault]
  cases checked : BuiltCall.checkedOptions (setting.request target.resource) with
  | error failure =>
    exact ⟨failure, rfl, fun isInternal =>
      absurd isInternal (BuiltCall.not_isInternal_of_checkedOptions checked)⟩
  | ok options => exact ⟨_, rfl, fun _ => .client fault⟩

/-- A call that is ready to be sent. -/
structure Ready (setting : Setting) where
  /-- The model that is found. -/
  target : ModelTarget
  found : setting.gateway.findModel setting.model = .ok target
  /-- The call that is built. -/
  call : BuiltCall
  built : (setting.building target).result = .ok call
  /-- The key that is chosen. -/
  apiKey : String
  resolved : Credential.resolve setting.gateway.config.apiKey setting.ambient = .ok apiKey
  fetchable : setting.Fetchable target
  callable : setting.gateway.clientFault? .calling = none

namespace Ready

variable {setting : Setting} (ready : Ready setting)

/-- A call gets ready in one way only. -/
theorem eq_of_ready (ready other : Ready setting) : ready = other := by
  obtain ⟨target, found, call, built, apiKey, resolved, -, -⟩ := ready
  obtain ⟨target', found', call', built', apiKey', resolved', -, -⟩ := other
  cases found.symm.trans found'
  cases built.symm.trans built'
  cases resolved.symm.trans resolved'
  rfl

/-- The request for the model. -/
def request : GenerationRequest :=
  setting.request ready.target.resource

/-- The requests that building the call sent. -/
def fetched : List Exchange :=
  (setting.building ready.target).exchanges

/-- Where the call goes, with its key. -/
def client : ProviderClient :=
  ⟨setting.gateway.config.baseUrl, ready.apiKey⟩

/-- What posting the call sends. -/
def posted : List Exchange :=
  ready.client.posted ready.call setting.network (setting.sent + ready.fetched.length)

/-- The reply to the call, if it is accepted. -/
def opened : Except InferenceError IncomingReply :=
  ready.client.opened ready.call setting.network (setting.sent + ready.fetched.length)

/-- The chunks of the call if it is posted later. -/
def openedChunks : RawStream :=
  ready.client.openedChunks ready.call setting.network (setting.sent + ready.fetched.length)

theorem openedChunks_of_ok {reply : IncomingReply} (succeeds : ready.opened = .ok reply) :
    ready.openedChunks = ProviderClient.chunksOf reply := by
  unfold opened at succeeds
  rw [openedChunks, ProviderClient.openedChunks, succeeds]

/-- A failure to open the reply takes the place of its first chunk. -/
theorem openedChunks_of_error {failure : InferenceError} (fails : ready.opened = .error failure) :
    ready.openedChunks = [.error failure] := by
  unfold opened at fails
  rw [openedChunks, ProviderClient.openedChunks, fails]

theorem payload : CallPayload ready.request ready.target.family setting.gateway.today ready.call :=
  (BuiltCall.course_of_build ready.built).payload

theorem stream_call : ready.call.stream = ready.request.stream :=
  BuiltCall.stream_of_build ready.built

theorem isPrompt_iff : ready.call.shape = .prompt ↔ ¬ ready.request.IsImageChat := by
  rw [← ready.payload.shape]
  cases ready.call.shape <;> simp

theorem fetched_of_prompt (isPrompt : ready.call.shape = .prompt) : ready.fetched = [] :=
  BuiltCall.exchanges_build_of_prompt ready.built isPrompt

/-- A completion is never built as messages. -/
theorem accordant : ¬ (kindOf ready.request = .completion ∧ ready.call.shape = .messages) := by
  -- Only a chat with an image is sent as messages.
  rintro ⟨isCompletion, isMessages⟩
  obtain ⟨⟨chat, isChat⟩, -⟩ := ready.payload.shape.1 isMessages
  rw [isChat] at isCompletion
  cases isCompletion

theorem onlyFetched : ∀ exchange ∈ ready.fetched, exchange.request.IsFetch :=
  setting.sends_building ready.target

end Ready

section

variable (setting : Setting) (form : Presentation α β) {failure : InferenceError}

theorem outcome_of_unknown
    (unknown : setting.gateway.findModel setting.model = .error failure) :
    setting.outcome form = ⟨.error failure, []⟩ := by
  simp [Setting.outcome, unknown]

section

variable {target : ModelTarget} (found : setting.gateway.findModel setting.model = .ok target)

include found

/-- Behind the lookup of its model the outcome of a call is what is sent for it, in the caller's
form. -/
theorem outcome_of_found :
    let answer := setting.gateway.send setting.ambient (setting.request target.resource)
      target.family setting.network setting.sent
    setting.outcome form =
      ⟨answer.result.bind (present form.ofBody form.ofChunks form.ready), answer.exchanges⟩ := by
  simp only [Setting.outcome, found, Session.lift_ok_bind]
  exact Session.bind_lift_apply ..

/-- A request that cannot be built fails with what was fetched for it. -/
theorem outcome_of_unbuilt
    (unbuilt : (setting.prepared target).result = .error failure) :
    setting.outcome form = ⟨.error failure, (setting.prepared target).exchanges⟩ := by
  rw [outcome_of_found setting form found, send, Session.bind_of_error unbuilt]
  rfl

variable {call : BuiltCall} (built : (setting.prepared target).result = .ok call)

include built

theorem outcome_of_unresolved
    (unresolved : Credential.resolve setting.gateway.config.apiKey setting.ambient =
      .error failure) :
    setting.outcome form = ⟨.error failure, (setting.prepared target).exchanges⟩ := by
  rw [outcome_of_found setting form found, send, Session.bind_of_ok built, unresolved,
    Session.lift_error_bind, Session.lift_apply, List.append_nil]
  rfl

/-- A call without a client fails behind the choice of its key. -/
theorem outcome_of_not_callable {apiKey cause : String}
    (resolved : Credential.resolve setting.gateway.config.apiKey setting.ambient = .ok apiKey)
    (fault : setting.gateway.clientFault? .calling = some cause) :
    setting.outcome form =
      ⟨.error (ClientUse.calling.failure cause), (setting.prepared target).exchanges⟩ := by
  rw [outcome_of_found setting form found, send, Session.bind_of_ok built, resolved,
    client_eq_error fault, Session.lift_ok_bind, Session.lift_error_bind, Session.lift_apply,
    List.append_nil]
  rfl

end

variable {setting}

/-- A ready call is answered by the provider. -/
theorem outcome_of_ready (ready : Ready setting) :
    let answer := ready.client.answer ready.call (kindOf ready.request) setting.network
      (setting.sent + ready.fetched.length)
    setting.outcome form =
      ⟨answer.result.bind (present form.ofBody form.ofChunks form.ready),
        ready.fetched ++ answer.exchanges⟩ := by
  have prepared := Setting.prepared_of_fetchable ready.fetchable
  have built : (setting.prepared ready.target).result = .ok ready.call := by
    rw [prepared, ready.built]
  have fetched : ready.fetched = (setting.prepared ready.target).exchanges := by
    rw [prepared, Ready.fetched]
  rw [outcome_of_found setting form ready.found, send, Session.bind_of_ok built, ready.resolved,
    client_eq_ok ready.callable, Session.lift_ok_bind, Session.lift_ok_bind, fetched]
  rfl

theorem outcome_of_whole (ready : Ready setting) (isWhole : ready.request.stream = false) :
    setting.outcome form =
      ⟨((ready.opened.bind ProviderClient.bodyOf).bind form.ofBody).map .response,
        ready.fetched ++ ready.posted⟩ := by
  rw [outcome_of_ready form ready,
    ProviderClient.answer_of_whole ready.accordant (ready.stream_call.trans isWhole)]
  change (⟨((ready.opened.bind ProviderClient.bodyOf).map .body).bind
    (present form.ofBody form.ofChunks form.ready), ready.fetched ++ ready.posted⟩ : Traced _) = _
  cases ready.opened.bind ProviderClient.bodyOf <;> rfl

theorem outcome_of_later (ready : Ready setting) (streamed : ready.request.stream = true)
    (noImage : ¬ ready.request.IsImageChat) :
    setting.outcome form =
      ⟨.ok (.stream ⟨form.ofChunks ready.openedChunks, form.ready, ready.posted⟩), []⟩ := by
  have isPrompt := ready.isPrompt_iff.2 noImage
  rw [outcome_of_ready form ready, ProviderClient.answer_of_prompt ready.accordant
    (ready.stream_call.trans streamed) isPrompt, Ready.openedChunks, Ready.posted,
    ready.fetched_of_prompt isPrompt]
  rfl

theorem outcome_of_now (ready : Ready setting) (streamed : ready.request.stream = true)
    (isImageChat : ready.request.IsImageChat) :
    setting.outcome form =
      ⟨ready.opened.map fun reply =>
          .stream ⟨form.ofChunks (ProviderClient.chunksOf reply), form.ready, []⟩,
        ready.fetched ++ ready.posted⟩ := by
  have isMessages := ready.payload.shape.2 isImageChat
  rw [outcome_of_ready form ready, ProviderClient.answer_of_messages ready.accordant
    (ready.stream_call.trans streamed) isMessages]
  change (⟨(ready.opened.map fun reply => .stream ⟨ProviderClient.chunksOf reply, []⟩).bind
    (present form.ofBody form.ofChunks form.ready), ready.fetched ++ ready.posted⟩ : Traced _) = _
  cases ready.opened <;> rfl

end

/-- The courses that a call may take. -/
inductive Course (setting : Setting) (form : Presentation α β) : Traced (Generated α β) → Prop
  /-- It does not get ready. -/
  | refused {failure : InferenceError} {fetched : List Exchange} (unready : IsEmpty (Ready setting))
      (onlyFetched : ∀ exchange ∈ fetched, exchange.request.IsFetch)
      (internal : failure.IsInternal → setting.MakesInternal failure) :
      Course setting form ⟨.error failure, fetched⟩
  /-- It is posted at once, and its reply is read as a body. -/
  | whole (ready : Ready setting) (isWhole : ready.request.stream = false) :
      Course setting form
        ⟨((ready.opened.bind ProviderClient.bodyOf).bind form.ofBody).map .response,
          ready.fetched ++ ready.posted⟩
  /-- It is posted when the first chunk of its reply is asked for. -/
  | later (ready : Ready setting) (streamed : ready.request.stream = true)
      (noImage : ¬ ready.request.IsImageChat) :
      Course setting form
        ⟨.ok (.stream ⟨form.ofChunks ready.openedChunks, form.ready, ready.posted⟩), []⟩
  /-- It is posted at once, and its reply is read as chunks. -/
  | now (ready : Ready setting) (streamed : ready.request.stream = true)
      (isImageChat : ready.request.IsImageChat) :
      Course setting form
        ⟨ready.opened.map fun reply =>
            .stream ⟨form.ofChunks (ProviderClient.chunksOf reply), form.ready, []⟩,
          ready.fetched ++ ready.posted⟩

/-- A call that is not ready has fetched images at most, and no error of it is internal unless its
setting makes it so. -/
theorem course_of_unready {setting : Setting} (form : Presentation α β)
    (unready : IsEmpty (Ready setting)) : Course setting form (setting.outcome form) := by
  cases found : setting.gateway.findModel setting.model with
  | error failure =>
    rw [outcome_of_unknown setting form found]
    exact .refused unready (by simp) fun _ => .lookup found
  | ok target =>
    by_cases fetchable : setting.Fetchable target
    · have prepared := Setting.prepared_of_fetchable fetchable
      have onlyFetched := setting.sends_building target
      rw [← prepared] at onlyFetched
      cases built : (setting.prepared target).result with
      | error failure =>
        rw [outcome_of_unbuilt setting form found built]
        rw [prepared] at built
        have notInternal := BuiltCall.failsWith_build _ _ _ _ _ _ failure built
        exact .refused unready onlyFetched fun isInternal => absurd isInternal notInternal
      | ok call =>
        cases resolved : Credential.resolve setting.gateway.config.apiKey setting.ambient with
        | error failure =>
          rw [outcome_of_unresolved setting form found built resolved]
          have notInternal := Credential.not_isInternal_of_resolve resolved
          exact .refused unready onlyFetched fun isInternal => absurd isInternal notInternal
        | ok apiKey =>
          cases fault : setting.gateway.clientFault? .calling with
          | some cause =>
            rw [outcome_of_not_callable setting form found built resolved fault]
            exact .refused unready onlyFetched fun _ => .client fault
          | none =>
            rw [prepared] at built
            exact unready.elim ⟨target, found, call, built, apiKey, resolved, fetchable, fault⟩
    · obtain ⟨failure, prepared, internal⟩ := Setting.prepared_of_not_fetchable fetchable
      have unbuilt : (setting.prepared target).result = .error failure := by rw [prepared]
      rw [outcome_of_unbuilt setting form found unbuilt, prepared]
      exact .refused unready nofun internal

/-- Every call takes one of the courses. -/
theorem course_of_outcome (setting : Setting) (form : Presentation α β) :
    Course setting form (setting.outcome form) := by
  by_cases someReady : Nonempty (Ready setting)
  · obtain ⟨ready⟩ := someReady
    cases streams : ready.request.stream with
    | false =>
      rw [outcome_of_whole form ready streams]
      exact .whole ready streams
    | true =>
      by_cases isImageChat : ready.request.IsImageChat
      · rw [outcome_of_now form ready streams isImageChat]
        exact .now ready streams isImageChat
      · rw [outcome_of_later form ready streams isImageChat]
        exact .later ready streams isImageChat
  · exact course_of_unready form ⟨fun ready => someReady ⟨ready⟩⟩

end Gateway

end LlamaGateway
