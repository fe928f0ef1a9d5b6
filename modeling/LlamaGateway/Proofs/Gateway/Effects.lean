import LlamaGateway.CommandLine.Run
import LlamaGateway.Proofs.Gateway.Course
import LlamaGateway.Proofs.Response.Interruption

/-!
# Effects of calls

Whatever comes back, a call posts one request at most, and none if it fails by the fault of its
caller. The request carries the call that was built and the key that was chosen, and its address is
that of the provider with the endpoint behind it, be it part of the path or not. A streamed prompt
is posted when its first chunk is asked for; streamed messages are posted at once, so that a refusal
is the failure of the call itself.
-/

namespace LlamaGateway

open Gateway (Setting Presentation Ready Course)

variable {α β : Type}

/-- The address of a request. -/
def OutgoingRequest.address : OutgoingRequest → String
  | .fetch address | .post address _ _ => address

/-- The calls to the provider among some exchanges. -/
def postsAmong (exchanges : List Exchange) : List Exchange :=
  exchanges.filter fun exchange => exchange.request.isPost

@[simp] theorem postsAmong_append (exchanges more : List Exchange) :
    postsAmong (exchanges ++ more) = postsAmong exchanges ++ postsAmong more :=
  List.filter_append ..

theorem postsAmong_eq_nil {exchanges : List Exchange}
    (onlyFetched : ∀ exchange ∈ exchanges, exchange.request.IsFetch) :
    postsAmong exchanges = [] :=
  List.filter_eq_nil_iff.2 fun exchange member =>
    Bool.eq_false_iff.1 (onlyFetched exchange member)

namespace Traced

/-- What is sent before a call returns and while a number of its events is asked for. -/
def sentAfter (traced : Traced (Generated α β)) (asked : Nat) : List Exchange :=
  traced.exchanges ++
    match traced.result with
    | .ok (.stream delivery) => delivery.exchangesAfter asked
    | _ => []

/-- The calls to the provider until all events of a call are delivered. -/
def posts (traced : Traced (Generated α β)) : List Exchange :=
  postsAmong (traced.exchanges ++ CommandLine.deferredExchanges traced.result)

/-- The call fails, or its stream delivers an error. -/
def Fails (traced : Traced (Generated α β)) (failure : InferenceError) : Prop :=
  match traced.result with
  | .error met => met = failure
  | .ok (.response _) => False
  | .ok (.stream delivery) => .error failure ∈ delivery.events

end Traced

/-- The endpoint for a request: chats with an image have one of their own. -/
inductive GenerationRequest.ServedAt (request : GenerationRequest) : String → Prop
  | messages (isImageChat : request.IsImageChat) : ServedAt request "/chat/completions"
  | prompt (noImage : ¬ request.IsImageChat) : ServedAt request "/completions"

/-- The address of a request is that of the provider with the endpoint behind it, instead of the
slashes at its end. -/
structure Url.Serves (base : Url) (request : GenerationRequest) (target : Url) : Prop where
  /-- The endpoint stands where the provider's address ends. -/
  served : ∃ endpoint, request.ServedAt endpoint ∧ base.Extended endpoint.toList target
  /-- It is written behind the text of that address. -/
  text : ∀ endpoint, request.ServedAt endpoint → ∃ bare, Bared base.toText.toList bare ∧
    target.toText.toList = bare ++ endpoint.toList
  /-- It is the end of the path exactly if that address has neither query nor fragment. -/
  path_iff : ∀ endpoint, request.ServedAt endpoint →
    (base.PathGoesOn target endpoint.toList ↔ base.query = none ∧ base.fragment = none)

namespace GenerationRequest.ServedAt

variable {request : GenerationRequest} {endpoint : String}

theorem named (served : request.ServedAt endpoint) : ∃ c ∈ endpoint.toList, c ≠ '/' := by
  cases served <;> exact ⟨'c', by decide, by decide⟩

theorem eq_of_servedAt {other : String} (served : request.ServedAt endpoint)
    (also : request.ServedAt other) : endpoint = other := by
  cases served with
  | messages isImageChat =>
    cases also with
    | messages => rfl
    | prompt noImage => exact absurd isImageChat noImage
  | prompt noImage =>
    cases also with
    | messages isImageChat => exact absurd isImageChat noImage
    | prompt => rfl

theorem serves {base target : Url} (served : request.ServedAt endpoint)
    (extended : base.Extended endpoint.toList target)
    (text : target.toText =
      String.ofList (Text.trimEnd (· = '/') base.toText.toList ++ endpoint.toList)) :
    base.Serves request target where
  served := ⟨endpoint, served, extended⟩
  text other also := by
    rw [← served.eq_of_servedAt also, text, String.toList_ofList]
    exact ⟨_, Url.bared_trimEnd _, rfl⟩
  path_iff other also := by
    rw [← served.eq_of_servedAt also]
    exact extended.pathGoesOn_iff served.named

end GenerationRequest.ServedAt

namespace Gateway.Ready

variable {setting : Setting} (ready : Ready setting)

/-- The exchange posts the call, with the parameters that are built and the key that is chosen. -/
structure Posts (exchange : Exchange) : Prop where
  /-- What is sent. -/
  request : ∃ target, setting.gateway.config.baseUrl.Serves ready.request target ∧
    exchange.request = .post target.toText ready.apiKey ready.call.params
  /-- What comes back. -/
  reply : exchange.reply =
    setting.network (setting.sent + ready.fetched.length) exchange.request

/-- The shape of the call decides the endpoint as the request does. -/
theorem exists_servedAt : ∃ endpoint, ready.request.ServedAt endpoint ∧ ∀ base : Url,
    base.endpoint ready.call.shape =
      String.ofList (Text.trimEnd (· = '/') base.toText.toList ++ endpoint.toList) := by
  by_cases isImageChat : ready.request.IsImageChat
  · refine ⟨"/chat/completions", .messages isImageChat, fun base => ?_⟩
    rw [ready.payload.shape.2 isImageChat, Url.endpoint, String.ofList_append,
      String.ofList_toList]
  · refine ⟨"/completions", .prompt isImageChat, fun base => ?_⟩
    rw [ready.isPrompt_iff.2 isImageChat, Url.endpoint, String.ofList_append,
      String.ofList_toList]

/-- A call that can be sent has an address that serves its request. -/
theorem exists_serves (sends : ready.client.canSend ready.call.shape = true) :
    ∃ target, setting.gateway.config.baseUrl.Serves ready.request target ∧
      target.toText = setting.gateway.config.baseUrl.endpoint ready.call.shape := by
  simp only [ProviderClient.canSend, Url.isRequestable, Bool.and_eq_true] at sends
  obtain ⟨⟨-, -, takes⟩, -⟩ := sends
  obtain ⟨endpoint, served, isEndpoint⟩ := ready.exists_servedAt
  obtain ⟨target, extended, text⟩ := Url.exists_extended takes endpoint.toList
  exact ⟨target, served.serves extended text, text.trans (isEndpoint _).symm⟩

theorem posts_of_mem_posted {exchange : Exchange} (member : exchange ∈ ready.posted) :
    ready.Posts exchange := by
  obtain ⟨sends, rfl⟩ := (ProviderClient.mem_posted_iff ..).1 member
  obtain ⟨target, serves, text⟩ := ready.exists_serves sends
  refine ⟨⟨target, serves, ?_⟩, rfl⟩
  rw [text]
  rfl

@[simp] theorem postsAmong_fetched : postsAmong ready.fetched = [] :=
  postsAmong_eq_nil ready.onlyFetched

@[simp] theorem postsAmong_posted : postsAmong ready.posted = ready.posted :=
  List.filter_eq_self.2 (ProviderClient.isPost_of_mem_posted _ _ _ _)

end Gateway.Ready

/-- The caller's form of an answer adds no errors but those of the provider. -/
structure Gateway.Presentation.Faithful (form : Presentation α β) : Prop where
  /-- A body without a form is the fault of the provider. -/
  body : ∀ content failure, form.ofBody content = .error failure → failure.IsProviderFault
  /-- Chunks deliver the error that breaks them, and no other one. -/
  chunks : ∀ chunks failure, .error failure ∈ form.ofChunks chunks ↔
    (StreamReading.ofChunks chunks).ending = .broken failure

theorem ProviderBody.isProviderFault_of_choice {body : ProviderBody} {failure : InferenceError}
    (fails : body.choice = .error failure) : failure.IsProviderFault := by
  unfold choice at fails
  split at fails <;> cases fails
  exact .upstream _

namespace Gateway.Presentation

theorem faithful_completion : completion.Faithful where
  body _ _ fails := ProviderBody.isProviderFault_of_choice (error_of_map fails)
  chunks _ _ := CompletionStream.followsReading.error_mem_iff

theorem faithful_chat (callId : String) : (chat callId).Faithful where
  body _ _ fails := ProviderBody.isProviderFault_of_choice (error_of_map fails)
  chunks _ _ := (ChatStream.followsReading callId).error_mem_iff

namespace Faithful

variable {form : Presentation α β} (faithful : form.Faithful) {failure : InferenceError}

include faithful

theorem mem_of_mem_ofChunks {chunks : RawStream} (member : .error failure ∈ form.ofChunks chunks) :
    .error failure ∈ chunks := by
  obtain ⟨earlier, later, whole, -⟩ :=
    StreamReading.ending_eq_broken_iff.1 ((faithful.chunks chunks failure).1 member)
  simp [whole]

end Faithful

end Gateway.Presentation

namespace Gateway.Ready

variable {setting : Setting} {form : Presentation α β} (faithful : form.Faithful)
  (ready : Ready setting) {failure : InferenceError}

include faithful

theorem isProviderFault_of_body
    (fails : (ready.opened.bind ProviderClient.bodyOf).bind form.ofBody = .error failure) :
    failure.IsProviderFault := by
  rcases error_of_bind fails with fails | ⟨body, -, fails⟩
  · rcases error_of_bind fails with fails | ⟨reply, -, fails⟩
    · exact ProviderClient.isProviderFault_of_opened fails
    · exact ProviderClient.isProviderFault_of_bodyOf fails
  · exact faithful.body body failure fails

end Gateway.Ready

/-- How a call ends. -/
inductive CallEnd (setting : Setting) (traced : Traced (Generated α β)) : Prop
  /-- It fails before it is ready, and is not posted. -/
  | refused (unready : IsEmpty (Ready setting)) (posts : traced.posts = [])
      (failure : InferenceError) (fails : traced.result = .error failure)
      (internal : failure.IsInternal → setting.MakesInternal failure)
  /-- It is posted if it can be sent, and if it fails the provider is to blame. -/
  | posted (ready : Ready setting) (posts : traced.posts = ready.posted)
      (faults : ∀ failure, traced.Fails failure → failure.IsProviderFault)
      (unopened : ∀ failure, ready.opened = .error failure → traced.Fails failure)

theorem end_of_course {setting : Setting} {form : Presentation α β}
    {traced : Traced (Generated α β)} (faithful : form.Faithful)
    (course : Course setting form traced) : CallEnd setting traced := by
  cases course with
  | @refused failure fetched unready onlyFetched internal =>
    have noPosts := postsAmong_eq_nil onlyFetched
    exact .refused unready (by simpa [Traced.posts, CommandLine.deferredExchanges]) failure rfl
      internal
  | whole ready isWhole =>
    refine .posted ready ?_ ?_ ?_
    · cases (ready.opened.bind ProviderClient.bodyOf).bind form.ofBody <;>
        simp [Traced.posts, CommandLine.deferredExchanges, Except.map]
    · intro failure fails
      cases read : (ready.opened.bind ProviderClient.bodyOf).bind form.ofBody with
      | error met =>
        rw [read] at fails
        cases fails
        exact ready.isProviderFault_of_body faithful read
      | ok value =>
        rw [read] at fails
        cases fails
    · intro failure unopened
      rw [unopened]
      rfl
  | later ready streamed noImage =>
    refine .posted ready (by simp [Traced.posts, CommandLine.deferredExchanges]) ?_ ?_
    · intro failure fails
      exact ProviderClient.isProviderFault_of_mem_openedChunks (faithful.mem_of_mem_ofChunks fails)
    · -- The failure to open the reply is the only item of the chunks, so the stream delivers it.
      intro failure unopened
      rw [ready.openedChunks_of_error unopened]
      exact (faithful.chunks _ _).2 rfl
  | now ready streamed isImageChat =>
    refine .posted ready ?_ ?_ ?_
    · cases ready.opened <;> simp [Traced.posts, CommandLine.deferredExchanges, Except.map]
    · intro failure fails
      cases opens : ready.opened with
      | error met =>
        rw [opens] at fails
        cases fails
        exact ProviderClient.isProviderFault_of_opened opens
      | ok reply =>
        rw [opens] at fails
        exact ProviderClient.isProviderFault_of_mem_chunksOf (faithful.mem_of_mem_ofChunks fails)
    · intro failure unopened
      rw [unopened]
      rfl

namespace CallEnd

variable {setting : Setting} {traced : Traced (Generated α β)} (ends : CallEnd setting traced)
  {failure : InferenceError}

include ends

theorem posts_of_ready (ready : Ready setting) : traced.posts = ready.posted := by
  cases ends with
  | refused unready => exact (unready.false ready).elim
  | posted other posts => rw [posts, other.eq_of_ready ready]

theorem length_posts_le : traced.posts.length ≤ 1 := by
  cases ends with
  | refused _ posts => simp [posts]
  | posted ready posts =>
    rw [posts]
    exact ProviderClient.length_posted_le ..

theorem exists_ready_of_mem_posts {exchange : Exchange} (member : exchange ∈ traced.posts) :
    ∃ ready : Ready setting, ready.Posts exchange := by
  cases ends with
  | refused _ posts => simp [posts] at member
  | posted ready posts => exact ⟨ready, ready.posts_of_mem_posted (posts ▸ member)⟩

theorem posts_eq_nil_of_isCallerFault (fails : traced.Fails failure)
    (byCaller : failure.IsCallerFault) : traced.posts = [] := by
  cases ends with
  | refused _ posts => exact posts
  | posted _ _ faults =>
    -- What the provider is to blame for is not the fault of the caller.
    cases faults failure fails <;> cases byCaller

theorem makesInternal_of_isInternal (fails : traced.Fails failure)
    (isInternal : failure.IsInternal) : setting.MakesInternal failure := by
  cases ends with
  | refused _ _ met isError internal =>
    rw [Traced.Fails, isError] at fails
    subst fails
    exact internal isInternal
  | posted _ _ faults =>
    obtain ⟨text, rfl⟩ := isInternal
    cases faults _ fails

theorem exists_accepted (completes : ∀ failure, ¬ traced.Fails failure) :
    ∃ exchange reply, traced.posts = [exchange] ∧ exchange.reply = .ok reply ∧
      reply.status.isSuccess = true := by
  cases ends with
  | refused _ _ failure fails => exact absurd (by rw [Traced.Fails, fails]) (completes failure)
  | posted ready posts _ unopened =>
    cases opens : ready.opened with
    | error failure => exact absurd (unopened failure opens) (completes failure)
    | ok reply =>
      obtain ⟨exchange, isPosted, came, accepted⟩ := ProviderClient.posted_of_opened opens
      exact ⟨exchange, reply, posts.trans isPosted, came, accepted⟩

end CallEnd

/-- What a call does to the provider, and how its failures tell of it. -/
structure CallEffects (setting : Setting) (traced : Traced (Generated α β)) : Prop where
  /-- At most one request is posted. -/
  posted_once : traced.posts.length ≤ 1
  /-- Nothing is posted but a ready call. -/
  posted : ∀ exchange ∈ traced.posts, ∃ ready : Ready setting, ready.Posts exchange
  /-- A ready call is posted unless the client cannot send it. -/
  posted_of_ready : ∀ ready : Ready setting, ready.client.canSend ready.call.shape = true →
    traced.posts ≠ []
  /-- A call that fails by the fault of its caller is not posted. -/
  refused : ∀ failure, traced.Fails failure → failure.IsCallerFault → traced.posts = []
  /-- An internal error comes from the lookup of the model or from a client that cannot be built. -/
  internal : ∀ failure, traced.Fails failure → failure.IsInternal → setting.MakesInternal failure
  /-- A streamed prompt sends nothing before the first event is asked for. -/
  later : ∀ ready : Ready setting, ready.request.stream = true → ¬ ready.request.IsImageChat →
    traced.sentAfter 0 = [] ∧ ∃ delivery, traced.result = .ok (.stream delivery)
  /-- Streamed messages are posted before the call returns. -/
  now : ∀ ready : Ready setting, ready.request.stream = true → ready.request.IsImageChat →
    postsAmong (traced.sentAfter 0) = traced.posts
  /-- Then the failure of the call tells of a refusal by the provider. -/
  refusal : ∀ ready : Ready setting, ready.request.stream = true → ready.request.IsImageChat →
    ∀ exchange ∈ traced.posts, ∀ reply, exchange.reply = .ok reply →
      reply.status.isSuccess = false →
        traced.result = .error (.upstream ("fireworks returned " ++ reply.status.text ++ ": " ++
          ProviderClient.refusalText reply))
  /-- A call that does not fail is posted, and accepted by the provider. -/
  completed : (∀ failure, ¬ traced.Fails failure) → ∃ exchange reply, traced.posts = [exchange] ∧
    exchange.reply = .ok reply ∧ reply.status.isSuccess = true

theorem effects_of_outcome (setting : Setting) {form : Presentation α β}
    (faithful : form.Faithful) : CallEffects setting (setting.outcome form) := by
  have ends := end_of_course faithful (Gateway.course_of_outcome setting form)
  refine ⟨ends.length_posts_le, fun _ => ends.exists_ready_of_mem_posts, ?_,
    fun _ => ends.posts_eq_nil_of_isCallerFault, fun _ => ends.makesInternal_of_isInternal, ?_, ?_,
    ?_, ends.exists_accepted⟩
  · intro ready sends
    rw [ends.posts_of_ready ready]
    exact List.ne_nil_of_mem ((ProviderClient.mem_posted_iff ..).2 ⟨sends, rfl⟩)
  · intro ready streamed noImage
    rw [Gateway.outcome_of_later form ready streamed noImage]
    exact ⟨rfl, _, rfl⟩
  · intro ready streamed isImageChat
    rw [Gateway.outcome_of_now form ready streamed isImageChat]
    cases ready.opened <;>
      simp [Traced.posts, Traced.sentAfter, CommandLine.deferredExchanges, Except.map,
        Delivery.exchangesAfter]
  · -- The posted request is the only one, so its reply decides the outcome.
    intro ready streamed isImageChat exchange member reply came refused
    rw [ends.posts_of_ready ready] at member
    have unopened : ready.opened = .error _ :=
      ProviderClient.opened_of_refused member came refused
    rw [Gateway.outcome_of_now form ready streamed isImageChat, unopened]
    rfl

namespace Gateway

/-- Both operations of a gateway keep to the effects of a call. -/
structure KeepsEffects (gateway : Gateway) : Prop where
  complete : ∀ ambient model network sent request,
    CallEffects (gateway.completing ambient model network sent request)
      (gateway.complete ambient model request network sent)
  chatComplete : ∀ ambient model network sent request,
    CallEffects (gateway.chatting ambient model network sent request)
      (gateway.chatComplete ambient model request network sent)

theorem keepsEffects (gateway : Gateway) : gateway.KeepsEffects where
  complete ambient model network sent request := by
    rw [complete_eq_outcome]
    exact effects_of_outcome _ Presentation.faithful_completion
  chatComplete ambient model network sent request := by
    rw [chatComplete_eq_outcome]
    exact effects_of_outcome _ (Presentation.faithful_chat gateway.callId)

/-- No call of a gateway fails as a completion that was built as messages. -/
structure NeverMisshapen (gateway : Gateway) : Prop where
  complete : ∀ ambient model network sent request,
    ¬ (gateway.complete ambient model request network sent).Fails ProviderClient.misshapen
  chatComplete : ∀ ambient model network sent request,
    ¬ (gateway.chatComplete ambient model request network sent).Fails ProviderClient.misshapen

/-- No gateway makes that error unless its lookup of models does. -/
theorem misshapen_of_makesInternal {setting : Setting}
    (makes : setting.MakesInternal ProviderClient.misshapen) :
    setting.gateway.findModel setting.model = .error ProviderClient.misshapen := by
  generalize error : ProviderClient.misshapen = failure at makes ⊢
  cases makes with
  | lookup fails => exact fails
  | @client use cause fault =>
    -- The texts of the errors differ in their first letter.
    cases use <;>
      simp [ProviderClient.misshapen, ClientUse.failure, ← String.toList_inj] at error

theorem ofConfig_findModel_ne (config : ProviderConfig) (today : CalendarDate)
    (callId model : String) :
    (ofConfig config today callId).findModel model ≠ .error ProviderClient.misshapen := by
  intro fails
  change (AliasTable.hostedWith config.models).target model = _ at fails
  unfold AliasTable.target at fails
  split at fails <;> cases fails

/-- Configured models are known or unknown, so no call of the gateway for a configuration gets into
a state that should not be, whatever clients can be built. -/
theorem neverMisshapen_ofConfig (config : ProviderConfig) (today : CalendarDate) (callId : String)
    (clientFault? : ClientUse → Option String) :
    ((ofConfig config today callId).withClientFaults clientFault?).NeverMisshapen := by
  have effects := keepsEffects ((ofConfig config today callId).withClientFaults clientFault?)
  constructor
  case complete =>
    intro ambient model network sent request fails
    exact ofConfig_findModel_ne config today callId model (misshapen_of_makesInternal
      ((effects.complete ambient model network sent request).internal _ fails ⟨_, rfl⟩))
  case chatComplete =>
    intro ambient model network sent request fails
    exact ofConfig_findModel_ne config today callId model (misshapen_of_makesInternal
      ((effects.chatComplete ambient model network sent request).internal _ fails ⟨_, rfl⟩))

end Gateway

end LlamaGateway
