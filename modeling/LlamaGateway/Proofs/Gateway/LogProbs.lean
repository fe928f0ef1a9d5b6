import LlamaGateway.Proofs.Gateway.Course

/-!
# Log probabilities

A prompt asks for log probabilities when its request wants some, be it a completion or a chat. When
nothing is streamed, a completion brings its caller those of the reply, position by position, and a
chat loses them.
-/

namespace LlamaGateway

/-- The candidates at each position, in the order of the provider. -/
def Choice.positions? (choice : Choice) : Option (List (List (String × Floating))) :=
  choice.logProbs.bind ChoiceLogProbs.positions

/-- A response carries what the provider sent: at each position the same candidates in the same
order, or nothing if nothing was sent. -/
inductive TokenLogProbs.Carry :
    Option (List (List (String × Floating))) → Option (List TokenLogProbs) → Prop
  | nothing : Carry none none
  | each {sent : List (List (String × Floating))} {carried : List TokenLogProbs}
    (same : List.Forall₂ (fun candidates position => position.candidates = candidates) sent
      carried) : Carry (some sent) (some carried)

namespace TokenLogProbs

theorem forall₂_map_mk (sent : List (List (String × Floating))) :
    List.Forall₂ (fun candidates position => position.candidates = candidates) sent
      (sent.map TokenLogProbs.mk) := by
  induction sent with
  | nil => exact .nil
  | cons candidates sent induction => exact .cons rfl induction

theorem carry_tokenLogProbs (choice : Choice) : Carry choice.positions? choice.tokenLogProbs := by
  rw [Choice.tokenLogProbs, ← Choice.positions?]
  cases choice.positions? with
  | none => exact .nothing
  | some sent => exact .each (forall₂_map_mk sent)

theorem carry_none_iff {sent : Option (List (List (String × Floating)))} :
    Carry sent none ↔ sent = none := by
  constructor
  · rintro ⟨⟩
    rfl
  · rintro rfl
    exact .nothing

end TokenLogProbs

theorem ProviderBody.choice_eq_ok_iff {body : ProviderBody} {choice : Choice} :
    body.choice = .ok choice ↔ body.firstChoice? = some choice := by
  rw [ProviderBody.choice]
  cases body.firstChoice? <;> simp

theorem CompletionResponse.ofBody_eq_ok_iff {body : ProviderBody} {response : CompletionResponse} :
    ofBody body = .ok response ↔
      ∃ choice, body.firstChoice? = some choice ∧ ofChoice choice = response := by
  simp only [← ProviderBody.choice_eq_ok_iff, ofBody]
  cases body.choice <;> simp [Except.map]

theorem ChatResponse.ofBody_eq_ok_iff {callId : String} {body : ProviderBody}
    {response : ChatResponse} :
    ofBody callId body = .ok response ↔
      ∃ choice, body.firstChoice? = some choice ∧ ofChoice callId choice = response := by
  simp only [← ProviderBody.choice_eq_ok_iff, ofBody]
  cases body.choice <;> simp [Except.map]

theorem CompletionResponse.carry_ofChoice (choice : Choice) :
    TokenLogProbs.Carry choice.positions? (ofChoice choice).logProbs :=
  TokenLogProbs.carry_tokenLogProbs choice

theorem ChatResponse.carry_ofChoice_iff (callId : String) (choice : Choice) :
    TokenLogProbs.Carry choice.positions? (ofChoice callId choice).logProbs ↔
      choice.positions? = none :=
  TokenLogProbs.carry_none_iff

namespace Gateway

variable {α β : Type} {setting : Setting} {form : Presentation α β}

/-- The first choice of the reply to a call, read as a body. -/
def Ready.Receives (ready : Ready setting) (choice : Choice) : Prop :=
  ∃ body, ready.opened.bind ProviderClient.bodyOf = .ok body ∧ body.firstChoice? = some choice

/-- Only a ready call that is not streamed has a response, that of the body of its reply. -/
theorem exists_body_of_response {response : α}
    (answered : (setting.outcome form).result = .ok (.response response)) :
    ∃ (ready : Ready setting) (body : ProviderBody), ready.request.stream = false ∧
      ready.opened.bind ProviderClient.bodyOf = .ok body ∧ form.ofBody body = .ok response := by
  have course := course_of_outcome setting form
  generalize setting.outcome form = traced at answered course
  cases course with
  | refused | later => cases answered
  | whole ready isWhole =>
    cases read : ready.opened.bind ProviderClient.bodyOf with
    | error failure =>
      rw [read] at answered
      cases answered
    | ok body =>
      rw [read] at answered
      change (form.ofBody body).map Generated.response = .ok (.response response) at answered
      cases formed : form.ofBody body with
      | error failure =>
        rw [formed] at answered
        cases answered
      | ok value =>
        rw [formed] at answered
        cases answered
        exact ⟨ready, body, isWhole, read, formed⟩
  | now ready =>
    cases opens : ready.opened with
    | error failure =>
      rw [opens] at answered
      cases answered
    | ok reply =>
      rw [opens] at answered
      cases answered

/-- What becomes of log probabilities where nothing is streamed. -/
structure LogProbFlow (gateway : Gateway) : Prop where
  /-- A completion carries those of a body, and a chat carries them only if there are none. -/
  bodies : ∀ body choice, body.firstChoice? = some choice → ∃ completion chat,
    CompletionResponse.ofBody body = .ok completion ∧
      ChatResponse.ofBody gateway.callId body = .ok chat ∧
      TokenLogProbs.Carry choice.positions? completion.logProbs ∧
      (TokenLogProbs.Carry choice.positions? chat.logProbs ↔ choice.positions? = none)
  /-- A prompt asks for them exactly if its request wants some, that of a chat like any other. -/
  asked : ∀ setting : Setting, setting.gateway = gateway → ∀ ready : Ready setting,
    ready.call.shape = .prompt → ((ready.call.params.get? "logprobs").isSome ↔
      ∃ config, ready.request.logProbs = some config ∧ 0 < config.topK)
  /-- The caller of a completion gets those of the reply. -/
  completed : ∀ ambient model network sent request response,
    (gateway.complete ambient model request network sent).result = .ok (.response response) →
      ∃ (ready : Ready (gateway.completing ambient model network sent request))
        (choice : Choice), ready.Receives choice ∧
          TokenLogProbs.Carry choice.positions? response.logProbs
  /-- The caller of a chat gets none, so all is well only if the reply has none. -/
  chatted : ∀ ambient model network sent request response,
    (gateway.chatComplete ambient model request network sent).result = .ok (.response response) →
      ∃ (ready : Ready (gateway.chatting ambient model network sent request)) (choice : Choice),
        ready.Receives choice ∧ response.logProbs = none ∧
          (TokenLogProbs.Carry choice.positions? response.logProbs ↔ choice.positions? = none)

/-- Log probabilities come back with completions, and are lost with chats that asked for them. -/
theorem chats_lose_log_probs (gateway : Gateway) : gateway.LogProbFlow := by
  constructor
  case bodies =>
    intro body choice first
    exact ⟨_, _, CompletionResponse.ofBody_eq_ok_iff.2 ⟨choice, first, rfl⟩,
      ChatResponse.ofBody_eq_ok_iff.2 ⟨choice, first, rfl⟩,
      CompletionResponse.carry_ofChoice choice, ChatResponse.carry_ofChoice_iff _ choice⟩
  case asked =>
    rintro setting - ready isPrompt
    rw [ready.payload.logprobs, and_iff_right isPrompt]
  case completed =>
    intro ambient model network sent request response answered
    rw [complete_eq_outcome] at answered
    obtain ⟨ready, body, -, read, formed⟩ := exists_body_of_response answered
    obtain ⟨choice, first, rfl⟩ := CompletionResponse.ofBody_eq_ok_iff.1 formed
    exact ⟨ready, choice, ⟨body, read, first⟩, CompletionResponse.carry_ofChoice choice⟩
  case chatted =>
    intro ambient model network sent request response answered
    rw [chatComplete_eq_outcome] at answered
    obtain ⟨ready, body, -, read, formed⟩ := exists_body_of_response answered
    obtain ⟨choice, first, rfl⟩ := ChatResponse.ofBody_eq_ok_iff.1 formed
    exact ⟨ready, choice, ⟨body, read, first⟩, rfl, ChatResponse.carry_ofChoice_iff _ choice⟩

end Gateway

/-- A greeting with candidates at its first position and none at its second. -/
def weighedGreeting : ProviderBody :=
  let positions := [[("Hey", Floating.Format.double.nearest true 5 2),
    ("Hi", Floating.Format.double.nearest true 1 10)], []]
  ⟨none, [⟨0, some "x", none, none, none, some ⟨some positions⟩⟩]⟩

/-- The completion of the greeting carries the candidates, and the chat does not. -/
theorem weighedGreeting_loses_log_probs :
    ∃ choice completion chat,
      ProviderBody.parse? ("\x7b\"choices\": [\x7b\"text\": \"x\", \"logprobs\": \x7b" ++
        "\"top_logprobs\": [\x7b\"Hey\": -2.5, \"Hi\": -0.1\x7d, \x7b\x7d]\x7d\x7d]\x7d").toList =
          some weighedGreeting ∧
      weighedGreeting.firstChoice? = some choice ∧
      CompletionResponse.ofBody weighedGreeting = .ok completion ∧
      ChatResponse.ofBody "call-1" weighedGreeting = .ok chat ∧
      TokenLogProbs.Carry choice.positions? completion.logProbs ∧
      ¬ TokenLogProbs.Carry choice.positions? chat.logProbs := by
  refine ⟨_, _, _, by decide +kernel, rfl, rfl, rfl, TokenLogProbs.carry_tokenLogProbs _, ?_⟩
  rintro ⟨⟩

end LlamaGateway
