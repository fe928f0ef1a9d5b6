import LlamaGateway.Call.Messages
import LlamaGateway.Proofs.Json.Fields
import LlamaGateway.Proofs.Network.Session

/-!
# Results of tools in converted conversations

The result of a tool keeps the identifier of its call when a conversation is converted, but a turn
of the model is converted without the calls that it makes. So the calls never change what is sent,
and every converted result refers to a call that is not there.
-/

namespace LlamaGateway

/-- Whatever an item refers to is carried by an earlier item. -/
def RefersBack {α : Type} (refers carries : α → String → Prop) (items : List α) : Prop :=
  ∀ earlier item later callId, items = earlier ++ item :: later → refers item callId →
    ∃ source ∈ earlier, carries source callId

namespace Message

/-- The call whose result the message is. -/
def answeredCall? : Message → Option String
  | .tool callId _ _ => some callId
  | _ => none

/-- The tools that the message calls. -/
def toolCalls : Message → List ToolCall
  | .assistant turn => turn.toolCalls
  | _ => []

/-- The message without the tools that it calls. -/
def withoutCalls : Message → Message
  | .assistant turn => .assistant { turn with toolCalls := [] }
  | message => message

end Message

/-- Each result of a tool belongs to a call of an earlier message. -/
def ResultsAnswered (messages : List Message) : Prop :=
  RefersBack (fun message callId => message.answeredCall? = some callId)
    (fun message callId => ∃ call ∈ message.toolCalls, call.callId = callId) messages

namespace CallMessages

/-- Each converted result refers to a call that an earlier converted message carries, whatever else
is said about the call there. -/
def ResultsTied (values : List Json) : Prop :=
  RefersBack (fun value callId => value.member? "tool_call_id" = some (.string callId))
    (fun value callId => ∃ calls, value.member? "tool_calls" = some calls ∧
      ∃ call ∈ calls.items, call.member? "id" = some (.string callId)) values

theorem one_withoutCalls (fetchRemote : Bool) (message : Message) :
    one fetchRemote message.withoutCalls = one fetchRemote message := by
  cases message <;> rfl

/-- The calls of a conversation do not change what is sent. -/
theorem build_withoutCalls (fetchRemote : Bool) (messages : List Message) :
    build fetchRemote (messages.map Message.withoutCalls) = build fetchRemote messages := by
  induction messages with
  | nil => rfl
  | cons message messages induction =>
    have rest : Session.each (one fetchRemote) (messages.map Message.withoutCalls) =
        Session.each (one fetchRemote) messages := induction
    rw [build, build, List.map_cons, Session.each, Session.each, one_withoutCalls, rest]

theorem member?_withParts (key : String) (message : Message) (parts : List Json)
    (notRole : key ≠ "role") (notContent : key ≠ "content") :
    (withParts message parts).member? key = (Json.Fields.ofList (callMember message)).get? key := by
  simp [withParts, notRole, notContent]

theorem toolCallId_withParts (message : Message) (parts : List Json) :
    (withParts message parts).member? "tool_call_id" = message.answeredCall?.map Json.string := by
  rw [member?_withParts _ _ _ (by decide) (by decide)]
  cases message <;> rfl

theorem toolCalls_withParts (message : Message) (parts : List Json) :
    (withParts message parts).member? "tool_calls" = none := by
  rw [member?_withParts _ _ _ (by decide) (by decide)]
  cases message <;> rfl

/-- What is left of results and calls in a converted conversation. -/
structure KeepsResults (messages : List Message) (values : List Json) : Prop where
  /-- The results of tools, and they alone, name their calls. -/
  answers : values.map (Json.member? "tool_call_id") =
    messages.map fun message => message.answeredCall?.map Json.string
  /-- No message carries a call. -/
  callless : ∀ value ∈ values, value.member? "tool_calls" = none

theorem keepsResults_of_each {messages : List Message} {values : List Json}
    (converted : List.Forall₂ (fun message value => ∃ parts, value = withParts message parts)
      messages values) : KeepsResults messages values := by
  induction converted with
  | nil => exact ⟨rfl, nofun⟩
  | cons first _ induction =>
    obtain ⟨parts, rfl⟩ := first
    constructor
    · rw [List.map_cons, List.map_cons, toolCallId_withParts, induction.answers]
    · exact List.forall_mem_cons.2 ⟨toolCalls_withParts _ parts, induction.callless⟩

theorem keepsResults_build {fetchRemote : Bool} {messages : List Message} {network : Network}
    {position : Nat} {values : List Json}
    (finished : (build fetchRemote messages network position).result = .ok values) :
    KeepsResults messages values := by
  refine keepsResults_of_each ((Session.forall₂_of_each finished).imp ?_)
  rintro message value ⟨sent, succeeds⟩
  obtain ⟨parts, -, made⟩ := Session.result_bind_eq_ok_iff.1 succeeds
  cases made
  exact ⟨parts, rfl⟩

/-- Converted results are tied to their calls only if there are none. -/
theorem KeepsResults.tied_iff {messages : List Message} {values : List Json}
    (keeps : KeepsResults messages values) :
    ResultsTied values ↔ ∀ message ∈ messages, message.answeredCall? = none := by
  constructor
  · intro tied message member
    refine Option.eq_none_iff_forall_ne_some.2 fun callId answered => ?_
    have named : some (Json.string callId) ∈ values.map (Json.member? "tool_call_id") := by
      rw [keeps.answers]
      exact List.mem_map.2 ⟨message, member, congrArg (Option.map Json.string) answered⟩
    obtain ⟨value, valueMember, refers⟩ := List.mem_map.1 named
    obtain ⟨earlier, later, rfl⟩ := List.append_of_mem valueMember
    obtain ⟨source, sourceMember, calls, carried, -⟩ := tied earlier value later callId rfl refers
    rw [keeps.callless source (List.mem_append_left _ sourceMember)] at carried
    cases carried
  · intro resultless earlier value later callId whole refers
    have named : some (Json.string callId) ∈ values.map (Json.member? "tool_call_id") := by
      rw [whole]
      exact List.mem_map.2 ⟨value, List.mem_append_right _ List.mem_cons_self, refers⟩
    rw [keeps.answers] at named
    obtain ⟨message, member, answered⟩ := List.mem_map.1 named
    rw [resultless message member] at answered
    cases answered

end CallMessages

/-- Converting a conversation keeps of each result the identifier of its call and leaves out all
calls. It comes to the same as converting the conversation without the calls, and the results are
tied to calls only if there are no results. -/
theorem conversion_leaves_out_calls {fetchRemote : Bool} {messages : List Message}
    {network : Network} {position : Nat} {values : List Json}
    (finished : (CallMessages.build fetchRemote messages network position).result = .ok values) :
    CallMessages.build fetchRemote (messages.map Message.withoutCalls) =
        CallMessages.build fetchRemote messages ∧
      CallMessages.KeepsResults messages values ∧
      (CallMessages.ResultsTied values ↔
        ∀ message ∈ messages, message.answeredCall? = none) := by
  have keeps := CallMessages.keepsResults_build finished
  exact ⟨CallMessages.build_withoutCalls fetchRemote messages, keeps, keeps.tied_iff⟩

/-- A photo, a call that asks for the weather there, and the answer. -/
def photoWeather : List Message :=
  [.user (.parts [.text "Weather here?", .image (.url "https://example.com/paris.jpg")]) none,
    .assistant ⟨.text "", .endOfMessage, [⟨"call-1", .custom "get_weather",
      [("city", .string "Paris")]⟩]⟩,
    .tool "call-1" (.custom "get_weather") (.text "sunny")]

/-- The conversation about the photo as it is sent. -/
def photoWeatherConverted : List Json :=
  List.zipWith CallMessages.withParts photoWeather
    [[CallMessages.textPart "Weather here?",
        CallMessages.imagePart "https://example.com/paris.jpg"],
      [CallMessages.textPart ""], [CallMessages.textPart "sunny"]]

theorem conversion_leaves_out_calls_photoWeather :
    (CallMessages.build false photoWeather (fun _ _ => .error "") 0).result =
        .ok photoWeatherConverted ∧
      CallMessages.KeepsResults photoWeather photoWeatherConverted := by
  have finished : (CallMessages.build false photoWeather (fun _ _ => .error "") 0).result =
    .ok photoWeatherConverted := rfl
  exact ⟨finished, (conversion_leaves_out_calls finished).2.1⟩

/-- The answer about the photo belongs to a call, but refers to none once it is converted. -/
theorem photoWeather_loses_its_call :
    ResultsAnswered photoWeather ∧
      ∃ values, CallMessages.build false photoWeather (fun _ _ => .error "") 0 = ⟨.ok values, []⟩ ∧
        ¬ CallMessages.ResultsTied values := by
  constructor
  · intro earlier message later callId whole answers
    rcases earlier with _ | ⟨first, _ | ⟨second, _ | ⟨third, earlier⟩⟩⟩
    · cases whole
      cases answers
    · cases whole
      cases answers
    · cases whole
      cases answers
      exact ⟨_, List.mem_cons_of_mem _ List.mem_cons_self, _, List.mem_cons_self, rfl⟩
    · simp [photoWeather] at whole
  · have finished : (CallMessages.build false photoWeather (fun _ _ => .error "") 0).result =
      .ok photoWeatherConverted := rfl
    refine ⟨photoWeatherConverted, rfl, fun tied => ?_⟩
    have resultless := (CallMessages.keepsResults_build finished).tied_iff.1 tied
    cases resultless _ (List.getLast_mem (List.cons_ne_nil _ _))

end LlamaGateway
