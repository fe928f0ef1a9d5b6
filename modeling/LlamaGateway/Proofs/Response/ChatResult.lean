import LlamaGateway.Proofs.Response.ChatProtocol

/-!
# Results of streamed chats

What a caller gathers from the closing events of a chat, such as its calls, depends on the progress
at the end alone: the text that was said, and the stop reason of the last end marker, else that of
the provider.
-/

namespace LlamaGateway

/-- The call of an event that found one. -/
def ChatEvent.foundCall? (event : ChatEvent) : Option ToolCall :=
  match event.delta with
  | .toolCall ⟨.call call, .success⟩ => some call
  | _ => none

/-- The stop reason of an event that completes a chat. -/
def ChatEvent.completion? (event : ChatEvent) : Option (Option StopReason) :=
  if event.phase = .complete then some event.stopReason else none

namespace ChatStream

variable {α : Type}

/-- What a view shows of the items of a stream. -/
def gather (view : ChatEvent → Option α) (items : EventStream ChatChunk) : List α :=
  items.filterMap fun
    | .ok chunk => view chunk.event
    | .error _ => none

/-- The calls among the items of a stream. -/
def foundCalls (items : EventStream ChatChunk) : List ToolCall :=
  gather ChatEvent.foundCall? items

/-- The stop reasons of the items that complete a chat. -/
def completions (items : EventStream ChatChunk) : List (Option StopReason) :=
  gather ChatEvent.completion? items

theorem gather_deliver (view : ChatEvent → Option α) (events : List ChatEvent) :
    gather view (deliver events) = events.filterMap view := by
  simp [gather, deliver, List.filterMap_map]

end ChatStream

/-- A view that shows nothing of an event before the closing ones. -/
structure ClosingView {α : Type} (view : ChatEvent → Option α) : Prop where
  /-- The start is not shown. -/
  opening : view ChatStream.opening = none
  /-- Spoken text is not shown. -/
  said : ∀ words seen, view (.text .progress words seen) = none
  /-- The start of a tool call is not shown. -/
  started : view (.toolStep .started (.raw "") none) = none
  /-- The steps of a tool call are not shown. -/
  step : ∀ words seen, view (.toolStep .inProgress (.raw words) seen) = none

theorem ChatEvent.closingView_foundCall? : ClosingView foundCall? where
  opening := rfl
  said _ _ := rfl
  started := rfl
  step _ _ := rfl

theorem ChatEvent.closingView_completion? : ClosingView completion? where
  opening := rfl
  said _ _ := rfl
  started := rfl
  step _ _ := rfl

namespace ClosingView

variable {α : Type} {view : ChatEvent → Option α} (closing : ClosingView view)

include closing

theorem filterMap_saidEvents (said : List NotedText) :
    (ChatTranscript.saidEvents said).filterMap view = [] := by
  apply List.filterMap_eq_nil_iff.2
  intro event member
  obtain ⟨⟨words, seen⟩, -, rfl⟩ := List.mem_map.1 member
  exact closing.said words seen

theorem filterMap_toolEvents (tool : Option (List NotedText)) :
    (ChatTranscript.toolEvents tool).filterMap view = [] := by
  apply List.filterMap_eq_nil_iff.2
  intro event member
  cases tool with
  | none => cases member
  | some steps =>
    rcases List.mem_cons.1 member with rfl | member
    · exact closing.started
    · obtain ⟨⟨words, seen⟩, -, rfl⟩ := List.mem_map.1 member
      exact closing.step words seen

/-- Nothing is shown of the events of texts. -/
theorem filterMap_emitted_start (texts : List String) :
    (ChatProgress.start.emitted texts).filterMap view = [] := by
  obtain ⟨said, tool, emits, -⟩ := ChatProgress.start.emitted_eq texts rfl
  rw [emits, List.filterMap_append, closing.filterMap_saidEvents, closing.filterMap_toolEvents,
    List.append_nil]

end ClosingView

/-- How the reading ends with a finish reason or without one. -/
def StreamEnd.ofReported : Option StopReason → StreamEnd
  | none => .exhausted
  | some reported => .finished reported

namespace ChatProgress

/-- The progress once the provider has told why it stopped, if it has. -/
def settle (progress : ChatProgress) (reported : Option StopReason) : ChatProgress :=
  { progress with seen := progress.seen.or reported }

/-- A stream without errors ends with the closing events of the settled progress. -/
theorem ended_ofReported (callId : String) (progress : ChatProgress)
    (reported : Option StopReason) :
    progress.ended callId (.ofReported reported) =
      ChatStream.deliver ((progress.settle reported).closing callId) := by
  cases reported with
  | none => simp [ended, StreamEnd.ofReported, settle]
  | some reason =>
    rw [StreamEnd.ofReported, ended, finish, settle]
    cases progress.seen <;> rfl

/-- The closing events carry the calls of the decoded text. -/
theorem foundCalls_closing (callId : String) (progress : ChatProgress) :
    (progress.closing callId).filterMap ChatEvent.foundCall? =
      (Reply.decode callId progress.buffer progress.seen).toolCalls := by
  rw [closing_eq, ChatClosing.events, outcome?]
  rcases Reply.toolCalls_decode callId progress.buffer progress.seen with none_eq | ⟨call, one_eq⟩
  · rw [none_eq]
    cases progress.inToolCall <;> rfl
  · rw [one_eq]
    rfl

/-- The closing events complete the chat once, with the stop reason seen last. -/
theorem completions_closing (callId : String) (progress : ChatProgress) :
    (progress.closing callId).filterMap ChatEvent.completion? = [progress.seen] := by
  rw [closing_eq, ChatClosing.events]
  rcases progress.outcome? callId with _ | _ | call <;> rfl

end ChatProgress

namespace ChatStream

/-- The progress after all texts that are read. -/
def last (chunks : RawStream) : ChatProgress :=
  ChatProgress.start.pushAll (StreamReading.ofChunks chunks).texts

variable (callId : String) {chunks : RawStream} {reported : Option StopReason}
  (ends : (StreamReading.ofChunks chunks).ending = .ofReported reported)

include ends

theorem events_eq_deliver :
    events callId chunks =
      deliver (opening :: (ChatProgress.start.emitted (StreamReading.ofChunks chunks).texts ++
        ((last chunks).settle reported).closing callId)) := by
  rw [events_eq, ends, ChatProgress.ended_ofReported, ← deliver_append]
  rfl

/-- A view of closing events shows those of the progress at the end. -/
theorem gather_events {α : Type} {view : ChatEvent → Option α} (closing : ClosingView view) :
    gather view (events callId chunks) =
      (((last chunks).settle reported).closing callId).filterMap view := by
  rw [events_eq_deliver callId ends, gather_deliver, List.filterMap_cons_none closing.opening,
    List.filterMap_append, closing.filterMap_emitted_start, List.nil_append]

/-- A stream without errors finds the calls of the text that was said. -/
theorem foundCalls_events :
    foundCalls (events callId chunks) =
      (Reply.decode callId (last chunks).buffer ((last chunks).seen.or reported)).toolCalls := by
  rw [foundCalls, gather_events callId ends ChatEvent.closingView_foundCall?,
    ChatProgress.foundCalls_closing]
  rfl

/-- A stream without errors is completed once. -/
theorem completions_events :
    completions (events callId chunks) = [(last chunks).seen.or reported] := by
  rw [completions, gather_events callId ends ChatEvent.closingView_completion?,
    ChatProgress.completions_closing]
  rfl

end ChatStream

end LlamaGateway
