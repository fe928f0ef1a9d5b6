import LlamaGateway.Proofs.Response.ChatTranscript

/-!
# Streamed chats as transcripts

The texts that are read are said until one of them starts a tool call, and are steps of that call
from then on. The closing events hold its outcome, for a reply decodes to at most one call. So
whatever a provider delivers, its chat is streamed as a transcript.
-/

namespace LlamaGateway

namespace ChatProgress

open ChatTranscript (saidEvents stepEvents toolEvents)

/-- Within a tool call every spoken text is a step of it. -/
theorem emitted_inToolCall (progress : ChatProgress) (texts : List String)
    (inCall : progress.inToolCall = true) :
    progress.emitted texts = stepEvents (noted id progress.seen texts) ∧
      (progress.pushAll texts).inToolCall = true := by
  induction texts generalizing progress with
  | nil => exact ⟨rfl, inCall⟩
  | cons text texts induction =>
    cases isMarker : EndMarker.ofText? text.toList with
    | some marker =>
      obtain ⟨emits, stays⟩ :=
        induction (progress.push text) (by rw [push_marker isMarker, inCall])
      refine ⟨?_, stays⟩
      rw [emitted, event?_marker isMarker, emits, push_marker isMarker,
        noted_cons_marker id isMarker]
      rfl
    | none =>
      obtain ⟨emits, stays⟩ :=
        induction (progress.push text) (by rw [push_spoken isMarker, inCall, Bool.true_or])
      refine ⟨?_, stays⟩
      rw [emitted, event?_spoken isMarker, emits, push_spoken isMarker, if_pos inCall,
        noted_cons_spoken id isMarker]
      rfl

/-- Texts are said until one of them starts a tool call, if any does. -/
theorem emitted_split (progress : ChatProgress) (texts : List String)
    (speaking : progress.inToolCall = false) :
    ∃ said tool, SplitAtCall (noted id progress.seen texts) said tool ∧
      progress.emitted texts = saidEvents said ++ toolEvents tool ∧
      (progress.pushAll texts).inToolCall = tool.isSome := by
  induction texts generalizing progress with
  | nil => exact ⟨[], none, .never (by simp), rfl, speaking⟩
  | cons text texts induction =>
    cases isMarker : EndMarker.ofText? text.toList with
    | some marker =>
      obtain ⟨said, tool, split, emits, mode⟩ :=
        induction (progress.push text) (by rw [push_marker isMarker, speaking])
      rw [push_marker isMarker] at split
      refine ⟨said, tool, ?_, ?_, mode⟩
      · rw [noted_cons_marker id isMarker]
        exact split
      · rw [emitted, event?_marker isMarker, emits]
        rfl
    | none =>
      by_cases starts : StartsCall text
      · have inCall : (progress.push text).inToolCall = true := by
          simp [push_spoken isMarker, starts]
        obtain ⟨emits, stays⟩ := emitted_inToolCall (progress.push text) texts inCall
        refine ⟨[], some (noted id progress.seen texts), ?_, ?_, stays⟩
        · rw [noted_cons_spoken id isMarker]
          exact .start_first starts
        · rw [emitted, event?_spoken isMarker, emits, push_spoken isMarker, speaking,
            if_pos starts]
          rfl
      · have silent : (progress.push text).inToolCall = false := by
          simp [push_spoken isMarker, starts, speaking]
        obtain ⟨said, tool, split, emits, mode⟩ := induction (progress.push text) silent
        rw [push_spoken isMarker] at split
        refine ⟨(text, progress.seen) :: said, tool, ?_, ?_, mode⟩
        · rw [noted_cons_spoken id isMarker]
          exact split.cons starts
        · rw [emitted, event?_spoken isMarker, emits, speaking, if_neg starts]
          rfl

theorem emitted_eq (progress : ChatProgress) (texts : List String)
    (speaking : progress.inToolCall = false) :
    ∃ said tool, progress.emitted texts = saidEvents said ++ toolEvents tool ∧
      (progress.pushAll texts).inToolCall = tool.isSome := by
  obtain ⟨said, tool, -, emits, mode⟩ := progress.emitted_split texts speaking
  exact ⟨said, tool, emits, mode⟩

end ChatProgress

/-- A reply holds at most one call. -/
theorem Reply.toolCalls_decode (callId : String) (text : List Char) (given : Option StopReason) :
    (decode callId text given).toolCalls = [] ∨
      ∃ call, (decode callId text given).toolCalls = [call] := by
  rw [decode]
  split
  · exact .inr ⟨_, rfl⟩
  · exact .inl rfl

namespace ChatProgress

/-- What became of a tool call: the call that its text holds, or a failure to find one. -/
def outcome? (callId : String) (progress : ChatProgress) : Option ToolOutcome :=
  match (Reply.decode callId progress.buffer progress.seen).toolCalls with
  | call :: _ => some (.success call)
  | [] => if progress.inToolCall then some .failure else none

theorem closing_eq (callId : String) (progress : ChatProgress) :
    progress.closing callId = ChatClosing.events ⟨progress.outcome? callId, progress.seen⟩ := by
  rw [closing, callEvents, ChatClosing.events, outcome?]
  rcases Reply.toolCalls_decode callId progress.buffer progress.seen with none_eq | ⟨call, one_eq⟩
  · rw [none_eq]
    cases progress.inToolCall <;> rfl
  · rw [one_eq]
    cases progress.inToolCall <;> rfl

theorem isSome_outcome? (callId : String) {progress : ChatProgress}
    (inCall : progress.inToolCall = true) : (progress.outcome? callId).isSome := by
  rw [outcome?, if_pos inCall]
  split <;> rfl

theorem inToolCall_of_failure {callId : String} {progress : ChatProgress}
    (failure : progress.outcome? callId = some .failure) : progress.inToolCall = true := by
  rw [outcome?] at failure
  split at failure
  · cases failure
  · by_contra silent
    simp [silent] at failure

/-- How a stream that is broken or not ends after some progress. -/
def chatEnding (callId : String) (progress : ChatProgress) :
    StreamEnd → Except InferenceError ChatClosing
  | .exhausted => .ok ⟨progress.outcome? callId, progress.seen⟩
  | .finished reported =>
    .ok ⟨(progress.finish reported).outcome? callId, (progress.finish reported).seen⟩
  | .broken failure => .error failure

theorem ended_eq (callId : String) (progress : ChatProgress) (ending : StreamEnd) :
    progress.ended callId ending = ChatTranscript.endItems (progress.chatEnding callId ending) := by
  cases ending <;> simp [ended, chatEnding, ChatTranscript.endItems, closing_eq]

theorem chatEnding_eq_error_iff {callId : String} {progress : ChatProgress} {ending : StreamEnd}
    {failure : InferenceError} :
    progress.chatEnding callId ending = .error failure ↔ ending = .broken failure := by
  cases ending <;> simp [chatEnding]

/-- An end without error is that of a chat which is in a tool call as before. -/
theorem of_chatEnding_eq_ok {callId : String} {progress : ChatProgress} {ending : StreamEnd}
    {closing : ChatClosing} (ends : progress.chatEnding callId ending = .ok closing) :
    ∃ final : ChatProgress, final.inToolCall = progress.inToolCall ∧
      closing.outcome = final.outcome? callId := by
  cases ending with
  | exhausted => exact ⟨progress, rfl, by cases ends; rfl⟩
  | finished reported => exact ⟨progress.finish reported, rfl, by cases ends; rfl⟩
  | broken failure => cases ends

/-- The transcript of a chat that ends after some progress. -/
def transcript (callId : String) (progress : ChatProgress) (ending : StreamEnd)
    (said : List NotedText) (tool : Option (List NotedText))
    (mode : progress.inToolCall = tool.isSome) : ChatTranscript where
  said := said
  tool := tool
  ending := progress.chatEnding callId ending
  settled := by
    intro closing ends started
    obtain ⟨final, sameMode, outcome⟩ := of_chatEnding_eq_ok ends
    rw [outcome]
    exact final.isSome_outcome? callId (sameMode.trans (mode.trans started))
  failed := by
    intro closing ends failure
    obtain ⟨final, sameMode, outcome⟩ := of_chatEnding_eq_ok ends
    rw [← mode, ← sameMode]
    exact inToolCall_of_failure (outcome.symm.trans failure)

end ChatProgress

/-- Every stream of a chat is delivered as a transcript: a start, spoken text, at most one tool
call, and then the first error that is met or an end with the outcome of the tool call. -/
theorem chat_events_form_transcript (callId : String) (chunks : RawStream) :
    ∃ transcript : ChatTranscript,
      ChatStream.events callId chunks = transcript.items ∧
      (∀ failure, transcript.ending = .error failure ↔ BrokenBy failure chunks) ∧
      (∀ failure, .error failure ∈ ChatStream.events callId chunks ↔ BrokenBy failure chunks) ∧
      ChatItemKind.Orderly ((ChatStream.events callId chunks).map ChatItemKind.ofItem) := by
  obtain ⟨said, tool, emits, mode⟩ :=
    ChatProgress.start.emitted_eq (StreamReading.ofChunks chunks).texts rfl
  let transcript := ChatProgress.transcript callId _ (StreamReading.ofChunks chunks).ending
    said tool mode
  have whole : ChatStream.events callId chunks = transcript.items := by
    rw [ChatStream.events_eq, emits, ChatProgress.ended_eq]
    rfl
  have broken (failure : InferenceError) :
      transcript.ending = .error failure ↔ BrokenBy failure chunks :=
    ChatProgress.chatEnding_eq_error_iff.trans StreamReading.ending_eq_broken_iff
  refine ⟨transcript, whole, broken, fun failure => ?_, ?_⟩
  · rw [whole, transcript.error_mem_items_iff, broken]
  · rw [whole]
    exact transcript.orderly

end LlamaGateway
