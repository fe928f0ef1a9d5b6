import LlamaGateway.Error
import LlamaGateway.Provider.Body
import LlamaGateway.Reply.Decoding
import LlamaGateway.Response.Event

/-!
# Responses of provider bodies

The first choice of a body becomes the response. An end marker at the end of its text tells why
generation stopped, before the provider's own finish reason.

The chunks of a streamed body become events. A chunk whose text is an end marker is swallowed and
noted as the stop reason; a chunk without choices is skipped; a finish reason ends the stream,
whatever follows. An error ends it too, without closing events.
-/

namespace LlamaGateway

namespace Choice

/-- The text of a choice, empty if it has none. -/
def content (choice : Choice) : String :=
  choice.text?.getD ""

/-- The log probabilities of a choice, position by position. -/
def tokenLogProbs (choice : Choice) : Option (List TokenLogProbs) :=
  (choice.logProbs.bind ChoiceLogProbs.positions).map fun positions => positions.map .mk

/-- Why the provider says that generation stopped. -/
def stopReason (choice : Choice) : Option StopReason :=
  choice.finishReason.map StopReason.ofFinishReason

end Choice

/-- The choice that counts, or the error for a body without choices. -/
def ProviderBody.choice (body : ProviderBody) : Except InferenceError Choice :=
  match body.firstChoice? with
  | some choice => .ok choice
  | none => .error (.upstream "fireworks response has no choices")

/-- The result of a completion: its text without one end marker. -/
def CompletionResponse.ofChoice (choice : Choice) : CompletionResponse :=
  let (content, marker) := ReplyFrame.takeMarker choice.content.toList
  let reported := choice.stopReason.getD .outOfTokens
  ⟨String.ofList content, (marker.map EndMarker.stopReason).getD reported, choice.tokenLogProbs⟩

/-- The result of a completion that is not streamed. -/
def CompletionResponse.ofBody (body : ProviderBody) : Except InferenceError CompletionResponse :=
  body.choice.map ofChoice

/-- The result of a chat: its decoded text. Log probabilities are not passed on. -/
def ChatResponse.ofChoice (callId : String) (choice : Choice) : ChatResponse :=
  ⟨Reply.decode callId choice.content.toList choice.stopReason, none⟩

/-- The result of a chat that is not streamed. -/
def ChatResponse.ofBody (callId : String) (body : ProviderBody) :
    Except InferenceError ChatResponse :=
  body.choice.map (ofChoice callId)

/-- What a provider's stream delivers: chunks, or an error in place of one. -/
abbrev RawStream := List (Except InferenceError ProviderBody)

/-- What a caller's stream delivers. -/
abbrev EventStream (α : Type) := List (Except InferenceError α)

namespace CompletionStream

/-- The event that a choice gives rise to, none for an end marker. -/
def piece? (seen : Option StopReason) (choice : Choice) : Option CompletionChunk :=
  match EndMarker.ofText? choice.content.toList with
  | some _ => none
  | none => some ⟨choice.content, seen, choice.tokenLogProbs⟩

/-- The stop reason after a choice: an end marker replaces the one seen before. -/
def seenAfter (seen : Option StopReason) (choice : Choice) : Option StopReason :=
  match EndMarker.ofText? choice.content.toList with
  | some marker => some marker.stopReason
  | none => seen

/-- The last event. -/
def closing (seen : Option StopReason) : CompletionChunk :=
  ⟨"", seen, none⟩

/-- The events of the chunks that follow the stop reason seen so far. -/
def eventsFrom (seen : Option StopReason) : RawStream → EventStream CompletionChunk
  | [] => [.ok (closing seen)]
  | .error failure :: _ => [.error failure]
  | .ok body :: rest =>
    match body.firstChoice? with
    | none => eventsFrom seen rest
    | some choice =>
      let pieces := (piece? seen choice).toList.map .ok
      let seen := seenAfter seen choice
      match choice.stopReason with
      | some reported => pieces ++ [.ok (closing (some (seen.getD reported)))]
      | none => pieces ++ eventsFrom seen rest

/-- The events of a completion. -/
def events (chunks : RawStream) : EventStream CompletionChunk :=
  eventsFrom none chunks

end CompletionStream

/-- A streamed chat as far as it is read. -/
structure ChatProgress where
  /-- The text so far, end markers left out. -/
  buffer : List Char
  /-- The text is a tool call. -/
  inToolCall : Bool
  /-- The stop reason of the last end marker. -/
  seen : Option StopReason
deriving DecidableEq, Repr

namespace ChatProgress

/-- Nothing is read yet. -/
def start : ChatProgress := ⟨[], false, none⟩

/-- A piece of text that starts a tool call. -/
def startsToolCall (progress : ChatProgress) (text : List Char) : Bool :=
  !progress.inToolCall && (Text.dropPrefix? Template.toolTag text).isSome

/-- The event for a piece of text that is neither an end marker nor the start of a tool call. -/
def textEvent (progress : ChatProgress) (text : String) : ChatEvent :=
  if progress.inToolCall then .toolStep .inProgress (.raw text) progress.seen
  else .text .progress text progress.seen

/-- The event for a piece of text, none for an end marker. -/
def event? (progress : ChatProgress) (text : String) : Option ChatEvent :=
  if progress.startsToolCall text.toList then some (.toolStep .started (.raw "") none)
  else if (EndMarker.ofText? text.toList).isSome then none
  else some (progress.textEvent text)

/-- The progress after a piece of text. -/
def push (progress : ChatProgress) (text : String) : ChatProgress :=
  if progress.startsToolCall text.toList then
    { progress with buffer := progress.buffer ++ text.toList, inToolCall := true }
  else
    match EndMarker.ofText? text.toList with
    | some marker => { progress with seen := some marker.stopReason }
    | none => { progress with buffer := progress.buffer ++ text.toList }

/-- The progress after the provider's own stop reason, which counts if no end marker came. -/
def finish (progress : ChatProgress) (reported : StopReason) : ChatProgress :=
  { progress with seen := some (progress.seen.getD reported) }

/-- The outcome of a tool call: the calls that were found, or a failure to find one. -/
def callEvents (progress : ChatProgress) (calls : List ToolCall) : List ChatEvent :=
  let failed := progress.inToolCall && calls.isEmpty
  (if failed then [.toolStep .failure (.raw "") progress.seen] else []) ++
    calls.map fun call => .toolStep .success (.call call) progress.seen

/-- The last events: the outcome of a tool call and the end. -/
def closing (callId : String) (progress : ChatProgress) : List ChatEvent :=
  let turn := Reply.decode callId progress.buffer progress.seen
  progress.callEvents turn.toolCalls ++ [.text .complete "" progress.seen]

end ChatProgress

namespace ChatStream

/-- The chunks of events. -/
def deliver (events : List ChatEvent) : EventStream ChatChunk :=
  events.map fun event => .ok ⟨event⟩

/-- The events of the chunks that follow some progress. -/
def eventsFrom (callId : String) (progress : ChatProgress) : RawStream → EventStream ChatChunk
  | [] => deliver (progress.closing callId)
  | .error failure :: _ => [.error failure]
  | .ok body :: rest =>
    match body.firstChoice? with
    | none => eventsFrom callId progress rest
    | some choice =>
      let emitted := deliver (progress.event? choice.content).toList
      let progress := progress.push choice.content
      match choice.stopReason with
      | some reported => emitted ++ deliver ((progress.finish reported).closing callId)
      | none => emitted ++ eventsFrom callId progress rest

/-- The event before all others. -/
def opening : ChatEvent :=
  .text .start "" none

/-- The events of a chat. A call at its end gets the given identifier. -/
def events (callId : String) (chunks : RawStream) : EventStream ChatChunk :=
  .ok ⟨opening⟩ :: eventsFrom callId .start chunks

end ChatStream

end LlamaGateway
