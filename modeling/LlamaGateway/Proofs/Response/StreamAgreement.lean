import LlamaGateway.Proofs.Response.ChatResult

/-!
# Streamed and whole replies

A provider delivers one reply in chunks or as a whole. A streamed chat keeps the end marker apart
and decodes the rest, while a chat that is not streamed takes the marker off the whole text. Both
find the same calls and the same stop reason, wherever the provider cuts the reply.
-/

namespace LlamaGateway

/-- A generated text as a provider cuts it. -/
structure CutText where
  /-- The texts in front of the end marker. -/
  pieces : List String
  /-- The end marker. -/
  marker : Option EndMarker
  /-- The provider's own finish reason. -/
  reason : Option String
  /-- No piece is an end marker. -/
  spoken : ∀ piece ∈ pieces, Spoken piece
  /-- The provider tells in one way or the other why it stopped. -/
  stopped : marker.isSome ∨ reason.isSome

namespace CutText

/-- Pieces and an end marker. -/
def ended (pieces : List String) (marker : EndMarker) (reason : Option String)
    (spoken : ∀ piece ∈ pieces, Spoken piece) : CutText where
  pieces := pieces
  marker := some marker
  reason := reason
  spoken := spoken
  stopped := .inl rfl

/-- The text in front of the end marker. -/
def text (cut : CutText) : List Char :=
  cut.pieces.flatMap String.toList

/-- The whole text. -/
def whole (cut : CutText) : String :=
  String.ofList (cut.text ++ ReplyFrame.markerText cut.marker)

/-- The texts of the chunks: the pieces, the end marker, and an empty one if there is a trailer. -/
def chunkTexts (cut : CutText) (trailer : Bool) : List String :=
  cut.pieces ++ (cut.marker.map fun marker => String.ofList marker.text).toList ++
    if trailer then [""] else []

/-- The stop reason that the provider reports. -/
def reported (cut : CutText) : Option StopReason :=
  cut.reason.map StopReason.ofFinishReason

/-- The stop reason: that of the end marker, else the one that is reported. -/
def stopReason (cut : CutText) : Option StopReason :=
  (cut.marker.map EndMarker.stopReason).or cut.reported

theorem isSome_stopReason (cut : CutText) : cut.stopReason.isSome := by
  rw [stopReason, Option.isSome_or, Option.isSome_map, reported, Option.isSome_map,
    Bool.or_eq_true]
  exact cut.stopped

end CutText

/-- A reply as a provider cuts it. -/
structure CutReply extends CutText where
  /-- There is no other end marker behind the pieces. -/
  unmarked : ReplyFrame.Unmarked (Text.trimEnd (· = ' ') (pieces.flatMap String.toList))
  /-- The end marker follows the pieces without a blank. -/
  closed : marker.isSome → (pieces.flatMap String.toList).getLast? ≠ some ' '

/-- The choice that counts has a text and a finish reason. -/
def ProviderBody.Carries (body : ProviderBody) (text : String) (reason : Option String) : Prop :=
  ∃ choice, body.firstChoice? = some choice ∧ choice.content = text ∧ choice.finishReason = reason

/-- The chunks carry the texts, one each, and the last one carries the finish reason. -/
inductive Delivers (reason : Option String) : RawStream → List String → Prop
  /-- The last chunk. -/
  | last {body : ProviderBody} {text : String} (carries : body.Carries text reason) :
      Delivers reason [.ok body] [text]
  /-- A chunk with others behind it. -/
  | more {body : ProviderBody} {text : String} {chunks : RawStream} {texts : List String}
      (carries : body.Carries text none) (rest : Delivers reason chunks texts) :
      Delivers reason (.ok body :: chunks) (text :: texts)

/-- A body with one choice that has nothing but a text and a finish reason. -/
def ProviderBody.ofText (text : String) (reason : Option String) : ProviderBody :=
  ⟨none, [⟨0, some text, none, none, reason, none⟩]⟩

theorem ProviderBody.carries_ofText (text : String) (reason : Option String) :
    (ofText text reason).Carries text reason :=
  ⟨_, rfl, rfl, rfl⟩

/-- The stream of texts with a finish reason at its end. -/
def RawStream.ofTexts (reason : Option String) : List String → RawStream
  | [] => []
  | [text] => [.ok (.ofText text reason)]
  | text :: texts => .ok (.ofText text none) :: ofTexts reason texts

/-- Any texts can be delivered. -/
theorem Delivers.ofTexts (reason : Option String) {texts : List String} (some_text : texts ≠ []) :
    Delivers reason (RawStream.ofTexts reason texts) texts := by
  induction texts with
  | nil => exact absurd rfl some_text
  | cons text texts induction =>
    cases texts with
    | nil => exact .last (ProviderBody.carries_ofText text reason)
    | cons next texts =>
      exact .more (ProviderBody.carries_ofText text none) (induction (List.cons_ne_nil next texts))

/-- All texts of a delivered reply are read. -/
theorem Delivers.reading {reason : Option String} {chunks : RawStream} {texts : List String}
    (delivered : Delivers reason chunks texts) :
    (StreamReading.ofChunks chunks).texts = texts ∧
      (StreamReading.ofChunks chunks).ending =
        .ofReported (reason.map StopReason.ofFinishReason) := by
  induction delivered with
  | @last body text carries =>
    obtain ⟨choice, first, rfl, isReason⟩ := carries
    cases reason with
    | none =>
      rw [StreamReading.ofChunks_continue first (Choice.stopReason_eq_none_iff.2 isReason)]
      exact ⟨rfl, rfl⟩
    | some given =>
      have stops : choice.stopReason = some (StopReason.ofFinishReason given) := by
        rw [Choice.stopReason, isReason, Option.map_some]
      rw [StreamReading.ofChunks_finish first stops]
      exact ⟨rfl, rfl⟩
  | @more body text chunks texts carries rest induction =>
    obtain ⟨choice, first, rfl, continues⟩ := carries
    obtain ⟨sameTexts, sameEnd⟩ := induction
    rw [StreamReading.ofChunks_continue first (Choice.stopReason_eq_none_iff.2 continues)]
    rw [StreamReading.texts_cons, StreamReading.ending_cons, sameTexts, sameEnd]
    exact ⟨rfl, rfl⟩

theorem spoken_empty : Spoken "" := by decide

/-- A trailer is empty. -/
theorem eq_empty_of_mem_trailer {trailer : Bool} :
    ∀ text ∈ if trailer then [""] else [], text = "" := by
  cases trailer <;> simp

namespace CutText

variable (cut : CutText) (trailer : Bool)

/-- The chunks say what the pieces say. -/
theorem flatMap_spokenTexts_chunkTexts :
    (spokenTexts (cut.chunkTexts trailer)).flatMap String.toList = cut.text := by
  have markerSilent :
      spokenTexts (cut.marker.map fun marker => String.ofList marker.text).toList = [] := by
    cases cut.marker <;> simp [spokenTexts, Spoken]
  have trailerSpoken : ∀ text ∈ if trailer then [""] else [], Spoken text := fun text member =>
    eq_empty_of_mem_trailer text member ▸ spoken_empty
  have trailerEmpty : (if trailer then [""] else []).flatMap String.toList = [] :=
    List.flatMap_eq_nil_iff.2 fun text member => by
      rw [eq_empty_of_mem_trailer text member, String.toList_empty]
  rw [chunkTexts, spokenTexts_append, spokenTexts_append, spokenTexts_eq_self cut.spoken,
    markerSilent, List.append_nil, spokenTexts_eq_self trailerSpoken, List.flatMap_append,
    trailerEmpty, List.append_nil]
  rfl

/-- The end marker behind the pieces is the last one among the chunks. -/
theorem lastMarker?_chunkTexts : lastMarker? (cut.chunkTexts trailer) = cut.marker := by
  have silent : lastMarker? (if trailer then [""] else []) = none :=
    lastMarker?_eq_none fun text member => eq_empty_of_mem_trailer text member ▸ spoken_empty
  rw [chunkTexts, List.append_assoc, lastMarker?_append_of_spoken cut.spoken]
  cases cut.marker with
  | none => exact silent
  | some marker =>
    have found : EndMarker.ofText? (String.ofList marker.text).toList = some marker := by simp
    rw [Option.map_some, Option.toList_some, List.singleton_append,
      lastMarker?_cons_marker found, silent]
    rfl

/-- At the end the buffer holds the text, and the end marker is seen if there is one. -/
theorem last_of_texts {chunks : RawStream}
    (sameTexts : (StreamReading.ofChunks chunks).texts = cut.chunkTexts trailer) :
    (ChatStream.last chunks).buffer = cut.text ∧
      (ChatStream.last chunks).seen = cut.marker.map EndMarker.stopReason := by
  rw [ChatStream.last, sameTexts]
  constructor
  · rw [ChatProgress.buffer_pushAll, cut.flatMap_spokenTexts_chunkTexts trailer]
    rfl
  · rw [ChatProgress.seen_pushAll, cut.lastMarker?_chunkTexts trailer]
    exact Option.or_none

end CutText

/-- A call without its identifier. -/
def ToolCall.found (call : ToolCall) : FoundCall :=
  ⟨call.tool, call.arguments⟩

namespace Reply

theorem found_toolCalls_decode (callId : String) (text : List Char) (given : Option StopReason) :
    (decode callId text given).toolCalls.map ToolCall.found =
      (call? (ReplyFrame.ofText text).tagged (ReplyFrame.ofText text).core).toList := by
  rw [decode]
  split <;> next found => rw [found]; rfl

theorem stopReason_decode (callId : String) (text : List Char) (given : Option StopReason) :
    (decode callId text given).stopReason = (ReplyFrame.ofText text).stopReason given := by
  rw [decode]
  split <;> rfl

end Reply

namespace CutReply

variable (reply : CutReply)

/-- The whole reply has the frame of its text, with the end marker. -/
theorem ofText_whole :
    ReplyFrame.ofText reply.whole.toList =
      { ReplyFrame.ofText reply.text with marker := reply.marker } := by
  rw [CutText.whole, String.toList_ofList]
  cases isMarker : reply.marker with
  | none =>
    have unmarked : (ReplyFrame.ofText reply.text).marker = none :=
      ReplyFrame.marker_ofText_eq_none reply.unmarked
    rw [ReplyFrame.markerText, List.append_nil, ← unmarked]
  | some marker =>
    have closed : reply.text.getLast? ≠ some ' ' := reply.closed (by rw [isMarker]; rfl)
    have trimmed : Text.trimEnd (· = ' ') reply.text = reply.text := by
      apply Text.trimEnd_eq_self
      rintro last isLast
      simpa using fun blank => closed (by rw [isLast, blank])
    have unmarked : ReplyFrame.Unmarked reply.text := trimmed ▸ reply.unmarked
    exact ReplyFrame.ofText_append_marker unmarked closed marker

/-- The text decodes to the calls of the whole reply, whatever stop reasons are given. -/
theorem found_toolCalls_decode_text (streamId bodyId : String) (given other : Option StopReason) :
    (Reply.decode streamId reply.text given).toolCalls.map ToolCall.found =
      (Reply.decode bodyId reply.whole.toList other).toolCalls.map ToolCall.found := by
  rw [Reply.found_toolCalls_decode, Reply.found_toolCalls_decode, reply.ofText_whole]

/-- The whole reply stops as its marker says, else as the provider does. -/
theorem stopReason_decode_whole (bodyId : String) :
    reply.stopReason =
      some (Reply.decode bodyId reply.whole.toList reply.reported).stopReason := by
  obtain ⟨stopReason, isStopReason⟩ := Option.isSome_iff_exists.1 reply.isSome_stopReason
  rw [Reply.stopReason_decode, reply.ofText_whole, ReplyFrame.stopReason_eq_getD, isStopReason]
  exact congrArg some (congrArg (Option.getD · _) isStopReason.symm)

end CutReply

/-- Wherever a provider cuts a reply, the streamed chat finds the calls of the whole reply, up to
their identifiers, and it is completed once, with the stop reason of the whole reply. -/
theorem streamed_chat_agrees (reply : CutReply) (trailer : Bool) {chunks : RawStream}
    {body : ProviderBody} (streamed : Delivers reply.reason chunks (reply.chunkTexts trailer))
    (carried : body.Carries reply.whole reply.reason) (streamId bodyId : String) :
    ∃ response, ChatResponse.ofBody bodyId body = .ok response ∧
      (ChatStream.foundCalls (ChatStream.events streamId chunks)).map ToolCall.found =
        response.message.toolCalls.map ToolCall.found ∧
      ChatStream.completions (ChatStream.events streamId chunks) =
        [some response.message.stopReason] := by
  obtain ⟨sameTexts, ends⟩ := streamed.reading
  obtain ⟨buffer, seen⟩ := reply.last_of_texts trailer sameTexts
  obtain ⟨choice, first, content, isReason⟩ := carried
  have response : ChatResponse.ofBody bodyId body =
      .ok ⟨Reply.decode bodyId reply.whole.toList reply.reported, none⟩ := by
    rw [ChatResponse.ofBody, ProviderBody.choice, first, CutText.reported, ← isReason, ← content]
    rfl
  refine ⟨_, response, ?_, ?_⟩
  · rw [ChatStream.foundCalls_events streamId ends, buffer,
      reply.found_toolCalls_decode_text streamId bodyId _ reply.reported]
  · rw [ChatStream.completions_events streamId ends, seen]
    exact congrArg List.singleton (reply.stopReason_decode_whole bodyId)

/-- A search that is cut within its header, its tag and its call, and that asks for a text with an
end marker. -/
def cutSearch : CutReply where
  toCutText := .ended ["  <|start_header_id|>assis", "tant<|end_header_id|>\n\n<|pyth",
    "on_tag|>brave_search.ca", "", "ll(query=\"a<|eot_id|>", " b\")"] .message (some "stop")
    (by decide)
  unmarked := by
    intro marker
    cases marker <;> decide
  closed := by decide

/-- The cut search is found in the stream as in the whole reply. -/
theorem streamed_chat_agrees_cutSearch :
    let items := ChatStream.events "streamed"
      (.ofTexts (some "stop") (cutSearch.chunkTexts true))
    (ChatStream.foundCalls items).map ToolCall.found =
        [⟨.builtin .braveSearch, [("query", .string "a<|eot_id|> b")]⟩] ∧
      ∃ response,
        ChatResponse.ofBody "whole" (.ofText cutSearch.whole (some "stop")) = .ok response ∧
          (ChatStream.foundCalls items).map ToolCall.found =
            response.message.toolCalls.map ToolCall.found ∧
          ChatStream.completions items = [some response.message.stopReason] :=
  ⟨by decide +kernel,
    streamed_chat_agrees cutSearch true (Delivers.ofTexts (some "stop") (by decide))
      (ProviderBody.carries_ofText cutSearch.whole (some "stop")) "streamed" "whole"⟩

end LlamaGateway
