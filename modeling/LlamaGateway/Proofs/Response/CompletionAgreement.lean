import LlamaGateway.Proofs.Response.StreamReading
import LlamaGateway.Proofs.Response.StreamAgreement

/-!
# Streamed and whole completions

A streamed completion swallows an end marker that comes as a chunk of its own, while a completion
that is not streamed takes it off the end of the text. Wherever the provider cuts the text, both
say the same and stop for the same reason.
-/

namespace LlamaGateway

/-- A completion as a provider cuts it. -/
structure CutCompletion extends CutText where
  /-- Without an end marker of its own the text does not end with one. -/
  unmarked : marker = none → ReplyFrame.Unmarked (pieces.flatMap String.toList)

namespace CompletionStream

/-- The pieces of a streamed completion are its spoken texts. -/
theorem delta_pieces (seen : Option StopReason) (choices : List Choice) :
    (pieces seen choices).map CompletionChunk.delta =
      spokenTexts (choices.map Choice.content) := by
  induction choices generalizing seen with
  | nil => rfl
  | cons choice choices induction =>
    rw [pieces, List.map_append, induction]
    cases isMarker : EndMarker.ofText? choice.content.toList with
    | some marker => simp [piece?, spokenTexts, Spoken, isMarker]
    | none => simp [piece?, spokenTexts, Spoken, isMarker]

/-- The stop reason seen after some choices is that of the last end marker, or the one before. -/
theorem seenAfterAll_eq (seen : Option StopReason) (choices : List Choice) :
    seenAfterAll seen choices =
      ((lastMarker? (choices.map Choice.content)).map EndMarker.stopReason).or seen := by
  induction choices generalizing seen with
  | nil => simp [seenAfterAll, lastMarker?]
  | cons choice choices induction =>
    rw [seenAfterAll, List.foldl_cons, ← seenAfterAll, induction, List.map_cons]
    cases isMarker : EndMarker.ofText? choice.content.toList with
    | some marker =>
      rw [lastMarker?_cons_marker isMarker, seenAfter, isMarker]
      cases lastMarker? (choices.map Choice.content) <;> simp
    | none => rw [lastMarker?_cons_spoken isMarker, seenAfter, isMarker]

/-- A stream that is not broken closes with the stop reason seen, else with the reported one. -/
theorem lastItem_ofReported (seen reported : Option StopReason) :
    lastItem seen (.ofReported reported) = .ok (closing (seen.or reported)) := by
  cases seen <;> cases reported <;> rfl

/-- What an unbroken stream says, and how it closes, are known from its texts. -/
theorem exists_delivered {chunks : RawStream} {reported : Option StopReason}
    (ends : (StreamReading.ofChunks chunks).ending = .ofReported reported) :
    ∃ delivered : List CompletionChunk, events chunks = delivered.map .ok ∧
      delivered.map CompletionChunk.delta =
        spokenTexts (StreamReading.ofChunks chunks).texts ++ [""] ∧
      delivered.getLast?.map CompletionChunk.stopReason =
        some (((lastMarker? (StreamReading.ofChunks chunks).texts).map EndMarker.stopReason).or
          reported) := by
  refine ⟨pieces none (StreamReading.ofChunks chunks).choices ++
    [closing ((seenAfterAll none (StreamReading.ofChunks chunks).choices).or reported)], ?_, ?_, ?_⟩
  · rw [events_eq, ends, lastItem_ofReported, List.map_append]
    rfl
  · rw [List.map_append, delta_pieces]
    rfl
  · rw [List.getLast?_append, seenAfterAll_eq, Option.or_none]
    rfl

end CompletionStream

namespace ReplyFrame

/-- The marker that ends a text is taken off alone, and nothing is taken off an unmarked text. -/
theorem takeMarker_append_markerText {text : List Char} {marker : Option EndMarker}
    (unmarked : marker = none → Unmarked text) :
    takeMarker (text ++ markerText marker) = (text, marker) := by
  cases marker with
  | some marker => exact takeMarker_append_text text marker
  | none =>
    -- A marker that is taken off would stand at the end of the text.
    have parts := eq_append_of_takeMarker text
    rw [markerText, List.append_nil]
    cases taken : (takeMarker text).2 with
    | none =>
      rw [taken, markerText, List.append_nil] at parts
      exact Prod.ext parts.symm taken
    | some marker =>
      rw [taken, markerText] at parts
      exact absurd ⟨_, parts.symm⟩ (unmarked rfl marker)

end ReplyFrame

/-- The events of a streamed completion tell a response. -/
structure TellsResponse (delivered : List CompletionChunk) (response : CompletionResponse) :
    Prop where
  /-- Together they say its content. -/
  content : String.join (delivered.map CompletionChunk.delta) = response.content
  /-- The last one has its stop reason. -/
  stopReason : delivered.getLast?.map CompletionChunk.stopReason = some (some response.stopReason)

namespace CutCompletion

variable (completion : CutCompletion)

/-- The response to the whole completion. -/
theorem response_of_carries {body : ProviderBody}
    (carried : body.Carries completion.whole completion.reason) :
    ∃ response, CompletionResponse.ofBody body = .ok response ∧
      response.content = String.ofList completion.text ∧
      completion.stopReason = some response.stopReason := by
  obtain ⟨choice, first, content, isReason⟩ := carried
  have known := completion.isSome_stopReason
  refine ⟨.ofChoice choice, by rw [CompletionResponse.ofBody, ProviderBody.choice, first]; rfl, ?_⟩
  have taken : ReplyFrame.takeMarker choice.content.toList =
      (completion.text, completion.marker) := by
    rw [content, CutText.whole, String.toList_ofList]
    exact ReplyFrame.takeMarker_append_markerText completion.unmarked
  have stops : choice.stopReason = completion.reported := by
    rw [Choice.stopReason, isReason, CutText.reported]
  rw [CompletionResponse.ofChoice, taken, stops]
  refine ⟨rfl, ?_⟩
  rw [CutText.stopReason] at known ⊢
  cases marked : completion.marker with
  | some marker => rfl
  | none =>
    rw [marked] at known
    obtain ⟨reason, isReported⟩ := Option.isSome_iff_exists.1 known
    simp at isReported
    simp [isReported]

/-- Wherever the provider cuts a completion, the stream is not broken and tells the response to the
whole. -/
theorem exists_tellsResponse (trailer : Bool) {chunks : RawStream} {body : ProviderBody}
    (streamed : Delivers completion.reason chunks (completion.chunkTexts trailer))
    (carried : body.Carries completion.whole completion.reason) :
    ∃ delivered response, CompletionStream.events chunks = delivered.map .ok ∧
      CompletionResponse.ofBody body = .ok response ∧ TellsResponse delivered response := by
  obtain ⟨sameTexts, ends⟩ := streamed.reading
  obtain ⟨delivered, isEvents, deltas, stops⟩ := CompletionStream.exists_delivered ends
  obtain ⟨response, isResponse, content, stopReason⟩ := completion.response_of_carries carried
  rw [sameTexts] at deltas stops
  refine ⟨delivered, response, isEvents, isResponse, ?_, ?_⟩
  · rw [deltas, content, ← String.toList_inj, String.toList_join, List.flatMap_append,
      completion.flatMap_spokenTexts_chunkTexts trailer, String.toList_ofList]
    simp
  · rw [stops, completion.lastMarker?_chunkTexts trailer, ← stopReason]
    rfl

end CutCompletion

end LlamaGateway
