import LlamaGateway.Proofs.Response.ChatResult
import LlamaGateway.Proofs.Response.CompletionAgreement
import LlamaGateway.Proofs.Response.StreamAgreement

/-!
# Consumed choices

A stream without an error before its cut is consumed up to the first choice with a finish reason,
that one included. Which choices these are is told from the list of chunks alone.

A streamed completion delivers every consumed choice that is no end marker, one item each, and one
closing item. A streamed chat delivers the spoken texts it consumes, each once and in order: as text
before the first one that starts a tool call, and as steps of the call behind it.
-/

namespace LlamaGateway

namespace RawStream

/-- The choices of a stream's chunks, in order. -/
def choices (chunks : RawStream) : List Choice :=
  chunks.filterMap fun
    | .ok body => body.firstChoice?
    | .error _ => none

/-- The choices up to the first one with a finish reason, that one included. -/
def consumed (chunks : RawStream) : List Choice :=
  chunks.choices.takeWhile (·.finishReason.isNone) ++
    (chunks.choices.dropWhile (·.finishReason.isNone)).head?.toList

/-- The stop reason that the cut reports: none if the stream just ends. -/
def cutReason (chunks : RawStream) : Option StopReason :=
  chunks.consumed.getLast?.bind Choice.stopReason

/-- No error comes before the cut. -/
def Unbroken (chunks : RawStream) : Prop :=
  ∀ failure, ¬ BrokenBy failure chunks

variable {body : ProviderBody} {choice : Choice} {reported : StopReason} {rest : RawStream}

theorem consumed_skip (empty : body.firstChoice? = none) :
    consumed (.ok body :: rest) = consumed rest := by
  simp [consumed, choices, empty]

theorem consumed_finish (first : body.firstChoice? = some choice)
    (stops : choice.stopReason = some reported) : consumed (.ok body :: rest) = [choice] := by
  have finishes : choice.finishReason ≠ none := by
    intro continues
    rw [Choice.stopReason_eq_none_iff.2 continues] at stops
    cases stops
  simp [consumed, choices, first, finishes]

theorem consumed_continue (first : body.firstChoice? = some choice)
    (continues : choice.stopReason = none) :
    consumed (.ok body :: rest) = choice :: consumed rest := by
  have unfinished : choice.finishReason = none := Choice.stopReason_eq_none_iff.1 continues
  simp [consumed, choices, first, unfinished]

/-- A choice without a finish reason leaves the cut to those behind it. -/
theorem cutReason_continue (first : body.firstChoice? = some choice)
    (continues : choice.stopReason = none) :
    cutReason (.ok body :: rest) = cutReason rest := by
  rw [cutReason, consumed_continue first continues, List.getLast?_cons, cutReason]
  cases rest.consumed.getLast? with
  | none => exact continues
  | some last => rfl

theorem Unbroken.tail {body : ProviderBody} (unbroken : Unbroken (.ok body :: rest))
    (goesOn : GoesOn (.ok body)) : Unbroken rest := by
  intro failure breaks
  exact unbroken failure ((BrokenBy.cons_iff_of_goesOn goesOn).2 breaks)

theorem unbroken_of_finished {chunks : RawStream}
    (finished : (StreamReading.ofChunks chunks).ending = .finished reported) :
    chunks.Unbroken := by
  intro failure breaks
  rw [← StreamReading.ending_eq_broken_iff, finished] at breaks
  cases breaks

end RawStream

/-- What is read of a stream without an error before its cut is what it is consumed to. -/
theorem StreamReading.ofChunks_of_unbroken {chunks : RawStream} (unbroken : chunks.Unbroken) :
    ofChunks chunks = ⟨chunks.consumed, .ofReported chunks.cutReason⟩ := by
  induction chunks with
  | nil => rfl
  | cons item rest induction =>
    cases item with
    | error failure =>
      exact absurd (BrokenBy.error_cons_iff.2 rfl) (unbroken failure)
    | ok body =>
      cases first : body.firstChoice? with
      | none =>
        have later := induction (unbroken.tail ⟨body, rfl, by simp [first]⟩)
        rw [ofChunks_skip first, later, RawStream.cutReason, RawStream.cutReason,
          RawStream.consumed_skip first]
      | some choice =>
        cases stops : choice.stopReason with
        | some reported =>
          have reports : RawStream.cutReason (.ok body :: rest) = some reported := by
            rw [RawStream.cutReason, RawStream.consumed_finish first stops]
            exact stops
          rw [ofChunks_finish first stops, RawStream.consumed_finish first stops, reports]
          rfl
        | none =>
          have goesOn : GoesOn (.ok body) := by
            refine ⟨body, rfl, fun other same => ?_⟩
            obtain rfl : choice = other := Option.some.inj (first.symm.trans same)
            exact Choice.stopReason_eq_none_iff.1 stops
          have later := induction (unbroken.tail goesOn)
          rw [ofChunks_continue first stops, later, RawStream.consumed_continue first stops,
            RawStream.cutReason_continue first stops]
          rfl

/-- The outcomes of a tool call whose text decodes to some calls: these calls, or a failure if one
was started and none is found. -/
def toolOutcomes (started : Bool) (calls : List ToolCall) : List ToolOutcome :=
  if started ∧ calls = [] then [.failure] else calls.map .success

namespace ChatProgress

theorem toList_outcome? (callId : String) (progress : ChatProgress) :
    (progress.outcome? callId).toList =
      toolOutcomes progress.inToolCall
        (Reply.decode callId progress.buffer progress.seen).toolCalls := by
  rw [outcome?, toolOutcomes]
  rcases Reply.toolCalls_decode callId progress.buffer progress.seen with none_eq | ⟨call, one_eq⟩
  · rw [none_eq]
    cases progress.inToolCall <;> rfl
  · rw [one_eq]
    cases progress.inToolCall <;> rfl

/-- The end of an unbroken chat is that of the settled progress. -/
theorem chatEnding_ofReported (callId : String) (progress : ChatProgress)
    (reported : Option StopReason) :
    progress.chatEnding callId (.ofReported reported) =
      .ok ⟨(progress.settle reported).outcome? callId, progress.seen.or reported⟩ := by
  cases reported with
  | none => simp [chatEnding, StreamEnd.ofReported, settle]
  | some reason =>
    rw [StreamEnd.ofReported, chatEnding, finish, settle]
    cases progress.seen <;> rfl

/-- What the buffer holds and which end marker is seen after some texts from the start. -/
theorem pushAll_start (texts : List String) :
    (start.pushAll texts).buffer = (noted id none texts).flatMap (fun note => note.1.toList) ∧
      (start.pushAll texts).seen = markedStop texts := by
  constructor
  · have spoken := map_fst_noted id none texts
    rw [buffer_pushAll, ← List.map_id texts, ← spoken, List.flatMap_map, List.map_id]
    rfl
  · rw [seen_pushAll]
    exact Option.or_none

end ChatProgress

/-- A streamed chat without an error before its cut is delivered as the transcript of the spoken
texts that are consumed, each with the stop reason of the last end marker before it. A tool call has
the outcome of decoding all these texts together, and the closing events have the stop reason of the
last end marker, else the reported one. -/
theorem chat_stream_keeps_texts (callId : String) {chunks : RawStream}
    (unbroken : chunks.Unbroken) :
    let texts := chunks.consumed.map Choice.content
    let notes : List NotedText := noted id none texts
    let stop := (markedStop texts).or chunks.cutReason
    let whole := notes.flatMap fun note => note.1.toList
    ∃ transcript : ChatTranscript,
      ChatStream.events callId chunks = transcript.items ∧
        SplitAtCall notes transcript.said transcript.tool ∧
        ∃ outcome, transcript.ending = .ok ⟨outcome, stop⟩ ∧
          outcome.toList =
            toolOutcomes transcript.tool.isSome (Reply.decode callId whole stop).toolCalls := by
  intro texts notes stop whole
  have reading := StreamReading.ofChunks_of_unbroken unbroken
  obtain ⟨said, tool, split, emits, mode⟩ := ChatProgress.start.emitted_split texts rfl
  obtain ⟨buffer, seen⟩ := ChatProgress.pushAll_start texts
  have settled := ChatProgress.chatEnding_ofReported callId (ChatProgress.start.pushAll texts)
    chunks.cutReason
  refine ⟨ChatProgress.transcript callId _ (.ofReported chunks.cutReason) said tool mode,
    ?_, split, _, settled.trans (by rw [seen]), ?_⟩
  · rw [ChatStream.events_eq, reading, ChatProgress.ended_eq]
    dsimp only [StreamReading.texts]
    rw [emits]
    rfl
  · rw [ChatProgress.toList_outcome?, ChatProgress.settle]
    dsimp only
    rw [buffer, seen, mode]
    rfl

/-- A search that is announced behind a text and an end marker and cut within its query, with a
chunk without choices between the pieces and an error behind the finish reason. -/
def cutSearchStream : RawStream :=
  [.ok (.ofText "Hi" none), .ok (.ofText "<|eot_id|>" none),
    .ok (.ofText "<|python_tag|>brave_search.call(query=\"a" none), .ok ⟨none, []⟩,
    .ok (.ofText " b\")" none), .ok (.ofText "<|eom_id|>" (some "stop")),
    .error (.streaming "late")]

theorem chat_stream_keeps_texts_cutSearchStream :
    cutSearchStream.Unbroken ∧
      ∃ transcript : ChatTranscript,
        ChatStream.events "first" cutSearchStream = transcript.items ∧
          SplitAtCall
            [("Hi", none), ("<|python_tag|>brave_search.call(query=\"a", some .endOfTurn),
              (" b\")", some .endOfTurn)]
            transcript.said transcript.tool ∧
          ∃ outcome, transcript.ending = .ok ⟨outcome, some .endOfMessage⟩ ∧
            outcome.toList =
              [.success ⟨"first", .builtin .braveSearch, [("query", .string "a b")]⟩] := by
  have finished : (StreamReading.ofChunks cutSearchStream).ending = .finished .endOfTurn := by
    decide
  have unbroken := RawStream.unbroken_of_finished finished
  have notes : noted id none (cutSearchStream.consumed.map Choice.content) =
      [("Hi", none), ("<|python_tag|>brave_search.call(query=\"a", some .endOfTurn),
        (" b\")", some .endOfTurn)] := by
    decide
  have whole : (noted id none (cutSearchStream.consumed.map Choice.content)).flatMap
      (fun note => note.1.toList) = "Hi<|python_tag|>brave_search.call(query=\"a b\")".toList := by
    decide
  have stop : (markedStop (cutSearchStream.consumed.map Choice.content)).or
      cutSearchStream.cutReason = some .endOfMessage := by
    decide
  have calls : (Reply.decode "first"
      "Hi<|python_tag|>brave_search.call(query=\"a b\")".toList (some .endOfMessage)).toolCalls =
        [⟨"first", .builtin .braveSearch, [("query", .string "a b")]⟩] := by
    decide +kernel
  obtain ⟨transcript, items, split, outcome, ending, outcomes⟩ :=
    chat_stream_keeps_texts "first" unbroken
  rw [notes] at split
  rw [stop] at ending
  rw [whole, stop, toolOutcomes, calls] at outcomes
  exact ⟨unbroken, transcript, items, split, outcome, ending, by simpa using outcomes⟩

namespace CompletionStream

/-- The pieces of some choices are those that are noted. -/
theorem pieces_eq_noted (seen : Option StopReason) (choices : List Choice) :
    pieces seen choices =
      (noted Choice.content seen choices).map fun (choice, seen) =>
        ⟨choice.content, seen, choice.tokenLogProbs⟩ := by
  induction choices generalizing seen with
  | nil => rfl
  | cons choice choices induction =>
    rw [pieces, induction]
    cases isMarker : EndMarker.ofText? choice.content.toList with
    | some marker =>
      have swallowed : piece? seen choice = none := by simp [piece?, isMarker]
      have remembered : seenAfter seen choice = some marker.stopReason := by
        simp [seenAfter, isMarker]
      rw [swallowed, remembered, noted_cons_marker Choice.content isMarker]
      rfl
    | none =>
      have delivered :
          piece? seen choice = some ⟨choice.content, seen, choice.tokenLogProbs⟩ := by
        simp [piece?, isMarker]
      have unchanged : seenAfter seen choice = seen := by simp [seenAfter, isMarker]
      rw [delivered, unchanged, noted_cons_spoken Choice.content isMarker]
      rfl

end CompletionStream

/-- A streamed completion without an error before its cut delivers the spoken choices that are
consumed, each with its candidates and the stop reason of the last end marker before it, and then
one empty item with the stop reason of the last end marker at all, else the reported one. -/
theorem completion_stream_keeps_choices {chunks : RawStream} (unbroken : chunks.Unbroken) :
    CompletionStream.events chunks =
      ((noted Choice.content none chunks.consumed).map fun (choice, seen) =>
          .ok ⟨choice.content, seen,
            (choice.logProbs.bind ChoiceLogProbs.positions).map fun positions =>
              positions.map TokenLogProbs.mk⟩) ++
        [.ok ⟨"", (markedStop (chunks.consumed.map Choice.content)).or chunks.cutReason,
          none⟩] := by
  have reading := StreamReading.ofChunks_of_unbroken unbroken
  have seen := CompletionStream.seenAfterAll_eq none chunks.consumed
  rw [Option.or_none] at seen
  rw [CompletionStream.events_eq, reading]
  dsimp only
  rw [CompletionStream.lastItem_ofReported, seen, CompletionStream.pieces_eq_noted, List.map_map]
  rfl

/-- A completion with candidates, an end marker in front of an empty text, a chunk without choices,
and an end marker that carries the finish reason in front of an error. -/
def markedStream : RawStream :=
  [.ok ⟨none, [⟨0, some "a", none, none, none,
      some ⟨some [[("a", .finite true 1 0), ("b", .finite true 2 0)], []]⟩⟩]⟩,
    .ok (.ofText "<|eom_id|>" none), .ok ⟨none, []⟩, .ok (.ofText "" none),
    .ok (.ofText "<|eot_id|>" (some "length")), .error (.streaming "late"),
    .ok (.ofText "unread" none)]

theorem completion_stream_keeps_choices_markedStream :
    markedStream.Unbroken ∧
      CompletionStream.events markedStream =
        [.ok ⟨"a", none,
            some [⟨[("a", .finite true 1 0), ("b", .finite true 2 0)]⟩, ⟨[]⟩]⟩,
          .ok ⟨"", some .endOfMessage, none⟩, .ok ⟨"", some .endOfTurn, none⟩] := by
  have finished : (StreamReading.ofChunks markedStream).ending = .finished .outOfTokens := by
    decide
  have unbroken := RawStream.unbroken_of_finished finished
  refine ⟨unbroken, (completion_stream_keeps_choices unbroken).trans ?_⟩
  decide

end LlamaGateway
