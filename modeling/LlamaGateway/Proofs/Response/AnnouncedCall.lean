import LlamaGateway.Proofs.Reply.CallForms
import LlamaGateway.Proofs.Response.Consumption

/-!
# Announced calls

A streamed chat announces a tool call by the first text that starts with the tag. If nothing but
blanks and a header is said before, the tag is also what decoding takes off the whole text, so that
the call succeeds, at least as code. Behind other words the tag is only a part of the text.
-/

namespace LlamaGateway

namespace RawStream

/-- The texts that are consumed and are no end markers. -/
def spoken (chunks : RawStream) : List String :=
  spokenTexts (chunks.consumed.map Choice.content)

/-- The spoken texts before the first one that starts a tool call. -/
def spokenBeforeCall (chunks : RawStream) : List String :=
  chunks.spoken.takeWhile fun text => ¬ StartsCall text

/-- All spoken texts together. -/
def spokenText (chunks : RawStream) : List Char :=
  chunks.spoken.flatMap String.toList

/-- What a consumed stream is stopped by: the last end marker, else the reported reason. -/
def stopReason? (chunks : RawStream) : Option StopReason :=
  (markedStop (chunks.consumed.map Choice.content)).or chunks.cutReason

end RawStream

/-- A tool call splits the notes at the first text that starts one. -/
theorem SplitAtCall.exists_start {notes said steps : List NotedText}
    (split : SplitAtCall notes said (some steps)) :
    ∃ first, StartsCall first.1 ∧ notes = said ++ first :: steps ∧
      ∀ note ∈ said, ¬ StartsCall note.1 := by
  cases split with
  | start silent starts => exact ⟨_, starts, rfl, silent⟩

namespace RawStream

variable {chunks : RawStream}

/-- The notes of what is consumed. -/
def notes (chunks : RawStream) : List NotedText :=
  noted id none (chunks.consumed.map Choice.content)

theorem map_fst_notes (chunks : RawStream) : chunks.notes.map Prod.fst = chunks.spoken := by
  have spoken := map_fst_noted id none (chunks.consumed.map Choice.content)
  rwa [List.map_id] at spoken

/-- The whole text is what is said before a tool call, the tag, and what follows. -/
theorem spokenText_of_split {said steps : List NotedText}
    (split : SplitAtCall chunks.notes said (some steps)) :
    ∃ rest, chunks.spokenText =
      chunks.spokenBeforeCall.flatMap String.toList ++ (Template.toolTag ++ rest) := by
  obtain ⟨first, starts, notes_eq, silent⟩ := split.exists_start
  have spoken : chunks.spoken = said.map Prod.fst ++ first.1 :: steps.map Prod.fst := by
    rw [← map_fst_notes, notes_eq]
    simp
  have before : chunks.spokenBeforeCall = said.map Prod.fst := by
    have saidSilent : ∀ text ∈ said.map Prod.fst, decide (¬ StartsCall text) = true := by
      simpa using fun words seen member => silent (words, seen) member
    rw [spokenBeforeCall, spoken, List.takeWhile_append_of_pos saidSilent,
      List.takeWhile_cons_of_neg (by simpa using starts), List.append_nil]
  obtain ⟨tail, first_eq⟩ := starts
  refine ⟨tail ++ (steps.map Prod.fst).flatMap String.toList, ?_⟩
  rw [spokenText, before, spoken, List.flatMap_append, List.flatMap_cons, ← first_eq,
    List.append_assoc]

end RawStream

/-- A progress whose text is peeled off a tag has a call as its outcome. -/
theorem ChatProgress.outcome?_of_tagged (callId : String) {progress : ChatProgress}
    {frame : ReplyFrame} (peels : ReplyFrame.Peels progress.buffer frame)
    (tagged : frame.tagged = true) :
    ∃ call, progress.outcome? callId = some (.success call) ∧ call.callId = callId ∧
      Reply.Holds true frame.core (some ⟨call.tool, call.arguments⟩) := by
  obtain ⟨found, holds⟩ := Reply.exists_holds_of_tagged frame.core
  have calls : (Reply.decode callId progress.buffer progress.seen).toolCalls =
      [⟨callId, found.tool, found.arguments⟩] :=
    (Reply.toolCalls_decode_eq_iff peels callId progress.seen (some found)).2 (tagged ▸ holds)
  refine ⟨⟨callId, found.tool, found.arguments⟩, ?_, rfl, holds⟩
  rw [outcome?, calls]

/-- An unbroken stream is delivered as the transcript of its notes, with the outcome of all that is
spoken. -/
theorem ChatStream.exists_transcript (callId : String) {chunks : RawStream}
    (unbroken : chunks.Unbroken) :
    ∃ (transcript : ChatTranscript) (final : ChatProgress),
      events callId chunks = transcript.items ∧
        SplitAtCall chunks.notes transcript.said transcript.tool ∧
        transcript.ending = .ok ⟨final.outcome? callId, chunks.stopReason?⟩ ∧
        final.buffer = chunks.spokenText := by
  have reading := StreamReading.ofChunks_of_unbroken unbroken
  obtain ⟨said, tool, split, emits, mode⟩ :=
    ChatProgress.start.emitted_split (chunks.consumed.map Choice.content) rfl
  obtain ⟨buffer, seen⟩ :=
    ChatProgress.pushAll_start (chunks.consumed.map Choice.content)
  have settled := ChatProgress.chatEnding_ofReported callId
    (ChatProgress.start.pushAll (chunks.consumed.map Choice.content)) chunks.cutReason
  refine ⟨ChatProgress.transcript callId _ (.ofReported chunks.cutReason) said tool mode, _,
    ?_, split, settled.trans (by rw [seen]; rfl), ?_⟩
  · rw [events_eq, reading, ChatProgress.ended_eq]
    dsimp only [StreamReading.texts]
    rw [emits]
    rfl
  · rw [ChatProgress.settle, buffer, RawStream.spokenText, ← RawStream.map_fst_notes,
      List.flatMap_map]
    rfl

/-- A tool call that is announced behind blanks and at most a header succeeds once and does not
fail. The call is one that is written in the whole text, peeled of blanks, header, tag and at most
one end marker, or else the rest is its code. -/
theorem announced_call_succeeds (callId : String) {chunks : RawStream} {blanks : List Char}
    {headed : Bool} (unbroken : chunks.Unbroken)
    (started : .tool .started ∈ (ChatStream.events callId chunks).map ChatItemKind.ofItem)
    (blank : ∀ c ∈ blanks, c = ' ')
    (lead : chunks.spokenBeforeCall.flatMap String.toList =
      blanks ++ ReplyFrame.leadText Template.assistantHeader headed) :
    ∃ (transcript : ChatTranscript) (call : ToolCall) (core : List Char)
      (marker : Option EndMarker),
      ChatStream.events callId chunks = transcript.items ∧ transcript.tool.isSome ∧
        transcript.ending = .ok ⟨some (.success call), chunks.stopReason?⟩ ∧
        (transcript.items.map ChatItemKind.ofItem).count (.tool .success) = 1 ∧
        .tool .failure ∉ transcript.items.map ChatItemKind.ofItem ∧
        ReplyFrame.Peels chunks.spokenText ⟨headed, true, core, marker⟩ ∧
        call.callId = callId ∧ Reply.Holds true core (some ⟨call.tool, call.arguments⟩) := by
  obtain ⟨transcript, final, items, split, ending, buffer⟩ :=
    ChatStream.exists_transcript callId unbroken
  rw [items, transcript.started_mem_kinds_iff] at started
  obtain ⟨steps, isTool⟩ := Option.isSome_iff_exists.1 started
  -- The buffered text is the lead, the tag and some rest, so that trimming stops at the tag.
  obtain ⟨rest, whole⟩ := RawStream.spokenText_of_split (isTool ▸ split)
  rw [lead, List.append_assoc] at whole
  obtain ⟨core, marker, peels⟩ := ReplyFrame.peels_announced blank headed rest
  rw [← whole] at peels
  obtain ⟨call, succeeds, identifier, holds⟩ :=
    ChatProgress.outcome?_of_tagged callId (buffer ▸ peels) rfl
  rw [succeeds] at ending
  refine ⟨transcript, call, core, marker, items, started, ending, ?_, ?_, peels, identifier, holds⟩
  · rw [transcript.count_outcome_kinds (.inr rfl), ending]
    rfl
  · rw [transcript.failure_mem_kinds_iff, ending]
    simp

/-- Code that is announced behind blanks, a header in two pieces and an end marker, with another end
marker behind a blank and an error behind the finish reason. -/
def headedCodeStream : RawStream :=
  [.ok (.ofText "  <|start_header_id|>assis" none), .ok (.ofText "tant<|end_header_id|>\n\n" none),
    .ok (.ofText "<|eom_id|>" none), .ok (.ofText "<|python_tag|>pri" none), .ok ⟨none, []⟩,
    .ok (.ofText "nt(1) <|eot_id|>" none), .ok (.ofText " " (some "stop")),
    .error (.streaming "late")]

/-- The code of the headed stream is the text between the tag and the end marker. -/
theorem announced_call_succeeds_headedCode :
    headedCodeStream.Unbroken ∧
      .tool .started ∈ (ChatStream.events "first" headedCodeStream).map ChatItemKind.ofItem ∧
      headedCodeStream.spokenBeforeCall.flatMap String.toList =
        [' ', ' '] ++ ReplyFrame.leadText Template.assistantHeader true ∧
      ∃ transcript : ChatTranscript,
        ChatStream.events "first" headedCodeStream = transcript.items ∧
          transcript.ending = .ok ⟨some (.success ⟨"first", .builtin .codeInterpreter,
            [("code", .string "print(1) ")]⟩), some .endOfMessage⟩ := by
  have finished : (StreamReading.ofChunks headedCodeStream).ending = .finished .endOfTurn := by
    decide
  have unbroken := RawStream.unbroken_of_finished finished
  have started : .tool .started ∈
      (ChatStream.events "first" headedCodeStream).map ChatItemKind.ofItem := by
    decide +kernel
  have blank : ∀ c ∈ [' ', ' '], c = ' ' := by simp
  have lead : headedCodeStream.spokenBeforeCall.flatMap String.toList =
      [' ', ' '] ++ ReplyFrame.leadText Template.assistantHeader true := by
    decide
  have frame : ReplyFrame.ofText headedCodeStream.spokenText =
      ⟨true, true, "print(1) ".toList, some .turn⟩ := by
    decide
  have code : Reply.call? true "print(1) ".toList =
      some ⟨.builtin .codeInterpreter, [("code", .string "print(1) ")]⟩ := by
    decide +kernel
  have stop : headedCodeStream.stopReason? = some .endOfMessage := by
    decide
  obtain ⟨transcript, ⟨callId, tool, arguments⟩, core, marker, items, -, ending, -, -, peels,
    rfl, holds⟩ := announced_call_succeeds "first" unbroken started blank lead
  rw [← ReplyFrame.ofText_eq_iff, frame] at peels
  cases peels
  rw [← Reply.call?_eq_iff, code] at holds
  cases holds
  exact ⟨unbroken, started, lead, transcript, items, stop ▸ ending⟩

end LlamaGateway
