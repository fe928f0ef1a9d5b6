import LlamaGateway.Response.Stream

/-!
# What is read of a stream

A stream is read chunk by chunk up to a finish reason, an error or its end. Separating what is read
from what is made of it turns a streamed chat into two parts: the events of the texts that were
read, and the closing events of the progress after all of them. The items of a streamed completion
are the pieces of the choices that are read, and one last item: the closing event or the error that
broke the stream.
-/

namespace LlamaGateway

/-- How the reading of a stream ends. -/
inductive StreamEnd where
  /-- No chunk is left. -/
  | exhausted
  /-- The provider reported why it stopped. -/
  | finished (reported : StopReason)
  /-- An error came in place of a chunk. -/
  | broken (failure : InferenceError)
deriving DecidableEq, Repr

/-- What is read of a stream. -/
structure StreamReading where
  /-- The choices that count, in order. -/
  choices : List Choice
  /-- How the reading ends. -/
  ending : StreamEnd

namespace StreamReading

/-- The reading with one more choice in front. -/
def cons (choice : Choice) (reading : StreamReading) : StreamReading :=
  ⟨choice :: reading.choices, reading.ending⟩

/-- The reading of a stream; nothing behind a finish reason or an error is read. -/
def ofChunks : RawStream → StreamReading
  | [] => ⟨[], .exhausted⟩
  | .error failure :: _ => ⟨[], .broken failure⟩
  | .ok body :: rest =>
    match body.firstChoice? with
    | none => ofChunks rest
    | some choice =>
      match choice.stopReason with
      | some reported => ⟨[choice], .finished reported⟩
      | none => (ofChunks rest).cons choice

/-- The texts of the choices. -/
def texts (reading : StreamReading) : List String :=
  reading.choices.map Choice.content

@[simp] theorem texts_cons (choice : Choice) (reading : StreamReading) :
    (reading.cons choice).texts = choice.content :: reading.texts := rfl

@[simp] theorem ending_cons (choice : Choice) (reading : StreamReading) :
    (reading.cons choice).ending = reading.ending := rfl

theorem ofChunks_skip {body : ProviderBody} (empty : body.firstChoice? = none)
    (rest : RawStream) : ofChunks (.ok body :: rest) = ofChunks rest := by
  simp [ofChunks, empty]

theorem ofChunks_finish {body : ProviderBody} {choice : Choice} {reported : StopReason}
    (first : body.firstChoice? = some choice) (stops : choice.stopReason = some reported)
    (rest : RawStream) : ofChunks (.ok body :: rest) = ⟨[choice], .finished reported⟩ := by
  simp [ofChunks, first, stops]

theorem ofChunks_continue {body : ProviderBody} {choice : Choice}
    (first : body.firstChoice? = some choice) (continues : choice.stopReason = none)
    (rest : RawStream) : ofChunks (.ok body :: rest) = (ofChunks rest).cons choice := by
  simp [ofChunks, first, continues]

end StreamReading

theorem Choice.stopReason_eq_none_iff {choice : Choice} :
    choice.stopReason = none ↔ choice.finishReason = none := by
  simp [Choice.stopReason]

/-- An item that does not end the reading: a chunk whose first choice, if it has one, comes without
a finish reason. -/
def GoesOn (item : Except InferenceError ProviderBody) : Prop :=
  ∃ body, item = .ok body ∧
    ∀ choice, body.firstChoice? = some choice → choice.finishReason = none

/-- The error comes before any chunk with a finish reason and before any other error. -/
def BrokenBy (failure : InferenceError) (chunks : RawStream) : Prop :=
  ∃ earlier later, chunks = earlier ++ .error failure :: later ∧ ∀ item ∈ earlier, GoesOn item

namespace BrokenBy

variable {failure other : InferenceError} {item : Except InferenceError ProviderBody}
  {rest : RawStream}

theorem not_nil : ¬ BrokenBy failure [] := by
  rintro ⟨earlier, later, whole, -⟩
  simp at whole

theorem error_cons_iff : BrokenBy failure (.error other :: rest) ↔ other = failure := by
  constructor
  · rintro ⟨earlier, later, whole, goOn⟩
    cases earlier with
    | nil => simpa using congrArg List.head? whole
    | cons item earlier =>
      obtain ⟨same, -⟩ := List.cons.inj whole
      obtain ⟨body, isBody, -⟩ := goOn item (by simp)
      simp [← same] at isBody
  · rintro rfl
    exact ⟨[], rest, rfl, by simp⟩

theorem cons_iff_of_goesOn (goesOn : GoesOn item) :
    BrokenBy failure (item :: rest) ↔ BrokenBy failure rest := by
  constructor
  · rintro ⟨earlier, later, whole, goOn⟩
    cases earlier with
    | nil =>
      obtain ⟨rfl, -⟩ := List.cons.inj whole
      obtain ⟨body, isBody, -⟩ := goesOn
      cases isBody
    | cons first earlier =>
      obtain ⟨-, whole⟩ := List.cons.inj whole
      exact ⟨earlier, later, whole, fun item member => goOn item (by simp [member])⟩
  · rintro ⟨earlier, later, rfl, goOn⟩
    refine ⟨item :: earlier, later, rfl, fun next member => ?_⟩
    rcases List.mem_cons.1 member with rfl | member
    · exact goesOn
    · exact goOn next member

theorem not_cons_ok_of_not_goesOn {body : ProviderBody} (stops : ¬ GoesOn (.ok body)) :
    ¬ BrokenBy failure (.ok body :: rest) := by
  rintro ⟨earlier, later, whole, goOn⟩
  cases earlier with
  | nil => simp at whole
  | cons first earlier =>
    obtain ⟨rfl, -⟩ := List.cons.inj whole
    exact stops (goOn _ (by simp))

end BrokenBy

/-- The reading is broken exactly by an error that is met. -/
theorem StreamReading.ending_eq_broken_iff {chunks : RawStream} {failure : InferenceError} :
    (ofChunks chunks).ending = .broken failure ↔ BrokenBy failure chunks := by
  induction chunks with
  | nil => simpa [ofChunks] using BrokenBy.not_nil
  | cons item rest induction =>
    cases item with
    | error other => simp [ofChunks, BrokenBy.error_cons_iff]
    | ok body =>
      cases first : body.firstChoice? with
      | none =>
        have goesOn : GoesOn (.ok body) := ⟨body, rfl, by simp [first]⟩
        rw [ofChunks_skip first, BrokenBy.cons_iff_of_goesOn goesOn, induction]
      | some choice =>
        cases stops : choice.stopReason with
        | none =>
          have goesOn : GoesOn (.ok body) := by
            refine ⟨body, rfl, fun other same => ?_⟩
            obtain rfl : choice = other := Option.some.inj (first.symm.trans same)
            exact Choice.stopReason_eq_none_iff.1 stops
          rw [ofChunks_continue first stops, ending_cons, BrokenBy.cons_iff_of_goesOn goesOn,
            induction]
        | some reported =>
          have halts : ¬ GoesOn (.ok body) := by
            rintro ⟨same, isBody, goes⟩
            cases isBody
            rw [Choice.stopReason_eq_none_iff.2 (goes choice first)] at stops
            cases stops
          rw [ofChunks_finish first stops]
          simpa using BrokenBy.not_cons_ok_of_not_goesOn halts

namespace ChatProgress

/-- The progress after some texts. -/
def pushAll (progress : ChatProgress) (texts : List String) : ChatProgress :=
  texts.foldl push progress

/-- The events for some texts. -/
def emitted (progress : ChatProgress) : List String → List ChatEvent
  | [] => []
  | text :: texts => (progress.event? text).toList ++ (progress.push text).emitted texts

/-- The last items of a stream: closing events, or the error that broke it. -/
def ended (callId : String) (progress : ChatProgress) : StreamEnd → EventStream ChatChunk
  | .exhausted => ChatStream.deliver (progress.closing callId)
  | .finished reported => ChatStream.deliver ((progress.finish reported).closing callId)
  | .broken failure => [.error failure]

@[simp] theorem pushAll_nil (progress : ChatProgress) : progress.pushAll [] = progress := rfl

@[simp] theorem pushAll_cons (progress : ChatProgress) (text : String) (texts : List String) :
    progress.pushAll (text :: texts) = (progress.push text).pushAll texts := rfl

end ChatProgress

namespace ChatStream

theorem deliver_append (events more : List ChatEvent) :
    deliver (events ++ more) = deliver events ++ deliver more :=
  List.map_append

/-- The items of a streamed chat: the events of the texts that are read, then the last items. -/
theorem eventsFrom_eq (callId : String) (progress : ChatProgress) (chunks : RawStream) :
    eventsFrom callId progress chunks =
      deliver (progress.emitted (StreamReading.ofChunks chunks).texts) ++
        (progress.pushAll (StreamReading.ofChunks chunks).texts).ended callId
          (StreamReading.ofChunks chunks).ending := by
  induction chunks generalizing progress with
  | nil => rfl
  | cons item rest induction =>
    cases item with
    | error failure => rfl
    | ok body =>
      cases first : body.firstChoice? with
      | none =>
        rw [StreamReading.ofChunks_skip first, ← induction]
        simp [eventsFrom, first]
      | some choice =>
        cases stops : choice.stopReason with
        | none =>
          rw [StreamReading.ofChunks_continue first stops]
          simp [eventsFrom, first, stops, induction, ChatProgress.emitted, deliver_append]
        | some reported =>
          rw [StreamReading.ofChunks_finish first stops]
          simp [eventsFrom, first, stops, StreamReading.texts, ChatProgress.emitted,
            ChatProgress.ended]

theorem events_eq (callId : String) (chunks : RawStream) :
    events callId chunks =
      .ok ⟨opening⟩ ::
        (deliver (ChatProgress.start.emitted (StreamReading.ofChunks chunks).texts) ++
          (ChatProgress.start.pushAll (StreamReading.ofChunks chunks).texts).ended callId
            (StreamReading.ofChunks chunks).ending) := by
  rw [events, eventsFrom_eq]

end ChatStream

namespace CompletionStream

/-- The events of some choices, given the stop reason seen before them. -/
def pieces (seen : Option StopReason) : List Choice → List CompletionChunk
  | [] => []
  | choice :: choices => (piece? seen choice).toList ++ pieces (seenAfter seen choice) choices

/-- The stop reason seen after some choices. -/
def seenAfterAll (seen : Option StopReason) (choices : List Choice) : Option StopReason :=
  choices.foldl seenAfter seen

/-- The last item, given the stop reason seen before the end. -/
def lastItem (seen : Option StopReason) : StreamEnd → Except InferenceError CompletionChunk
  | .exhausted => .ok (closing seen)
  | .finished reported => .ok (closing (some (seen.getD reported)))
  | .broken failure => .error failure

/-- The items of a streamed completion: the pieces that are read, then the last item. -/
theorem eventsFrom_eq (seen : Option StopReason) (chunks : RawStream) :
    eventsFrom seen chunks =
      (pieces seen (StreamReading.ofChunks chunks).choices).map .ok ++
        [lastItem (seenAfterAll seen (StreamReading.ofChunks chunks).choices)
          (StreamReading.ofChunks chunks).ending] := by
  induction chunks generalizing seen with
  | nil => rfl
  | cons item rest induction =>
    cases item with
    | error failure => rfl
    | ok body =>
      cases first : body.firstChoice? with
      | none =>
        rw [StreamReading.ofChunks_skip first, ← induction]
        simp [eventsFrom, first]
      | some choice =>
        cases stops : choice.stopReason with
        | none =>
          rw [StreamReading.ofChunks_continue first stops]
          simp [eventsFrom, first, stops, induction, pieces, seenAfterAll, StreamReading.cons]
        | some reported =>
          rw [StreamReading.ofChunks_finish first stops]
          simp [eventsFrom, first, stops, pieces, seenAfterAll, lastItem]

theorem events_eq (chunks : RawStream) :
    events chunks =
      (pieces none (StreamReading.ofChunks chunks).choices).map .ok ++
        [lastItem (seenAfterAll none (StreamReading.ofChunks chunks).choices)
          (StreamReading.ofChunks chunks).ending] :=
  eventsFrom_eq none chunks

end CompletionStream

end LlamaGateway
