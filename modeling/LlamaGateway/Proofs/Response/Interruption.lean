import LlamaGateway.Provider.Client
import LlamaGateway.Proofs.Response.ChatProtocol
import LlamaGateway.Proofs.Response.StreamReading

/-!
# Interrupted streams

A streamed body delivers events and transport errors. It is over with the end marker of the stream
or with a chunk that has a finish reason. A fault before that interrupts it: then the caller's
stream ends with this one error, and otherwise with its closing event. What comes behind the end
does not count, and neither do events that hold no choice.
-/

namespace LlamaGateway

namespace ServerEvents

/-- What an item is to a stream. -/
inductive Role where
  /-- It does not count. -/
  | idle
  /-- It is a piece of the answer, and others may follow. -/
  | piece
  /-- The stream is over with it. -/
  | ending
  /-- The stream is broken at it. -/
  | fault
deriving DecidableEq, Repr

/-- The role of a chunk: one without choices is idle, one with a finish reason ends the stream. -/
def roleOfBody (body : ProviderBody) : Role :=
  match body.firstChoice? with
  | none => .idle
  | some choice => if choice.finishReason.isSome then .ending else .piece

/-- The role of an item. White space around data does not count. -/
def role : Item → Role
  | .error _ => .fault
  | .ok data =>
    if Text.trimBlank data = RawStream.doneMarker then .ending
    else if Text.trimBlank data = [] then .idle
    else
      match ProviderBody.parse? (Text.trimBlank data) with
      | some body => roleOfBody body
      | none => .fault

/-- A fault comes before the stream is over. -/
def Interrupted (items : List Item) : Prop :=
  ∃ item ∈ items.takeWhile fun item => role item ≠ .ending, role item = .fault

instance (items : List Item) : Decidable (Interrupted items) :=
  inferInstanceAs (Decidable (∃ item ∈ items.takeWhile _, role item = .fault))

theorem not_interrupted_nil : ¬ Interrupted [] := by
  rintro ⟨item, member, -⟩
  cases member

variable {item : Item} {rest : List Item}

theorem not_interrupted_cons_of_ending (ends : role item = .ending) :
    ¬ Interrupted (item :: rest) := by
  rintro ⟨other, member, -⟩
  simp [ends] at member

theorem interrupted_cons_of_fault (faulty : role item = .fault) : Interrupted (item :: rest) :=
  ⟨item, by simp [faulty], faulty⟩

theorem interrupted_cons_iff (goesOn : role item = .idle ∨ role item = .piece) :
    Interrupted (item :: rest) ↔ Interrupted rest := by
  rcases goesOn with isIdle | isPiece
  · simp [Interrupted, isIdle]
  · simp [Interrupted, isPiece]

/-- The role of an item, and what it adds to the chunks of a stream. -/
inductive Contribution (item : Item) : Prop where
  /-- A fault is an error in place of a chunk. -/
  | fault (cause : String) (isFault : role item = .fault)
      (chunks : ∀ rest,
        RawStream.ofEvents (item :: rest) = .error (.streaming cause) :: RawStream.ofEvents rest)
  /-- The end marker leaves nothing of what follows. -/
  | marker (ends : role item = .ending) (chunks : ∀ rest, RawStream.ofEvents (item :: rest) = [])
  /-- Blank data add nothing. -/
  | blank (isIdle : role item = .idle)
      (chunks : ∀ rest, RawStream.ofEvents (item :: rest) = RawStream.ofEvents rest)
  /-- Other data hold a chunk. -/
  | chunk (body : ProviderBody) (isBody : role item = roleOfBody body)
      (chunks : ∀ rest, RawStream.ofEvents (item :: rest) = .ok body :: RawStream.ofEvents rest)

theorem chunk?_of_chunk {data : List Char} {body : ProviderBody} (notBlank : data ≠ [])
    (parsed : ProviderBody.parse? data = some body) : RawStream.chunk? data = some (.ok body) := by
  simp [RawStream.chunk?, notBlank, parsed]

theorem chunk?_of_fault {data : List Char} (notBlank : data ≠ [])
    (malformed : ProviderBody.parse? data = none) :
    ∃ cause, RawStream.chunk? data = some (.error (.streaming cause)) := by
  simp [RawStream.chunk?, notBlank, malformed]

theorem contribution (item : Item) : Contribution item := by
  cases item with
  | error cause => exact .fault cause rfl fun _ => rfl
  | ok data =>
    by_cases isMarker : Text.trimBlank data = RawStream.doneMarker
    · exact .marker (by simp [role, isMarker]) fun rest => by simp [RawStream.ofEvents, isMarker]
    · have chunks (rest : List Item) : RawStream.ofEvents (.ok data :: rest) =
          (RawStream.chunk? (Text.trimBlank data)).toList ++ RawStream.ofEvents rest :=
        if_neg isMarker
      by_cases isBlank : Text.trimBlank data = []
      · refine .blank (by simp [role, isBlank]; decide) fun rest => ?_
        rw [chunks, isBlank]
        rfl
      · cases parsed : ProviderBody.parse? (Text.trimBlank data) with
        | none =>
          obtain ⟨cause, isError⟩ := chunk?_of_fault isBlank parsed
          refine .fault cause (by simp [role, isMarker, isBlank, parsed]) fun rest => ?_
          rw [chunks, isError]
          rfl
        | some body =>
          refine .chunk body (by simp [role, isMarker, isBlank, parsed]) fun rest => ?_
          rw [chunks, chunk?_of_chunk isBlank parsed]
          rfl

/-- What is read of the items of a streamed body. -/
def reading (items : List Item) : StreamReading :=
  StreamReading.ofChunks (RawStream.ofEvents items)

/-- What an item does to the reading of a stream, in each of its roles. -/
inductive Effect (item : Item) : Prop where
  /-- The stream is broken, whatever follows. -/
  | fault (cause : String) (isFault : role item = .fault)
      (reads : ∀ rest, reading (item :: rest) = ⟨[], .broken (.streaming cause)⟩)
  /-- The stream ends unbroken, whatever follows. -/
  | ending (final : StreamReading) (ends : role item = .ending)
      (unbroken : ∀ failure, final.ending ≠ .broken failure)
      (reads : ∀ rest, reading (item :: rest) = final)
  /-- What follows is read. -/
  | idle (isIdle : role item = .idle) (reads : ∀ rest, reading (item :: rest) = reading rest)
  /-- A choice is read, then what follows. -/
  | piece (choice : Choice) (isPiece : role item = .piece)
      (reads : ∀ rest, reading (item :: rest) = (reading rest).cons choice)

theorem effect (item : Item) : Effect item := by
  cases contribution item with
  | fault cause isFault chunks =>
    exact .fault cause isFault fun rest => by rw [reading, chunks, StreamReading.ofChunks]
  | marker ends chunks =>
    exact .ending ⟨[], .exhausted⟩ ends (by simp) fun rest => by
      rw [reading, chunks, StreamReading.ofChunks]
  | blank isIdle chunks => exact .idle isIdle fun rest => by rw [reading, chunks, reading]
  | chunk body isBody chunks =>
    -- Whether a chunk ends the stream is read off its finish reason, as its stop reason is.
    rw [roleOfBody] at isBody
    cases first : body.firstChoice? with
    | none =>
      refine .idle (by rw [isBody, first]) fun rest => ?_
      rw [reading, chunks, StreamReading.ofChunks_skip first, reading]
    | some choice =>
      cases stops : choice.stopReason with
      | none =>
        have continues : choice.finishReason = none := Choice.stopReason_eq_none_iff.1 stops
        refine .piece choice (by simp [isBody, first, continues]) fun rest => ?_
        rw [reading, chunks, StreamReading.ofChunks_continue first stops, reading]
      | some reported =>
        have isLast : choice.finishReason.isSome := by
          rw [Option.isSome_iff_ne_none]
          intro continues
          rw [Choice.stopReason_eq_none_iff.2 continues] at stops
          cases stops
        refine .ending ⟨[choice], .finished reported⟩ (by simp [isBody, first, isLast]) (by simp)
          fun rest => ?_
        rw [reading, chunks, StreamReading.ofChunks_finish first stops]

/-- Items that are read alike are read alike behind the same items. -/
theorem reading_append_congr {later other : List Item} (same : reading later = reading other)
    (earlier : List Item) : reading (earlier ++ later) = reading (earlier ++ other) := by
  induction earlier with
  | nil => exact same
  | cons item earlier induction =>
    rw [List.cons_append, List.cons_append]
    cases effect item with
    | fault cause _ reads => rw [reads, reads]
    | ending final _ _ reads => rw [reads, reads]
    | idle _ reads => rw [reads, reads, induction]
    | piece choice _ reads => rw [reads, reads, induction]

/-- Idle items are not read. -/
theorem reading_idle_append {idle : List Item} (allIdle : ∀ item ∈ idle, role item = .idle)
    (later : List Item) : reading (idle ++ later) = reading later := by
  induction idle with
  | nil => rfl
  | cons item idle induction =>
    rw [List.cons_append]
    cases effect item with
    | idle _ reads => rw [reads, induction fun other member => allIdle other (by simp [member])]
    | fault _ isFault _ => simp [allIdle item] at isFault
    | ending _ ends _ _ => simp [allIdle item] at ends
    | piece _ isPiece _ => simp [allIdle item] at isPiece

/-- Nothing behind the end of a stream is read. -/
theorem reading_ending_cons {item : Item} (ends : role item = .ending) (later other : List Item) :
    reading (item :: later) = reading (item :: other) := by
  cases effect item with
  | ending _ _ _ reads => rw [reads, reads]
  | fault _ isFault _ => simp [ends] at isFault
  | idle isIdle _ => simp [ends] at isIdle
  | piece _ isPiece _ => simp [ends] at isPiece

/-- An interrupted stream is read as one that is broken by an error of streaming. -/
theorem broken_of_interrupted {items : List Item} (interrupted : Interrupted items) :
    ∃ cause, (reading items).ending = .broken (.streaming cause) := by
  induction items with
  | nil => exact absurd interrupted not_interrupted_nil
  | cons item rest induction =>
    cases effect item with
    | fault cause _ reads => exact ⟨cause, by rw [reads]⟩
    | ending _ ends _ _ => exact absurd interrupted (not_interrupted_cons_of_ending ends)
    | idle isIdle reads =>
      rw [reads]
      exact induction ((interrupted_cons_iff (.inl isIdle)).1 interrupted)
    | piece choice isPiece reads =>
      rw [reads, StreamReading.ending_cons]
      exact induction ((interrupted_cons_iff (.inr isPiece)).1 interrupted)

/-- Any other stream is read as unbroken. -/
theorem unbroken_of_not_interrupted {items : List Item} (whole : ¬ Interrupted items)
    (failure : InferenceError) : (reading items).ending ≠ .broken failure := by
  induction items with
  | nil => intro broken; cases broken
  | cons item rest induction =>
    cases effect item with
    | fault _ isFault _ => exact absurd (interrupted_cons_of_fault isFault) whole
    | ending _ _ unbroken reads =>
      rw [reads]
      exact unbroken failure
    | idle isIdle reads =>
      rw [reads]
      exact induction (mt (interrupted_cons_iff (.inl isIdle)).2 whole)
    | piece choice isPiece reads =>
      rw [reads, StreamReading.ending_cons]
      exact induction (mt (interrupted_cons_iff (.inr isPiece)).2 whole)

end ServerEvents

/-- A caller's stream is made of what is read of a provider's: events, and at the end the error that
broke it or a closing event. -/
structure FollowsReading {α : Type} (events : RawStream → EventStream α)
    (closing : Option StopReason → α) : Prop where
  /-- Only what is read counts. -/
  congr : ∀ chunks others, StreamReading.ofChunks chunks = StreamReading.ofChunks others →
    events chunks = events others
  /-- A broken stream ends with the error that broke it, the only one. -/
  broken : ∀ chunks failure, (StreamReading.ofChunks chunks).ending = .broken failure →
    ∃ delivered : List α, events chunks = delivered.map .ok ++ [.error failure]
  /-- Any other stream ends with a closing event, without errors. -/
  unbroken : ∀ chunks, (∀ failure, (StreamReading.ofChunks chunks).ending ≠ .broken failure) →
    ∃ (delivered : List α) (seen : Option StopReason),
      events chunks = delivered.map .ok ++ [.ok (closing seen)]

/-- The only errors are those that break the stream. -/
theorem FollowsReading.error_mem_iff {α : Type} {events : RawStream → EventStream α}
    {closing : Option StopReason → α} (follows : FollowsReading events closing)
    {chunks : RawStream} {failure : InferenceError} :
    .error failure ∈ events chunks ↔ (StreamReading.ofChunks chunks).ending = .broken failure := by
  constructor
  · intro member
    cases ends : (StreamReading.ofChunks chunks).ending with
    | broken other =>
      obtain ⟨delivered, isEvents⟩ := follows.broken chunks other ends
      have same : failure = other := by simpa [isEvents] using member
      rw [same]
    | exhausted =>
      obtain ⟨delivered, seen, isEvents⟩ := follows.unbroken chunks (by simp [ends])
      simp [isEvents] at member
    | finished reported =>
      obtain ⟨delivered, seen, isEvents⟩ := follows.unbroken chunks (by simp [ends])
      simp [isEvents] at member
  · intro breaks
    obtain ⟨delivered, isEvents⟩ := follows.broken chunks failure breaks
    simp [isEvents]

theorem CompletionStream.followsReading : FollowsReading events closing where
  congr chunks others same := by rw [events_eq, events_eq, same]
  broken chunks failure breaks := by
    rw [events_eq, breaks, lastItem]
    exact ⟨_, rfl⟩
  unbroken chunks whole := by
    rw [events_eq]
    cases ends : (StreamReading.ofChunks chunks).ending with
    | exhausted => exact ⟨_, _, rfl⟩
    | finished reported => exact ⟨_, _, rfl⟩
    | broken failure => exact absurd ends (whole failure)

/-- The event that completes a chat. -/
def ChatStream.completed (seen : Option StopReason) : ChatChunk :=
  ⟨.text .complete "" seen⟩

/-- Closing events are delivered in order, the one that completes the chat last. -/
theorem ChatStream.deliver_closing (callId : String) (progress : ChatProgress) :
    ∃ delivered : List ChatChunk, deliver (progress.closing callId) =
      delivered.map .ok ++ [.ok (completed progress.seen)] := by
  refine ⟨(progress.callEvents
    (Reply.decode callId progress.buffer progress.seen).toolCalls).map ChatChunk.mk, ?_⟩
  simp [deliver, ChatProgress.closing, completed]

theorem ChatStream.followsReading (callId : String) :
    FollowsReading (events callId) completed where
  congr chunks others same := by rw [events_eq, events_eq, same]
  broken chunks failure breaks := by
    refine ⟨⟨opening⟩ :: (ChatProgress.start.emitted
      (StreamReading.ofChunks chunks).texts).map ChatChunk.mk, ?_⟩
    rw [events_eq, breaks, ChatProgress.ended]
    simp [deliver]
  unbroken chunks whole := by
    have ends : ∃ progress : ChatProgress,
        (ChatProgress.start.pushAll (StreamReading.ofChunks chunks).texts).ended callId
          (StreamReading.ofChunks chunks).ending = deliver (progress.closing callId) := by
      cases ends : (StreamReading.ofChunks chunks).ending with
      | exhausted => exact ⟨_, rfl⟩
      | finished reported => exact ⟨_, rfl⟩
      | broken failure => exact absurd ends (whole failure)
    obtain ⟨progress, isClosing⟩ := ends
    obtain ⟨delivered, closes⟩ := deliver_closing callId progress
    refine ⟨⟨opening⟩ :: (ChatProgress.start.emitted
      (StreamReading.ofChunks chunks).texts).map ChatChunk.mk ++ delivered, progress.seen, ?_⟩
    rw [events_eq, isClosing, closes]
    simp [deliver]

open ServerEvents (Item Interrupted role)

/-- A caller can tell from the end of a stream whether the provider's was interrupted. -/
structure TellsInterruption {α : Type} (events : List Item → EventStream α)
    (closing : Option StopReason → α) : Prop where
  /-- The last item is an error exactly if the provider's stream is interrupted. -/
  error_last_iff : ∀ items,
    (∃ failure, (events items).getLast? = some (.error failure)) ↔ Interrupted items
  /-- The error of an interrupted stream is one of streaming, the only one and the last item. -/
  interrupted : ∀ items, Interrupted items →
    ∃ (delivered : List α) (cause : String),
      events items = delivered.map .ok ++ [.error (.streaming cause)]
  /-- Otherwise there is no error, and the last item closes the stream. -/
  whole : ∀ items, ¬ Interrupted items →
    ∃ (delivered : List α) (seen : Option StopReason),
      events items = delivered.map .ok ++ [.ok (closing seen)]
  /-- Items that do not count change nothing, wherever they come. -/
  idle : ∀ earlier idle later, (∀ item ∈ idle, role item = .idle) →
    events (earlier ++ idle ++ later) = events (earlier ++ later)
  /-- Items behind the end change nothing, whatever they are. -/
  settled : ∀ earlier ending later other, role ending = .ending →
    events (earlier ++ ending :: later) = events (earlier ++ ending :: other)

theorem FollowsReading.tellsInterruption {α : Type} {events : RawStream → EventStream α}
    {closing : Option StopReason → α} (follows : FollowsReading events closing) :
    TellsInterruption (fun items => events (RawStream.ofEvents items)) closing where
  error_last_iff items := by
    constructor
    · rintro ⟨failure, isLast⟩
      by_contra whole
      obtain ⟨delivered, seen, closes⟩ :=
        follows.unbroken _ (ServerEvents.unbroken_of_not_interrupted whole)
      simp [closes] at isLast
    · intro interrupted
      obtain ⟨cause, breaks⟩ := ServerEvents.broken_of_interrupted interrupted
      obtain ⟨delivered, ends⟩ := follows.broken _ _ breaks
      exact ⟨_, by simp [ends]; rfl⟩
  interrupted items interrupted := by
    obtain ⟨cause, breaks⟩ := ServerEvents.broken_of_interrupted interrupted
    obtain ⟨delivered, ends⟩ := follows.broken _ _ breaks
    exact ⟨delivered, cause, ends⟩
  whole items whole := follows.unbroken _ (ServerEvents.unbroken_of_not_interrupted whole)
  idle earlier idle later allIdle := by
    apply follows.congr
    rw [List.append_assoc]
    exact ServerEvents.reading_append_congr (ServerEvents.reading_idle_append allIdle later) earlier
  settled earlier ending later other ends := by
    apply follows.congr
    exact ServerEvents.reading_append_congr
      (ServerEvents.reading_ending_cons ends later other) earlier

/-- No stream is cut short silently: completions and chats alike end with one error exactly if a
fault comes before the provider's stream is over. -/
theorem streams_tell_interruption :
    TellsInterruption (fun items => CompletionStream.events (RawStream.ofEvents items))
        CompletionStream.closing ∧
      ∀ callId, TellsInterruption
        (fun items => ChatStream.events callId (RawStream.ofEvents items)) ChatStream.completed :=
  ⟨CompletionStream.followsReading.tellsInterruption,
    fun callId => (ChatStream.followsReading callId).tellsInterruption⟩

end LlamaGateway
