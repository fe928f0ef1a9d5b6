import LlamaGateway.Proofs.Response.ChatProgress
import Mathlib.Data.List.Infix

/-!
# Transcripts of streamed chats

The items of a streamed chat follow a fixed order: a start, spoken text, at most one tool call, and
then an error or the end. A transcript holds one item list of that order in parts, and every
stream, whatever its chunks, is delivered as a transcript.

A streamed text is noted with the stop reason of the last end marker before it. The notes are read
off the whole list of texts, item by item with everything in front of it, so they do not depend on
how a stream is run.
-/

namespace LlamaGateway

open scoped List

/-- What became of a tool call. -/
inductive ToolOutcome where
  | failure
  | success (call : ToolCall)
deriving DecidableEq, Repr

/-- The event of an outcome. -/
def ToolOutcome.event (seen : Option StopReason) : ToolOutcome → ChatEvent
  | .failure => .toolStep .failure (.raw "") seen
  | .success call => .toolStep .success (.call call) seen

/-- How a streamed chat ends if no error breaks it. -/
structure ChatClosing where
  /-- What became of a tool call. -/
  outcome : Option ToolOutcome
  /-- Why generation stopped, as far as it is known. -/
  stopReason : Option StopReason
deriving DecidableEq, Repr

/-- The events of an end: the outcome, then the one that completes the chat. -/
def ChatClosing.events (closing : ChatClosing) : List ChatEvent :=
  (closing.outcome.map (ToolOutcome.event closing.stopReason)).toList ++
    [.text .complete "" closing.stopReason]

/-- A piece of text with the stop reason seen before it. -/
abbrev NotedText := String × Option StopReason

/-- The parts of a streamed chat, in order. -/
structure ChatTranscript where
  /-- The texts before a tool call. -/
  said : List NotedText
  /-- The texts of the tool call behind its first one, if there is a tool call. -/
  tool : Option (List NotedText)
  /-- The error that broke the stream, or its end. -/
  ending : Except InferenceError ChatClosing
  /-- A tool call that is read to the end has an outcome. -/
  settled : ∀ closing, ending = .ok closing → tool.isSome → closing.outcome.isSome
  /-- Only a tool call fails. -/
  failed : ∀ closing, ending = .ok closing → closing.outcome = some .failure → tool.isSome

namespace ChatTranscript

/-- The events of spoken texts. -/
def saidEvents (said : List NotedText) : List ChatEvent :=
  said.map fun (words, seen) => .text .progress words seen

/-- The events of a tool call as it goes on. -/
def stepEvents (steps : List NotedText) : List ChatEvent :=
  steps.map fun (words, seen) => .toolStep .inProgress (.raw words) seen

/-- The events of a tool call before its outcome. -/
def toolEvents : Option (List NotedText) → List ChatEvent
  | none => []
  | some steps => .toolStep .started (.raw "") none :: stepEvents steps

/-- The last items. -/
def endItems : Except InferenceError ChatClosing → EventStream ChatChunk
  | .error failure => [.error failure]
  | .ok closing => ChatStream.deliver closing.events

/-- The items of a transcript. -/
def items (transcript : ChatTranscript) : EventStream ChatChunk :=
  ChatStream.deliver
      (.text .start "" none :: (saidEvents transcript.said ++ toolEvents transcript.tool)) ++
    endItems transcript.ending

end ChatTranscript

theorem ChatStream.error_not_mem_deliver (events : List ChatEvent) (failure : InferenceError) :
    .error failure ∉ deliver events := by
  simp [deliver]

/-- The only error among the items is the one that breaks the stream. -/
theorem ChatTranscript.error_mem_items_iff (transcript : ChatTranscript)
    {failure : InferenceError} :
    .error failure ∈ transcript.items ↔ transcript.ending = .error failure := by
  rw [items, List.mem_append]
  cases transcript.ending with
  | error other => simp [endItems, ChatStream.error_not_mem_deliver, eq_comm]
  | ok closing => simp [endItems, ChatStream.error_not_mem_deliver]

/-- What an item is, apart from what it carries. -/
inductive ChatItemKind where
  /-- Text of a phase. -/
  | text (phase : ChatPhase)
  /-- A step of a tool call. -/
  | tool (status : ToolCallStatus)
  /-- An error. -/
  | error
deriving DecidableEq, Repr

/-- The kind of an item. -/
def ChatItemKind.ofItem : Except InferenceError ChatChunk → ChatItemKind
  | .error _ => .error
  | .ok chunk =>
    match chunk.event.delta with
    | .text _ => .text chunk.event.phase
    | .toolCall step => .tool step.status

/-- The rules that the kinds of a stream's items obey. -/
structure ChatItemKind.Orderly (kinds : List ChatItemKind) : Prop where
  /-- A tool call is started at most once. -/
  started_once : kinds.count (.tool .started) ≤ 1
  /-- Nothing is said behind the start of a tool call. -/
  said_before : ¬ [.tool .started, .text .progress] <+ kinds
  /-- A started tool call fails or succeeds, unless an error breaks it. -/
  settled : .tool .started ∈ kinds → .error ∉ kinds →
    kinds.count (.tool .failure) + kinds.count (.tool .success) = 1
  /-- Only a started tool call fails. -/
  failed : .tool .failure ∈ kinds → .tool .started ∈ kinds
  /-- At most one call is found. -/
  success_once : kinds.count (.tool .success) ≤ 1

namespace ChatTranscript

open ChatItemKind (ofItem)

/-- Two items do not stand in an order that a cut between them excludes. -/
theorem not_pair_sublist_append {α : Type} {first second : α} {front back : List α}
    (firstOut : first ∉ front) (secondOut : second ∉ back) :
    ¬ [first, second] <+ front ++ back := by
  intro pair
  obtain ⟨early, late, parts, inFront, inBack⟩ := List.sublist_append_iff.1 pair
  cases early with
  | nil =>
    obtain rfl : [first, second] = late := parts
    exact secondOut (inBack.subset (by simp))
  | cons head early =>
    obtain ⟨rfl, -⟩ := List.cons.inj parts
    exact firstOut (inFront.subset (by simp))

theorem kinds_saidEvents (said : List NotedText) :
    (ChatStream.deliver (saidEvents said)).map ofItem =
      List.replicate said.length (.text .progress) := by
  simp [ChatStream.deliver, saidEvents, ofItem, ChatEvent.text, Function.comp_def]

theorem kinds_stepEvents (steps : List NotedText) :
    (ChatStream.deliver (stepEvents steps)).map ofItem =
      List.replicate steps.length (.tool .inProgress) := by
  simp [ChatStream.deliver, stepEvents, ofItem, ChatEvent.toolStep, Function.comp_def]

/-- The kinds of a tool call before its outcome. -/
def toolKinds : Option (List NotedText) → List ChatItemKind
  | none => []
  | some steps => .tool .started :: List.replicate steps.length (.tool .inProgress)

/-- The kinds of the last items. -/
def endKinds : Except InferenceError ChatClosing → List ChatItemKind
  | .error _ => [.error]
  | .ok ⟨none, _⟩ => [.text .complete]
  | .ok ⟨some .failure, _⟩ => [.tool .failure, .text .complete]
  | .ok ⟨some (.success _), _⟩ => [.tool .success, .text .complete]

theorem kinds_toolEvents (tool : Option (List NotedText)) :
    (ChatStream.deliver (toolEvents tool)).map ofItem = toolKinds tool := by
  cases tool with
  | none => rfl
  | some steps => exact congrArg (List.cons (.tool .started)) (kinds_stepEvents steps)

theorem kinds_endItems (ending : Except InferenceError ChatClosing) :
    (endItems ending).map ofItem = endKinds ending := by
  rcases ending with failure | ⟨_ | _ | call, seen⟩ <;> rfl

theorem kinds_items (transcript : ChatTranscript) :
    transcript.items.map ofItem =
      .text .start :: (List.replicate transcript.said.length (.text .progress) ++
        toolKinds transcript.tool) ++ endKinds transcript.ending := by
  rw [items, List.map_append, kinds_endItems]
  rw [← kinds_saidEvents, ← kinds_toolEvents, ← List.map_append, ← ChatStream.deliver_append]
  rfl

section

variable (transcript : ChatTranscript)

theorem count_started_kinds :
    (transcript.items.map ofItem).count (.tool .started) = transcript.tool.toList.length := by
  have noEnd : (endKinds transcript.ending).count (.tool .started) = 0 := by
    rcases transcript.ending with failure | ⟨_ | _ | call, seen⟩ <;> rfl
  rw [kinds_items, List.count_append, noEnd]
  cases transcript.tool <;> simp [toolKinds, List.count_replicate]

/-- The outcome of a tool call comes at the end. -/
theorem count_outcome_kinds {status : ToolCallStatus}
    (isOutcome : status = .failure ∨ status = .success) :
    (transcript.items.map ofItem).count (.tool status) =
      (endKinds transcript.ending).count (.tool status) := by
  rw [kinds_items, List.count_append]
  rcases isOutcome with rfl | rfl <;> cases transcript.tool <;>
    simp [toolKinds, List.count_replicate]

/-- There are as many outcomes as the end holds. -/
theorem count_outcomes_kinds :
    (transcript.items.map ofItem).count (.tool .failure) +
        (transcript.items.map ofItem).count (.tool .success) =
      match transcript.ending with
      | .error _ => 0
      | .ok closing => closing.outcome.toList.length := by
  rw [transcript.count_outcome_kinds (.inl rfl), transcript.count_outcome_kinds (.inr rfl)]
  rcases transcript.ending with failure | ⟨_ | _ | call, seen⟩ <;> rfl

theorem started_mem_kinds_iff :
    .tool .started ∈ transcript.items.map ofItem ↔ transcript.tool.isSome := by
  rw [← List.count_pos_iff, count_started_kinds]
  cases transcript.tool <;> simp

theorem failure_mem_kinds_iff :
    .tool .failure ∈ transcript.items.map ofItem ↔
      ∃ seen, transcript.ending = .ok ⟨some .failure, seen⟩ := by
  rw [← List.count_pos_iff, transcript.count_outcome_kinds (.inl rfl)]
  rcases transcript.ending with failure | ⟨_ | _ | call, seen⟩ <;> simp [endKinds]

theorem error_mem_kinds {failure : InferenceError} (ends : transcript.ending = .error failure) :
    .error ∈ transcript.items.map ofItem :=
  List.mem_map.2 ⟨.error failure, transcript.error_mem_items_iff.2 ends, rfl⟩

theorem not_said_behind_started :
    ¬ [.tool .started, .text .progress] <+ transcript.items.map ofItem := by
  rw [kinds_items, ← List.cons_append, List.append_assoc]
  apply not_pair_sublist_append
  · simp
  · cases transcript.tool <;> rcases transcript.ending with failure | ⟨_ | _ | call, seen⟩ <;>
      simp [toolKinds, endKinds]

/-- The kinds of a transcript's items obey the rules. -/
theorem orderly : ChatItemKind.Orderly (transcript.items.map ofItem) where
  started_once := by
    rw [count_started_kinds]
    cases transcript.tool <;> simp
  said_before := transcript.not_said_behind_started
  settled := by
    intro started unbroken
    have outcomes := transcript.count_outcomes_kinds
    cases ends : transcript.ending with
    | error failure => exact absurd (transcript.error_mem_kinds ends) unbroken
    | ok closing =>
      have settles := transcript.settled closing ends (transcript.started_mem_kinds_iff.1 started)
      obtain ⟨outcome, isOutcome⟩ := Option.isSome_iff_exists.1 settles
      simpa [ends, isOutcome] using outcomes
  failed := by
    intro failure
    obtain ⟨seen, ends⟩ := transcript.failure_mem_kinds_iff.1 failure
    exact transcript.started_mem_kinds_iff.2 (transcript.failed _ ends rfl)
  success_once := by
    have outcomes := transcript.count_outcomes_kinds
    rcases ends : transcript.ending with failure | ⟨_ | outcome, seen⟩ <;>
      simp only [ends, Option.toList, List.length_cons, List.length_nil] at outcomes <;> omega

end

end ChatTranscript

/-- The stop reason of the last end marker among some texts. -/
def markedStop (texts : List String) : Option StopReason :=
  (lastMarker? texts).map EndMarker.stopReason

/-- The items whose texts are spoken, each with the stop reason of the last end marker before it, or
the one seen before all of them. -/
def noted {α : Type} (text : α → String) (seen : Option StopReason) (items : List α) :
    List (α × Option StopReason) :=
  (items.zip items.inits).filterMap fun (item, before) =>
    if Spoken (text item) then some (item, (markedStop (before.map text)).or seen) else none

section

variable {α : Type} (text : α → String) {item : α}

@[simp] theorem noted_nil (seen : Option StopReason) : noted text seen [] = [] := rfl

/-- What is noted of a first item, and of those behind it. -/
theorem noted_cons (seen : Option StopReason) (items : List α) :
    noted text seen (item :: items) =
      (if Spoken (text item) then [(item, seen)] else []) ++
        (items.zip items.inits).filterMap fun (other, before) =>
          if Spoken (text other) then
            some (other, (markedStop (text item :: before.map text)).or seen)
          else none := by
  have shifted : items.zip (items.inits.map (item :: ·)) =
      (items.zip items.inits).map fun (other, before) => (other, item :: before) := by
    rw [List.zip_map_right]
    rfl
  rw [noted, List.inits_cons, List.zip_cons_cons, List.filterMap_cons, shifted,
    List.filterMap_map]
  by_cases spoken : Spoken (text item)
  · simp only [if_pos spoken]
    rfl
  · simp only [if_neg spoken]
    rfl

/-- A spoken item is noted with what was seen. -/
theorem noted_cons_spoken (spoken : Spoken (text item)) (seen : Option StopReason)
    (items : List α) :
    noted text seen (item :: items) = (item, seen) :: noted text seen items := by
  rw [noted_cons, if_pos spoken]
  simp only [markedStop, lastMarker?_cons_spoken spoken]
  rfl

/-- An end marker is noted with the items behind it. -/
theorem noted_cons_marker {marker : EndMarker}
    (isMarker : EndMarker.ofText? (text item).toList = some marker) (seen : Option StopReason)
    (items : List α) :
    noted text seen (item :: items) = noted text (some marker.stopReason) items := by
  have silent : ¬ Spoken (text item) := by simp [Spoken, isMarker]
  have later (texts : List String) :
      (markedStop (text item :: texts)).or seen =
        (markedStop texts).or (some marker.stopReason) := by
    rw [markedStop, markedStop, lastMarker?_cons_marker isMarker]
    cases lastMarker? texts <;> rfl
  rw [noted_cons, if_neg silent, List.nil_append]
  simp only [later]
  rfl

/-- Exactly the spoken texts are noted, in order. -/
theorem map_fst_noted (seen : Option StopReason) (items : List α) :
    (noted text seen items).map (fun note => text note.1) = spokenTexts (items.map text) := by
  induction items generalizing seen with
  | nil => rfl
  | cons item items induction =>
    cases isMarker : EndMarker.ofText? (text item).toList with
    | none =>
      have spoken : Spoken (text item) := isMarker
      rw [noted_cons_spoken text spoken, List.map_cons, induction]
      simp [spokenTexts, spoken]
    | some marker =>
      have silent : ¬ Spoken (text item) := by simp [Spoken, isMarker]
      rw [noted_cons_marker text isMarker, induction]
      simp [spokenTexts, silent]

end

/-- The notes of a chat are all said if no text starts a tool call. Otherwise those before the first
such text are said, and those behind it are steps of the call. -/
inductive SplitAtCall : List NotedText → List NotedText → Option (List NotedText) → Prop
  /-- No text starts a tool call. -/
  | never {said : List NotedText} (silent : ∀ note ∈ said, ¬ StartsCall note.1) :
      SplitAtCall said said none
  /-- The first text that starts a tool call stands between what is said and the steps. -/
  | start {said steps : List NotedText} {first : NotedText}
      (silent : ∀ note ∈ said, ¬ StartsCall note.1) (starts : StartsCall first.1) :
      SplitAtCall (said ++ first :: steps) said (some steps)

theorem SplitAtCall.start_first {steps : List NotedText} {first : NotedText}
    (starts : StartsCall first.1) : SplitAtCall (first :: steps) [] (some steps) := by
  have nothing : ∀ note ∈ ([] : List NotedText), ¬ StartsCall note.1 := by simp
  exact .start nothing starts

/-- A text that starts no tool call is said. -/
theorem SplitAtCall.cons {notes said : List NotedText} {tool : Option (List NotedText)}
    {note : NotedText} (quiet : ¬ StartsCall note.1) (split : SplitAtCall notes said tool) :
    SplitAtCall (note :: notes) (note :: said) tool := by
  have extended {said : List NotedText} (silent : ∀ other ∈ said, ¬ StartsCall other.1) :
      ∀ other ∈ note :: said, ¬ StartsCall other.1 := by
    intro other member
    rcases List.mem_cons.1 member with rfl | member
    · exact quiet
    · exact silent other member
  cases split with
  | never silent => exact .never (extended silent)
  | start silent starts => exact .start (extended silent) starts

end LlamaGateway
