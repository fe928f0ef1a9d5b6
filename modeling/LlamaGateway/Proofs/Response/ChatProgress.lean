import LlamaGateway.Proofs.Reply.Frame
import LlamaGateway.Proofs.Response.StreamReading

/-!
# Progress of a streamed chat

A text is an end marker, which only changes the stop reason, or it is spoken: then it is appended to
the buffer, and the tag of tool calls in front of it turns the chat into a tool call. After any
texts the progress is therefore known from the spoken texts and the last marker alone.
-/

namespace LlamaGateway

/-- The text is no end marker. -/
def Spoken (text : String) : Prop :=
  EndMarker.ofText? text.toList = none

instance (text : String) : Decidable (Spoken text) :=
  inferInstanceAs (Decidable (EndMarker.ofText? text.toList = none))

/-- The texts that are no end markers. -/
def spokenTexts (texts : List String) : List String :=
  texts.filter fun text => Spoken text

/-- The last end marker among some texts. -/
def lastMarker? (texts : List String) : Option EndMarker :=
  (texts.filterMap fun text => EndMarker.ofText? text.toList).getLast?

theorem lastMarker?_cons_marker {text : String} {marker : EndMarker}
    (isMarker : EndMarker.ofText? text.toList = some marker) (texts : List String) :
    lastMarker? (text :: texts) = some ((lastMarker? texts).getD marker) := by
  have markers : (text :: texts).filterMap (fun text => EndMarker.ofText? text.toList) =
      marker :: texts.filterMap fun text => EndMarker.ofText? text.toList := by
    simp [isMarker]
  rw [lastMarker?, markers, List.getLast?_cons, lastMarker?]

theorem lastMarker?_cons_spoken {text : String} (spoken : Spoken text) (texts : List String) :
    lastMarker? (text :: texts) = lastMarker? texts := by
  rw [Spoken] at spoken
  simp [lastMarker?, spoken]

theorem spokenTexts_append (texts more : List String) :
    spokenTexts (texts ++ more) = spokenTexts texts ++ spokenTexts more :=
  List.filter_append ..

theorem spokenTexts_eq_self {texts : List String} (spoken : ∀ text ∈ texts, Spoken text) :
    spokenTexts texts = texts :=
  List.filter_eq_self.2 fun text member => by simpa using spoken text member

theorem lastMarker?_eq_none {texts : List String} (spoken : ∀ text ∈ texts, Spoken text) :
    lastMarker? texts = none := by
  rw [lastMarker?, List.filterMap_eq_nil_iff.2 spoken]
  rfl

theorem lastMarker?_append_of_spoken {texts : List String}
    (spoken : ∀ text ∈ texts, Spoken text) (more : List String) :
    lastMarker? (texts ++ more) = lastMarker? more := by
  rw [lastMarker?, List.filterMap_append, List.filterMap_eq_nil_iff.2 spoken]
  rfl

/-- The text starts with the tag of tool calls. -/
def StartsCall (text : String) : Prop :=
  Template.toolTag <+: text.toList

instance (text : String) : Decidable (StartsCall text) :=
  inferInstanceAs (Decidable (Template.toolTag <+: text.toList))

theorem isSome_dropPrefix?_toolTag (text : String) :
    (Text.dropPrefix? Template.toolTag text.toList).isSome = decide (StartsCall text) := by
  by_cases starts : StartsCall text
  · obtain ⟨rest, whole⟩ := starts
    simp [StartsCall, ← whole]
  · have absent : Text.dropPrefix? Template.toolTag text.toList = none :=
      Text.dropPrefix?_eq_none_iff.2 starts
    simp [absent, starts]

/-- The tag is longer than an end marker, so a text that starts with it is spoken. -/
theorem StartsCall.spoken {text : String} (starts : StartsCall text) : Spoken text := by
  rw [Spoken, Option.eq_none_iff_forall_ne_some]
  intro marker isMarker
  have short := starts.length_le
  rw [EndMarker.ofText?_eq_some_iff.1 isMarker, EndMarker.length_text] at short
  exact absurd short (by decide)

namespace ChatProgress

theorem startsToolCall_eq (progress : ChatProgress) (text : String) :
    progress.startsToolCall text.toList = (!progress.inToolCall && decide (StartsCall text)) := by
  rw [startsToolCall, isSome_dropPrefix?_toolTag]

theorem not_startsToolCall_of_marker {text : String} {marker : EndMarker}
    (isMarker : EndMarker.ofText? text.toList = some marker) (progress : ChatProgress) :
    progress.startsToolCall text.toList = false := by
  have noCall : ¬ StartsCall text := fun starts => by
    have spoken := starts.spoken
    rw [Spoken, isMarker] at spoken
    cases spoken
  simp [startsToolCall_eq, noCall]

/-- An end marker only changes the stop reason. -/
theorem push_marker {text : String} {marker : EndMarker}
    (isMarker : EndMarker.ofText? text.toList = some marker) (progress : ChatProgress) :
    progress.push text = { progress with seen := some marker.stopReason } := by
  simp [push, not_startsToolCall_of_marker isMarker, isMarker]

/-- A spoken text is appended, and may start a tool call. -/
theorem push_spoken {text : String} (spoken : Spoken text) (progress : ChatProgress) :
    progress.push text =
      ⟨progress.buffer ++ text.toList, progress.inToolCall || decide (StartsCall text),
        progress.seen⟩ := by
  rw [Spoken] at spoken
  rw [push, startsToolCall_eq, spoken]
  cases progress.inToolCall <;> by_cases starts : StartsCall text <;> simp [starts]

theorem event?_marker {text : String} {marker : EndMarker}
    (isMarker : EndMarker.ofText? text.toList = some marker) (progress : ChatProgress) :
    progress.event? text = none := by
  simp [event?, not_startsToolCall_of_marker isMarker, isMarker]

theorem event?_spoken {text : String} (spoken : Spoken text) (progress : ChatProgress) :
    progress.event? text =
      some (if progress.inToolCall then .toolStep .inProgress (.raw text) progress.seen
        else if StartsCall text then .toolStep .started (.raw "") none
        else .text .progress text progress.seen) := by
  rw [Spoken] at spoken
  rw [event?, startsToolCall_eq, spoken, textEvent]
  cases progress.inToolCall <;> by_cases starts : StartsCall text <;> simp [starts]

/-- The buffer after some texts holds the spoken ones. -/
theorem buffer_pushAll (progress : ChatProgress) (texts : List String) :
    (progress.pushAll texts).buffer =
      progress.buffer ++ (spokenTexts texts).flatMap String.toList := by
  induction texts generalizing progress with
  | nil => simp [spokenTexts]
  | cons text texts induction =>
    rw [pushAll_cons, induction]
    cases isMarker : EndMarker.ofText? text.toList with
    | some marker => simp [push_marker isMarker, spokenTexts, Spoken, isMarker]
    | none => simp [push_spoken isMarker, spokenTexts, Spoken, isMarker]

/-- The stop reason after some texts is that of the last end marker, or the one before. -/
theorem seen_pushAll (progress : ChatProgress) (texts : List String) :
    (progress.pushAll texts).seen =
      ((lastMarker? texts).map EndMarker.stopReason).or progress.seen := by
  induction texts generalizing progress with
  | nil => simp [lastMarker?]
  | cons text texts induction =>
    rw [pushAll_cons, induction]
    cases isMarker : EndMarker.ofText? text.toList with
    | some marker =>
      rw [push_marker isMarker, lastMarker?_cons_marker isMarker]
      cases lastMarker? texts <;> simp
    | none => rw [push_spoken isMarker, lastMarker?_cons_spoken isMarker]

end ChatProgress

end LlamaGateway
