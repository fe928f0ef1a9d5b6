import LlamaGateway.Prompt.Dialog
import LlamaGateway.Proofs.Text.FirstPlace
import LlamaGateway.Proofs.Text.Trimming
import LlamaGateway.Reply.Decoding

/-!
# Frames of replies

An end marker behind a text is taken off alone: neither the header nor the tag of tool calls can
run into it, so the rest of the frame is that of the text without its marker. The frame of a block
that makes one call gives the written call back.

What a reply is taken apart into can also be told without taking it apart: blanks, header, tag, core
and end marker make up the reply in this order, and none of the outer parts is left where it could
have been taken. There is one frame of that kind, which is the frame of the reply.
-/

namespace LlamaGateway

namespace EndMarker

theorem text_injective {left right : EndMarker} (same : left.text = right.text) :
    left = right := by
  cases left <;> cases right <;> first | rfl | exact absurd same (by decide)

/-- An end marker starts and ends outside the class of blanks. -/
theorem text_eq (marker : EndMarker) : ∃ middle, marker.text = '<' :: (middle ++ ['>']) := by
  cases marker with
  | turn => exact ⟨"|eot_id|".toList, by decide⟩
  | message => exact ⟨"|eom_id|".toList, by decide⟩

theorem length_text (marker : EndMarker) : marker.text.length = 10 := by
  cases marker <;> decide

theorem ofText?_eq_some_iff {candidate : List Char} {marker : EndMarker} :
    ofText? candidate = some marker ↔ candidate = marker.text := by
  constructor
  · intro found
    unfold ofText? at found
    split at found
    · next same => cases found; exact same
    · split at found
      · next same => cases found; exact same
      · cases found
  · rintro rfl
    exact ofText?_text marker

end EndMarker

namespace Template

theorem assistantHeader_apart (marker : EndMarker) : Text.Apart assistantHeader marker.text := by
  cases marker <;> decide

theorem toolTag_apart (marker : EndMarker) : Text.Apart toolTag marker.text := by
  cases marker <;> decide

/-- The header starts with a character that is not blank. -/
theorem assistantHeader_eq : ∃ rest, assistantHeader = '<' :: rest :=
  ⟨assistantHeader.tail, by decide⟩

end Template

namespace ReplyFrame

/-- No end marker stands at the end of a text. -/
def Unmarked (text : List Char) : Prop :=
  ∀ marker : EndMarker, ¬ marker.text <:+ text

theorem Unmarked.of_suffix {short long : List Char} (unmarked : Unmarked long)
    (shorter : short <:+ long) : Unmarked short :=
  fun marker ending => unmarked marker (ending.trans shorter)

@[simp] theorem takeLead_append_self (lead text : List Char) :
    takeLead lead (lead ++ text) = (true, text) := by
  simp [takeLead]

/-- A lead is taken off in front of whatever it cannot run into. -/
theorem takeLead_append {lead tail : List Char} (apart : Text.Apart lead tail)
    (text : List Char) :
    takeLead lead (text ++ tail) = ((takeLead lead text).1, (takeLead lead text).2 ++ tail) := by
  simp only [takeLead, Text.dropPrefix?_append_of_apart apart]
  cases Text.dropPrefix? lead text <;> rfl

@[simp] theorem takeMarker_append_text (text : List Char) (marker : EndMarker) :
    takeMarker (text ++ marker.text) = (text, some marker) := by
  have sameEnd {other : EndMarker} {rest : List Char}
      (found : Text.dropSuffix? other.text (text ++ marker.text) = some rest) :
      rest = text ∧ other = marker := by
    have whole := Text.dropSuffix?_eq_some_iff.1 found
    have lengths : marker.text.length = other.text.length := by
      rw [EndMarker.length_text, EndMarker.length_text]
    obtain ⟨texts, markers⟩ := List.append_inj' whole lengths
    exact ⟨texts.symm, (EndMarker.text_injective markers).symm⟩
  unfold takeMarker
  split
  · next rest found =>
    obtain ⟨rfl, rfl⟩ := sameEnd found
    rfl
  · next noTurn =>
    split
    · next rest found =>
      obtain ⟨rfl, rfl⟩ := sameEnd found
      rfl
    · next noMessage =>
      have found := Text.dropSuffix?_eq_some_iff.2 (rfl : text ++ marker.text = _)
      cases marker with
      | turn => simp [noTurn] at found
      | message => simp [noMessage] at found

/-- A text without an end marker has a frame without one. -/
theorem marker_ofTrimmed_eq_none {text : List Char} (unmarked : Unmarked text) :
    (ofTrimmed text).marker = none := by
  cases marked : (ofTrimmed text).marker with
  | none => rfl
  | some marker =>
    have whole := render_ofTrimmed text
    rw [render, marked] at whole
    exact absurd ⟨_, whole⟩ (unmarked marker)

/-- The frame of a text with a marker behind is that of the text, marked. -/
theorem ofTrimmed_append_marker {text : List Char} (unmarked : Unmarked text)
    (marker : EndMarker) :
    ofTrimmed (text ++ marker.text) = { ofTrimmed text with marker := some marker } := by
  have whole := marker_ofTrimmed_eq_none unmarked
  have parts := eq_append_of_takeMarker
    (takeLead Template.toolTag (takeLead Template.assistantHeader text).2).2
  simp only [ofTrimmed] at whole ⊢
  rw [takeLead_append (Template.assistantHeader_apart marker)]
  dsimp only
  rw [takeLead_append (Template.toolTag_apart marker)]
  dsimp only
  rw [takeMarker_append_text]
  rw [whole, markerText, List.append_nil] at parts
  rw [← parts]

/-- Blanks behind an unmarked text hide no marker. -/
theorem marker_ofText_eq_none {text : List Char}
    (unmarked : Unmarked (Text.trimEnd (· = ' ') text)) : (ofText text).marker = none :=
  marker_ofTrimmed_eq_none (unmarked.of_suffix (Text.trim_suffix_trimEnd text))

/-- The frame of an untrimmed text with a marker behind is that of the text, marked, if no blank
stands between text and marker. -/
theorem ofText_append_marker {text : List Char} (unmarked : Unmarked text)
    (closed : text.getLast? ≠ some ' ') (marker : EndMarker) :
    ofText (text ++ marker.text) = { ofText text with marker := some marker } := by
  obtain ⟨middle, marker_eq⟩ := marker.text_eq
  have trimmed : Text.trim (· = ' ') text = text.dropWhile (· = ' ') := by
    apply Text.trim_eq_dropWhile
    rintro last isLast
    simpa using fun blank => closed (by rw [isLast, blank])
  have whole : Text.trim (· = ' ') (text ++ marker.text) =
      text.dropWhile (· = ' ') ++ marker.text := by
    rw [marker_eq]
    exact Text.trim_append (by decide) (by decide) text
  rw [ofText, ofText, whole, trimmed]
  exact ofTrimmed_append_marker (unmarked.of_suffix (List.dropWhile_suffix _)) marker

/-- A frame stops as its marker says, else as is given. -/
theorem stopReason_eq_getD (frame : ReplyFrame) (given : Option StopReason) :
    frame.stopReason given =
      ((frame.marker.map EndMarker.stopReason).or given).getD .outOfTokens := by
  cases marked : frame.marker <;> cases given <;> simp [stopReason, marked]

/-- The frame of a block with a tagged core. -/
theorem ofText_block (core : List Char) (marker : EndMarker) :
    ofText (Template.assistantHeader ++ (Template.toolTag ++ core) ++ marker.text) =
      ⟨true, true, core, some marker⟩ := by
  obtain ⟨header, header_eq⟩ := Template.assistantHeader_eq
  obtain ⟨middle, marker_eq⟩ := marker.text_eq
  have trimmed : Text.trim (· = ' ')
      (Template.assistantHeader ++ (Template.toolTag ++ core) ++ marker.text) =
        Template.assistantHeader ++ (Template.toolTag ++ core) ++ marker.text := by
    have kept : Text.trim (· = ' ')
        ('<' :: ((header ++ (Template.toolTag ++ core) ++ '<' :: middle) ++ ['>'])) =
          '<' :: ((header ++ (Template.toolTag ++ core) ++ '<' :: middle) ++ ['>']) :=
      Text.trim_eq_self (by decide) (by decide)
    simpa [header_eq, marker_eq] using kept
  rw [ofText, trimmed, ofTrimmed, List.append_assoc, takeLead_append_self]
  dsimp only
  rw [List.append_assoc, takeLead_append_self]
  dsimp only
  rw [takeMarker_append_text]

end ReplyFrame

/-- The turn says nothing, makes one call and was not cut short. -/
structure AssistantMessage.OnlyCalls (turn : AssistantMessage) (call : ToolCall) : Prop where
  /-- There is no text. -/
  silent : turn.content.plainText = ""
  /-- There is one call. -/
  calls : turn.toolCalls = [call]
  /-- The model stopped at the end of its turn or to wait for the tool. -/
  complete : turn.stopReason = .endOfTurn ∨ turn.stopReason = .endOfMessage

/-- The end marker of a complete turn stands for its stop reason. -/
theorem DialogBlock.stopReason_endingOf {turn : AssistantMessage}
    (complete : turn.stopReason = .endOfTurn ∨ turn.stopReason = .endOfMessage) :
    (endingOf (.assistant turn)).stopReason = turn.stopReason := by
  rcases complete with ended | waits
  · simp [endingOf, ended, EndMarker.stopReason]
  · simp [endingOf, waits, EndMarker.stopReason]

/-- The block of a single call: header, tag, the written call and the end marker. -/
theorem DialogBlock.render_onlyCalls {turn : AssistantMessage} {call : ToolCall}
    (only : turn.OnlyCalls call) (format : ToolPromptFormat) :
    (ofMessage format (.assistant turn)).render =
      Template.assistantHeader ++ (Template.toolTag ++ call.encode format) ++
        (endingOf (.assistant turn)).text := by
  simp [render, ofMessage, roleOf, Message.role, bodyOf, assistantBody, only.silent, only.calls,
    Template.assistantHeader]

/-- A rendered dialog is the blocks around a message, with its own block between them. -/
theorem Dialog.toList_encode_append (earlier later : List Message) (message : Message)
    (family : ModelFamily) (format : ToolPromptFormat) :
    (encode (earlier ++ message :: later) family format).toList =
      (family.beginMarker.toList ++ (blocks format earlier).flatMap DialogBlock.render) ++
        (DialogBlock.ofMessage format message).render ++
          ((blocks format later).flatMap DialogBlock.render ++ Template.assistantHeader) := by
  simp [encode, blocks]

/-- Decoding the block of a single call gives the call that its core holds. -/
theorem Reply.decode_onlyCalls {turn : AssistantMessage} {call : ToolCall}
    {format : ToolPromptFormat} (only : turn.OnlyCalls call)
    (found : call? true (call.encode format) = some ⟨call.tool, call.arguments⟩)
    (callId : String) (given : Option StopReason) :
    decode callId (DialogBlock.ofMessage format (.assistant turn)).render given =
      ⟨.text "", turn.stopReason, [{ call with callId := callId }]⟩ := by
  rw [DialogBlock.render_onlyCalls only, decode, ReplyFrame.ofText_block]
  dsimp only
  rw [found]
  simp [ReplyFrame.stopReason, DialogBlock.stopReason_endingOf only.complete]

namespace ReplyFrame

/-- A frame takes every part off a reply that it can. -/
structure Peels (text : List Char) (frame : ReplyFrame) : Prop where
  /-- Between the blanks at both ends, the parts make up the reply. -/
  whole : Text.trim (· = ' ') text = frame.render
  /-- Without a header, the reply does not start with one. -/
  unheaded : frame.headed = false →
    ¬ Template.assistantHeader <+: Text.trim (· = ' ') text
  /-- Without a tag, what follows the header does not start with one. -/
  untagged : frame.tagged = false →
    ¬ Template.toolTag <+: frame.core ++ markerText frame.marker
  /-- Without an end marker, the core does not end with one. -/
  unmarked : frame.marker = none → Unmarked frame.core

theorem takeLead_eq_iff {lead text rest : List Char} {found : Bool} :
    takeLead lead text = (found, rest) ↔
      text = leadText lead found ++ rest ∧ (found = false → ¬ lead <+: text) := by
  constructor
  · intro taken
    have whole := eq_append_of_takeLead lead text
    rw [taken] at whole
    refine ⟨whole, ?_⟩
    rintro rfl ⟨behind, starts⟩
    rw [← starts, takeLead_append_self] at taken
    cases taken
  · rintro ⟨rfl, absent⟩
    cases found with
    | true => exact takeLead_append_self lead rest
    | false =>
      have missing := Text.dropPrefix?_eq_none_iff.2 (absent rfl)
      rw [takeLead, missing]
      rfl

theorem takeMarker_eq_iff {text rest : List Char} {marker : Option EndMarker} :
    takeMarker text = (rest, marker) ↔
      text = rest ++ markerText marker ∧ (marker = none → Unmarked text) := by
  constructor
  · intro taken
    have whole := eq_append_of_takeMarker text
    rw [taken] at whole
    refine ⟨whole, ?_⟩
    rintro rfl other ⟨front, ends⟩
    rw [← ends, takeMarker_append_text] at taken
    cases taken
  · rintro ⟨rfl, unmarked⟩
    cases marker with
    | some marker => exact takeMarker_append_text rest marker
    | none =>
      have absent (marker : EndMarker) :
          Text.dropSuffix? marker.text (rest ++ markerText none) = none := by
        refine Option.eq_none_iff_forall_ne_some.2 fun front found => ?_
        exact unmarked rfl marker ⟨front, (Text.dropSuffix?_eq_some_iff.1 found).symm⟩
      rw [takeMarker, absent .turn, absent .message]
      simp [markerText]

theorem ofTrimmed_eq_iff {text : List Char} {frame : ReplyFrame} :
    ofTrimmed text = frame ↔
      ∃ behindHeader behindTag,
        takeLead Template.assistantHeader text = (frame.headed, behindHeader) ∧
          takeLead Template.toolTag behindHeader = (frame.tagged, behindTag) ∧
            takeMarker behindTag = (frame.core, frame.marker) := by
  constructor
  · rintro rfl
    exact ⟨_, _, rfl, rfl, rfl⟩
  · rintro ⟨behindHeader, behindTag, header, tag, ending⟩
    simp only [ofTrimmed, header, tag, ending]

/-- The frame of a reply is the one that takes off every part it can. -/
theorem ofText_eq_iff {text : List Char} {frame : ReplyFrame} :
    ofText text = frame ↔ Peels text frame := by
  rw [ofText, ofTrimmed_eq_iff]
  simp only [takeLead_eq_iff, takeMarker_eq_iff]
  constructor
  · rintro ⟨behindHeader, behindTag, ⟨header, noHeader⟩, ⟨rfl, noTag⟩, rfl, noMarker⟩
    refine ⟨?_, noHeader, ?_, ?_⟩
    · rw [header, render]
      simp only [List.append_assoc]
    · intro missing
      simpa [missing, leadText] using noTag missing
    · intro missing
      simpa [missing, markerText] using noMarker missing
  · rintro ⟨whole, unheaded, untagged, unmarked⟩
    refine ⟨leadText Template.toolTag frame.tagged ++ (frame.core ++ markerText frame.marker),
      frame.core ++ markerText frame.marker, ⟨?_, unheaded⟩, ⟨rfl, ?_⟩, rfl, ?_⟩
    · rw [whole, render]
      simp only [List.append_assoc]
    · intro missing
      simpa [missing, leadText] using untagged missing
    · intro missing
      simpa [missing, markerText] using unmarked missing

theorem peels_ofText (text : List Char) : Peels text (ofText text) :=
  ofText_eq_iff.1 rfl

/-- The header and the tag differ in their third character. -/
theorem not_assistantHeader_prefix_toolTag (text : List Char) :
    ¬ Template.assistantHeader <+: Template.toolTag ++ text := by
  intro starts
  have short := starts.take 3
  rw [List.take_append_of_le_length (by decide)] at short
  exact absurd short (by decide)

/-- A header that may be missing and the tag start with one bracket and end with the other. -/
theorem leadText_append_toolTag (headed : Bool) : ∃ middle,
    leadText Template.assistantHeader headed ++ Template.toolTag = '<' :: (middle ++ ['>']) := by
  cases headed with
  | true => exact ⟨(Template.assistantHeader ++ Template.toolTag.dropLast).tail, by decide⟩
  | false => exact ⟨Template.toolTag.dropLast.tail, by decide⟩

/-- A tag behind blanks and a header that may be missing is taken off, whatever follows it. -/
theorem peels_announced {blanks : List Char} (blank : ∀ c ∈ blanks, c = ' ') (headed : Bool)
    (rest : List Char) : ∃ core marker,
    Peels (blanks ++ (leadText Template.assistantHeader headed ++ (Template.toolTag ++ rest)))
      ⟨headed, true, core, marker⟩ := by
  have trimmed : Text.trim (· = ' ')
      (blanks ++ (leadText Template.assistantHeader headed ++ (Template.toolTag ++ rest))) =
        leadText Template.assistantHeader headed ++
          (Template.toolTag ++ Text.trimEnd (· = ' ') rest) := by
    obtain ⟨middle, front⟩ := leadText_append_toolTag headed
    have joined (tail : List Char) : leadText Template.assistantHeader headed ++
        (Template.toolTag ++ tail) = '<' :: (middle ++ '>' :: tail) := by
      rw [← List.append_assoc, front]
      simp
    rw [joined, joined]
    exact Text.trim_append_append (fun c inside => decide_eq_true (blank c inside)) (by decide)
      (by decide) middle rest
  refine ⟨_, _, ofText_eq_iff.1 (ofTrimmed_eq_iff.2 ⟨_, _, takeLead_eq_iff.2 ⟨trimmed, ?_⟩,
    takeLead_append_self _ _, rfl⟩)⟩
  rintro rfl
  rw [trimmed]
  exact not_assistantHeader_prefix_toolTag _

end ReplyFrame

end LlamaGateway
