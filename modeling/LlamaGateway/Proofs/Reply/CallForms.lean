import LlamaGateway.Proofs.Reply.FirstCall
import LlamaGateway.Proofs.Reply.Frame
import LlamaGateway.Reply.Decoding

/-!
# Written forms of calls

Which call a reply holds is told here from the written forms in its core alone: the first function
tag comes first, a function object counts only where there is no tag, the first method call only
where neither of them is a call, and code only in a tagged reply without any of these.

A reply is blanks, a header, a tag, a core, an end marker and blanks. Decoding loses none of it: the
core is the content or holds the call, and the stop reason is that of the end marker or, without
one, the one that was given.
-/

namespace LlamaGateway

namespace Reply

/-- Neither a function tag nor a function object in a core is a call. -/
inductive NoFunctionCall (core : List Char) : Prop
  /-- The argument text of the first tag is not that of an object; the core itself may be one. -/
  | unreadable {name arguments : List Char} (first : FunctionTag.IsFirst core name arguments)
      (broken : ∀ fields, ¬ FunctionTag.IsObject arguments fields)
  /-- There is no tag, and the core is no function object. -/
  | plain (untagged : Text.Nowhere FunctionTag.StartsAt core)
      (other : FunctionObject.ofText? core = none)

/-- The call that a core holds, if it holds one. -/
inductive Holds (tagged : Bool) (core : List Char) : Option FoundCall → Prop
  /-- The first function tag with an object as its arguments. -/
  | functionTag {name arguments : List Char} {fields : Json.Fields}
      (first : FunctionTag.IsFirst core name arguments)
      (object : FunctionTag.IsObject arguments fields) :
      Holds tagged core (some (.named (String.ofList (Text.trimBlank name)) fields))
  /-- A function object without a tag anywhere. -/
  | functionObject {call : FoundCall} (untagged : Text.Nowhere FunctionTag.StartsAt core)
      (found : FunctionObject.ofText? core = some call) : Holds tagged core (some call)
  /-- The first method call. -/
  | query {word query : List Char} (missing : NoFunctionCall core)
      (first : QueryCall.IsFirst core word query) :
      Holds tagged core
        (some (.query (ToolName.ofString (String.ofList word)) (.string (String.ofList query))))
  /-- A tagged core without another call is code. -/
  | code (isTagged : tagged = true) (missing : NoFunctionCall core)
      (unasked : Text.Nowhere QueryCall.StartsAt core) : Holds tagged core (some (.code core))
  /-- Any other core is text. -/
  | text (untagged : tagged = false) (missing : NoFunctionCall core)
      (unasked : Text.Nowhere QueryCall.StartsAt core) : Holds tagged core none

theorem functionCall?_of_isFirst {core name arguments : List Char}
    (first : FunctionTag.IsFirst core name arguments) :
    functionCall? core = FunctionTag.call? name arguments := by
  rw [functionCall?, FunctionTag.find?_eq_some_iff.2 first]

theorem functionCall?_of_nowhere {core : List Char}
    (untagged : Text.Nowhere FunctionTag.StartsAt core) :
    functionCall? core = FunctionObject.ofText? core := by
  rw [functionCall?, FunctionTag.find?_eq_none_iff.2 untagged]

theorem functionCall?_eq_none_iff {core : List Char} :
    functionCall? core = none ↔ NoFunctionCall core := by
  constructor
  · intro missing
    cases found : FunctionTag.find? core with
    | none =>
      have untagged := FunctionTag.find?_eq_none_iff.1 found
      exact .plain untagged (functionCall?_of_nowhere untagged ▸ missing)
    | some parts =>
      obtain ⟨name, arguments⟩ := parts
      have first := FunctionTag.find?_eq_some_iff.1 found
      rw [functionCall?_of_isFirst first] at missing
      exact .unreadable first (FunctionTag.call?_eq_none_iff.1 missing)
  · intro missing
    cases missing with
    | unreadable first broken =>
      rw [functionCall?_of_isFirst first, FunctionTag.call?_eq_none_iff.2 broken]
    | plain untagged other => rw [functionCall?_of_nowhere untagged, other]

theorem call?_of_functionCall? {core : List Char} {call : FoundCall}
    (found : functionCall? core = some call) (tagged : Bool) : call? tagged core = some call := by
  simp only [call?, found]

theorem ofText?_query_of_isFirst {core word query : List Char}
    (first : QueryCall.IsFirst core word query) :
    QueryCall.ofText? core =
      some (.query (ToolName.ofString (String.ofList word)) (.string (String.ofList query))) := by
  rw [QueryCall.ofText?, QueryCall.find?_eq_some_iff.2 first, Option.map_some]

theorem ofText?_query_of_nowhere {core : List Char}
    (unasked : Text.Nowhere QueryCall.StartsAt core) : QueryCall.ofText? core = none := by
  rw [QueryCall.ofText?, QueryCall.find?_eq_none_iff.2 unasked, Option.map_none]

/-- A core is read as the call that it holds. -/
theorem Holds.call?_eq {tagged : Bool} {core : List Char} {found : Option FoundCall}
    (holds : Holds tagged core found) : call? tagged core = found := by
  cases holds with
  | functionTag first object =>
    apply call?_of_functionCall?
    rw [functionCall?_of_isFirst first]
    exact FunctionTag.call?_eq_some_iff.2 ⟨_, object, rfl⟩
  | functionObject untagged found =>
    apply call?_of_functionCall?
    rw [functionCall?_of_nowhere untagged, found]
  | query missing first =>
    simp only [call?, functionCall?_eq_none_iff.2 missing, ofText?_query_of_isFirst first]
  | code isTagged missing unasked =>
    simp only [call?, functionCall?_eq_none_iff.2 missing, ofText?_query_of_nowhere unasked,
      if_pos isTagged]
  | text untagged missing unasked =>
    simp only [call?, functionCall?_eq_none_iff.2 missing, ofText?_query_of_nowhere unasked,
      untagged, Bool.false_eq_true, if_false]

/-- Every core has one of the forms. -/
theorem holds_call? (tagged : Bool) (core : List Char) : Holds tagged core (call? tagged core) := by
  cases function : functionCall? core with
  | some call =>
    rw [call?_of_functionCall? function]
    cases found : FunctionTag.find? core with
    | none =>
      have untagged := FunctionTag.find?_eq_none_iff.1 found
      exact .functionObject untagged (functionCall?_of_nowhere untagged ▸ function)
    | some parts =>
      obtain ⟨name, arguments⟩ := parts
      have first := FunctionTag.find?_eq_some_iff.1 found
      rw [functionCall?_of_isFirst first] at function
      obtain ⟨fields, object, rfl⟩ := FunctionTag.call?_eq_some_iff.1 function
      exact .functionTag first object
  | none =>
    have missing := functionCall?_eq_none_iff.1 function
    cases found : QueryCall.find? false core with
    | some parts =>
      obtain ⟨word, query⟩ := parts
      have first := QueryCall.find?_eq_some_iff.1 found
      have holds : Holds tagged core _ := .query missing first
      rwa [holds.call?_eq]
    | none =>
      have unasked := QueryCall.find?_eq_none_iff.1 found
      cases tagged with
      | true =>
        have holds : Holds true core _ := .code rfl missing unasked
        rwa [holds.call?_eq]
      | false =>
        have holds : Holds false core _ := .text rfl missing unasked
        rwa [holds.call?_eq]

theorem call?_eq_iff {tagged : Bool} {core : List Char} {found : Option FoundCall} :
    call? tagged core = found ↔ Holds tagged core found :=
  ⟨fun same => same ▸ holds_call? tagged core, Holds.call?_eq⟩

/-- A tagged core is at least code. -/
theorem exists_holds_of_tagged (core : List Char) : ∃ call, Holds true core (some call) := by
  have holds := holds_call? true core
  cases found : call? true core with
  | some call => exact ⟨call, found ▸ holds⟩
  | none =>
    rw [found] at holds
    cases holds with
    | text untagged => cases untagged

/-- The calls of a turn with at most one call. -/
def callsOf (callId : String) (found : Option FoundCall) : List ToolCall :=
  (found.map fun call => ⟨callId, call.tool, call.arguments⟩).toList

theorem callsOf_injective {callId : String} {found other : Option FoundCall}
    (same : callsOf callId found = callsOf callId other) : found = other := by
  rcases found with _ | ⟨tool, arguments⟩ <;> rcases other with _ | ⟨tool', arguments'⟩ <;>
    simp_all [callsOf]

/-- The turn of a reply with the given core and call. -/
def turnOf (callId : String) (core : List Char) (stopReason : StopReason) :
    Option FoundCall → AssistantMessage
  | some call => ⟨.text "", stopReason, [⟨callId, call.tool, call.arguments⟩]⟩
  | none => ⟨.text (String.ofList core), stopReason, []⟩

/-- Decoding depends on the peeled reply alone. -/
theorem decode_of_peels {text : List Char} {frame : ReplyFrame}
    (peels : ReplyFrame.Peels text frame) (callId : String) (given : Option StopReason) :
    decode callId text given =
      turnOf callId frame.core (frame.stopReason given) (call? frame.tagged frame.core) := by
  rw [decode, ReplyFrame.ofText_eq_iff.2 peels]
  cases call? frame.tagged frame.core <;> rfl

theorem toolCalls_decode_of_peels {text : List Char} {frame : ReplyFrame}
    (peels : ReplyFrame.Peels text frame) (callId : String) (given : Option StopReason) :
    (decode callId text given).toolCalls = callsOf callId (call? frame.tagged frame.core) := by
  rw [decode_of_peels peels]
  cases call? frame.tagged frame.core <;> rfl

/-- A reply has the calls that its peeled core holds. -/
theorem toolCalls_decode_eq_iff {text : List Char} {frame : ReplyFrame}
    (peels : ReplyFrame.Peels text frame) (callId : String) (given : Option StopReason)
    (found : Option FoundCall) :
    (decode callId text given).toolCalls = callsOf callId found ↔
      Holds frame.tagged frame.core found := by
  rw [toolCalls_decode_of_peels peels, ← call?_eq_iff]
  exact ⟨callsOf_injective, congrArg (callsOf callId)⟩

end Reply

/-- A reply has exactly the call that is written in what remains once blanks, header, tag and one
end marker are taken off. -/
theorem reply_has_written_call (callId : String) (text : List Char) (given : Option StopReason) :
    ∃ frame, ReplyFrame.Peels text frame ∧ ∀ found,
      (Reply.decode callId text given).toolCalls = Reply.callsOf callId found ↔
        Reply.Holds frame.tagged frame.core found :=
  ⟨ReplyFrame.ofText text, ReplyFrame.peels_ofText text,
    Reply.toolCalls_decode_eq_iff (ReplyFrame.peels_ofText text) callId given⟩

namespace ReplyFrame

/-- A reply is divided into its frame and the blanks around it, and every outer part is taken off
where it is there. -/
structure Divides (text front : List Char) (frame : ReplyFrame) (back : List Char) : Prop where
  /-- The parts make up the reply. -/
  whole : text = front ++ frame.render ++ back
  /-- The part in front of the frame is blank. -/
  front_blank : ∀ c ∈ front, c = ' '
  /-- The part behind the frame is blank. -/
  back_blank : ∀ c ∈ back, c = ' '
  /-- No blank is left at either end of the frame. -/
  trimmed : Text.Trimmed (· = ' ') frame.render
  /-- A header at the start of the frame is taken. -/
  header : Template.assistantHeader <+: frame.render → frame.headed = true
  /-- A tag behind the header is taken. -/
  tag : Template.toolTag <+: leadText Template.toolTag frame.tagged ++ frame.core ++
    markerText frame.marker → frame.tagged = true
  /-- An end marker at the end of what follows the tag is taken. -/
  ending : ∀ marker : EndMarker, marker.text <:+ frame.core ++ markerText frame.marker →
    frame.marker = some marker

variable {text front back : List Char} {frame : ReplyFrame}

theorem Divides.peels (divides : Divides text front frame back) : Peels text frame := by
  have trimmed : Text.trim (· = ' ') text = frame.render := by
    rw [divides.whole]
    exact divides.trimmed.trim_eq (by simpa using divides.front_blank)
      (by simpa using divides.back_blank)
  refine ⟨trimmed, fun missing starts => ?_, fun missing starts => ?_,
    fun missing marker ends => ?_⟩
  · rw [trimmed] at starts
    simp [divides.header starts] at missing
  · have taken := divides.tag (by simpa [missing, leadText] using starts)
    simp [taken] at missing
  · have taken := divides.ending marker (by simpa [missing, markerText] using ends)
    simp [taken] at missing

/-- What a frame takes off a reply makes up the reply with the blanks around it. -/
theorem Peels.exists_divides (peels : Peels text frame) :
    ∃ front back, Divides text front frame back := by
  obtain ⟨front, back, whole, atStart, atEnd⟩ :=
    Text.exists_eq_append_trim_append (· = ' ') text
  have trimmed := Text.trimmed_trim (· = ' ') text
  rw [peels.whole] at whole trimmed
  refine ⟨front, back, whole, by simpa using atStart, by simpa using atEnd, trimmed,
    fun starts => ?_, fun starts => ?_, fun marker ends => ?_⟩
  · by_contra missing
    exact peels.unheaded (by simpa using missing) (peels.whole ▸ starts)
  · by_contra missing
    have untagged : frame.tagged = false := by simpa using missing
    exact peels.untagged untagged (by simpa [untagged, leadText] using starts)
  · have same := takeMarker_eq_iff.2 ⟨rfl, fun missing => by
      simpa [missing, markerText] using peels.unmarked missing⟩
    obtain ⟨rest, whole⟩ := ends
    rw [← whole, takeMarker_append_text] at same
    exact (congrArg Prod.snd same).symm

end ReplyFrame

namespace Reply

/-- A turn accounts for all parts of a frame. -/
structure Accounts (frame : ReplyFrame) (given : Option StopReason) (turn : AssistantMessage) :
    Prop where
  /-- There is at most one call. -/
  one_call : turn.toolCalls.length ≤ 1
  /-- Behind a tag there is a call. -/
  tagged : frame.tagged = true → turn.toolCalls.length = 1
  /-- Without a call, the content is the core. -/
  kept : turn.toolCalls = [] → turn.content = .text (String.ofList frame.core)
  /-- With a call, there is no content. -/
  called : turn.toolCalls ≠ [] → turn.content = .text ""
  /-- The stop reason is that of the end marker, whatever was given. -/
  marked : ∀ marker, frame.marker = some marker → turn.stopReason = marker.stopReason
  /-- Without an end marker, the stop reason is the given one. -/
  unmarked : frame.marker = none → turn.stopReason = given.getD .outOfTokens

theorem accounts_decode {text : List Char} {frame : ReplyFrame}
    (peels : ReplyFrame.Peels text frame) (callId : String) (given : Option StopReason) :
    Accounts frame given (decode callId text given) := by
  rw [decode_of_peels peels]
  have holds := holds_call? frame.tagged frame.core
  cases found : call? frame.tagged frame.core with
  | some call =>
    refine ⟨le_rfl, fun _ => rfl, nofun, fun _ => rfl, fun marker marked => ?_, fun missing => ?_⟩
    · simp [turnOf, ReplyFrame.stopReason, marked]
    · simp [turnOf, ReplyFrame.stopReason_eq_getD, missing]
  | none =>
    rw [found] at holds
    refine ⟨Nat.zero_le 1, fun tagged => ?_, fun _ => rfl, fun called => absurd rfl called,
      fun marker marked => ?_, fun missing => ?_⟩
    · cases holds with
      | text untagged => simp [untagged] at tagged
    · simp [turnOf, ReplyFrame.stopReason, marked]
    · simp [turnOf, ReplyFrame.stopReason_eq_getD, missing]

end Reply

/-- A reply is divided into blanks and the parts of a frame in one way, up to the blanks, and its
turn accounts for every part. -/
theorem decoding_accounts_for_reply (callId : String) (text : List Char)
    (given : Option StopReason) :
    (∃! frame, ∃ front back, ReplyFrame.Divides text front frame back) ∧
      ∀ front frame back, ReplyFrame.Divides text front frame back →
        Reply.Accounts frame given (Reply.decode callId text given) := by
  constructor
  · refine ⟨ReplyFrame.ofText text, (ReplyFrame.peels_ofText text).exists_divides, ?_⟩
    rintro frame ⟨front, back, divides⟩
    exact (ReplyFrame.ofText_eq_iff.2 divides.peels).symm
  · intro front frame back divides
    exact Reply.accounts_decode divides.peels callId given

end LlamaGateway
