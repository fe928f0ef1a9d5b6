import LlamaGateway.Proofs.Call.Payload

/-!
# What building a call sends

Building a call fetches remote images and posts nothing. Only a call with messages fetches at all,
so a call with a prompt is built without any request.
-/

namespace LlamaGateway

/-- The request fetches an image. -/
def OutgoingRequest.IsFetch (request : OutgoingRequest) : Prop :=
  request.isPost = false

/-- The error tells of a state that no request leads to. -/
def InferenceError.IsInternal (failure : InferenceError) : Prop :=
  ∃ text, failure = .internal text

namespace ImageData

theorem sends_address (fetchRemote : Bool) (picture : Image) :
    Session.Sends OutgoingRequest.IsFetch (address fetchRemote picture) := by
  cases picture with
  | data bytes format => exact .pure _
  | url remote =>
    rw [address]
    split
    · rw [fetch]
      split
      · exact .exchange (show OutgoingRequest.IsFetch (.fetch remote) from rfl) _
      · exact .lift _
    · exact .pure _

/-- A failed fetch is the fault of the other side. -/
theorem not_isInternal_of_ofReply {remote : String} {reply : Except String IncomingReply}
    {failure : InferenceError} (fails : ofReply remote reply = .error failure) :
    ¬ failure.IsInternal := by
  rintro ⟨text, rfl⟩
  cases reply with
  | error cause => cases fails
  | ok reply =>
    rw [ofReply] at fails
    split at fails
    · cases fails
    · split at fails <;> cases fails

theorem failsWith_address (fetchRemote : Bool) (picture : Image) :
    Session.FailsWith (¬ InferenceError.IsInternal ·) (address fetchRemote picture) := by
  cases picture with
  | data bytes format => exact .pure _
  | url remote =>
    rw [address]
    split
    · rw [fetch]
      split
      · exact .exchange fun _ _ => not_isInternal_of_ofReply
      · exact .lift fun _ => not_isInternal_of_ofReply
    · exact .pure _

end ImageData

namespace CallMessages

theorem sends_build (fetchRemote : Bool) (messages : List Message) :
    Session.Sends OutgoingRequest.IsFetch (build fetchRemote messages) := by
  refine .each (fun message => .bind (.each (fun part => ?_) _) fun _ => .pure _) _
  cases part with
  | text words => exact .pure _
  | image picture => exact .bind (ImageData.sends_address fetchRemote picture) fun _ => .pure _

theorem failsWith_build (fetchRemote : Bool) (messages : List Message) :
    Session.FailsWith (¬ InferenceError.IsInternal ·) (build fetchRemote messages) := by
  refine .each (fun message => .bind (.each (fun part => ?_) _) fun _ => .pure _) _
  cases part with
  | text words => exact .pure _
  | image picture => exact .bind (ImageData.failsWith_address fetchRemote picture) fun _ => .pure _

end CallMessages

/-- The request cannot be rendered for the model. -/
def InferenceError.IsInvalidRequest (failure : InferenceError) : Prop :=
  ∃ text, failure = .invalidRequest text

namespace Augmentation

variable {request : ChatRequest} {system : Option Content} {today : CalendarDate}
  {failure : InferenceError}

theorem isInvalidRequest_of_dateHeaderMessages
    (fails : dateHeaderMessages request system today = .error failure) :
    failure.IsInvalidRequest := by
  have refused : dateHeaderTools request = .error failure := error_of_bind_pure fails
  rw [dateHeaderTools] at refused
  split at refused
  · cases refused
  · split at refused <;> cases refused
    exact ⟨_, rfl⟩

theorem isInvalidRequest_of_functionListMessages
    (fails : functionListMessages request system = .error failure) :
    failure.IsInvalidRequest := by
  have refused : functionListText request system = .error failure := error_of_bind_pure fails
  simp only [functionListText] at refused
  split at refused
  · cases refused
  · split at refused <;> cases refused
    exact ⟨_, rfl⟩

/-- Messages that a prompt cannot be made of are the fault of the request. -/
theorem isInvalidRequest_of_augment {family : ModelFamily}
    (fails : augment request family today = .error failure) : failure.IsInvalidRequest := by
  simp only [augment] at fails
  split at fails
  · cases fails
  · split at fails
    · cases fails
      exact ⟨_, rfl⟩
    · exact isInvalidRequest_of_dateHeaderMessages (error_of_map fails)
  · split at fails
    · cases fails
      exact ⟨_, rfl⟩
    · exact isInvalidRequest_of_functionListMessages (error_of_map fails)

end Augmentation

namespace BuiltCall

variable {request : GenerationRequest} {family : ModelFamily} {today : CalendarDate}
  {failure : InferenceError}

theorem not_isInternal_of_checkedOptions (fails : checkedOptions request = .error failure) :
    ¬ failure.IsInternal := by
  rintro ⟨text, rfl⟩
  have noFormat (format : Option ResponseFormat) :
      CallOptions.formatMembers format ≠ .error (.internal text) := by
    rcases format with _ | schema | rules | tag <;> rintro ⟨⟩
  cases request with
  | chat chat => exact noFormat _ (error_of_map fails)
  | completion completion =>
    rw [checkedOptions] at fails
    split at fails
    · cases fails
    · exact noFormat _ (error_of_map fails)

theorem not_isInternal_of_renderPrompt
    (fails : renderPrompt request family today = .error failure) : ¬ failure.IsInternal := by
  rintro ⟨text, rfl⟩
  cases request with
  | completion completion => cases fails
  | chat chat =>
    obtain ⟨other, isOther⟩ := Augmentation.isInvalidRequest_of_augment (error_of_bind_pure fails)
    cases isOther

variable (request family today) (fetchRemote : Bool)

/-- Building a call posts nothing. -/
theorem sends_build :
    Session.Sends OutgoingRequest.IsFetch (build request family today fetchRemote) := by
  refine .bind (.lift _) fun options => ?_
  unfold withOptions
  split
  · exact .bind (CallMessages.sends_build fetchRemote _) fun _ => .pure _
  · exact .lift _

/-- Building a call leads to no state that should not be. -/
theorem failsWith_build :
    Session.FailsWith (¬ InferenceError.IsInternal ·) (build request family today fetchRemote) := by
  refine .bind (.lift fun _ => not_isInternal_of_checkedOptions) fun options => ?_
  unfold withOptions
  split
  · exact .bind (CallMessages.failsWith_build fetchRemote _) fun _ => .pure _
  · exact .lift fun _ fails => not_isInternal_of_renderPrompt (error_of_map fails)

variable {request family today fetchRemote} {network : Network} {sent : Nat} {call : BuiltCall}
  (built : (build request family today fetchRemote network sent).result = .ok call)

include built

/-- A call with a prompt is built without any request. -/
theorem exchanges_build_of_prompt (isPrompt : call.shape = .prompt) :
    (build request family today fetchRemote network sent).exchanges = [] := by
  obtain ⟨options, checked, rest⟩ := Session.result_bind_eq_ok_iff.1 built
  have quiet : Session.lift (checkedOptions request) network sent = ⟨.ok options, []⟩ :=
    congrArg (Traced.mk · []) checked
  rw [build, Session.bind_of_ok_quiet quiet]
  -- A request with images would have been built as messages.
  have noMedia : request.hasMedia = false := by
    rw [← Bool.not_eq_true, GenerationRequest.hasMedia_iff, not_not]
    cases course_of_build built with
    | prompt _ noImage _ => exact noImage
    | messages => cases isPrompt
  unfold withOptions
  rw [noMedia]
  rfl

/-- A call is streamed as its request wants it. -/
theorem stream_of_build : call.stream = request.stream := by
  have isStream := (course_of_build built).payload.stream
  simp [stream, isStream, Json.boolean?]

end BuiltCall

end LlamaGateway
