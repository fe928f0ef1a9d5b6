import LlamaGateway.Proofs.Call.Payload
import LlamaGateway.Proofs.Prompt.KeptMessages

/-!
# Refused requests

Without fetching, four things can keep a call from being built, and the first of them is reported:
images in a completion, an unknown response format, a system message that is not the first one, and
custom tools in a format that the family's prompts do not take. Nothing else matters.
-/

namespace LlamaGateway

/-- What can keep a call from being built. -/
inductive BuildObstacle where
  /-- A completion holds an image. -/
  | completionImage
  /-- The response format has an unknown tag. -/
  | unknownFormat (tag : String)
  /-- A system message is not the first message. -/
  | misplacedSystem
  /-- The prompts of these models do not describe custom tools in this format. -/
  | untakenTools (format : ToolPromptFormat) (models : String)

namespace BuildObstacle

/-- The place of an obstacle among those that a request can meet. -/
def rank : BuildObstacle → Nat
  | .completionImage => 1
  | .unknownFormat _ => 2
  | .misplacedSystem => 3
  | .untakenTools _ _ => 4

/-- What is reported. -/
def error : BuildObstacle → InferenceError
  | .completionImage =>
    .unsupportedMedia "fireworks does not support media for completion requests"
  | .unknownFormat tag => .unsupportedResponseFormat tag
  | .misplacedSystem =>
    .invalidRequest "only one system message is supported, at the start of the conversation"
  | .untakenTools format models =>
    .invalidRequest ("tool prompt format " ++ format.name ++ " is not supported for " ++ models ++
      " models")

/-- An obstacle stands in the way of a request to a family. -/
inductive Meets (request : GenerationRequest) (family : ModelFamily) : BuildObstacle → Prop
  | completionImage {completion : CompletionRequest}
      (isCompletion : request = .completion completion)
      (someImage : completion.content.images ≠ []) : Meets request family .completionImage
  | unknownFormat {tag : String} (format : request.responseFormat = some (.unsupported tag)) :
      Meets request family (.unknownFormat tag)
  | misplacedSystem {chat : ChatRequest} (isChat : request = .chat chat)
      (noImage : request.images = []) (styled : family.toolPromptStyle ≠ .plain)
      (misplaced : chat.Misplaced) : Meets request family .misplacedSystem
  | untakenTools {chat : ChatRequest} (isChat : request = .chat chat)
      (noImage : request.images = []) (custom : chat.HasCustomTool)
      (untaken : family.toolPromptStyle.takes chat.toolPromptFormat = false) :
      Meets request family (.untakenTools chat.toolPromptFormat family.toolPromptStyle.models)

/-- An obstacle stands in the way, and none comes before it. -/
structure IsFirst (request : GenerationRequest) (family : ModelFamily) (obstacle : BuildObstacle) :
    Prop where
  /-- It stands in the way. -/
  meets : Meets request family obstacle
  /-- No other one comes before it. -/
  first : ∀ other, Meets request family other → obstacle.rank ≤ other.rank

variable {request : GenerationRequest} {family : ModelFamily}

/-- Where there is an obstacle, there is a first one. -/
theorem exists_first {obstacle : BuildObstacle} (meets : Meets request family obstacle) :
    ∃ first, IsFirst request family first := by
  induction place : obstacle.rank using Nat.strong_induction_on generalizing obstacle with
  | h place' earlier =>
    subst place
    by_cases preceded : ∃ other, Meets request family other ∧ other.rank < obstacle.rank
    · obtain ⟨other, meetsOther, less⟩ := preceded
      exact earlier other.rank less meetsOther rfl
    · refine ⟨obstacle, meets, fun other meetsOther => ?_⟩
      exact Nat.le_of_not_lt fun less => preceded ⟨other, meetsOther, less⟩

theorem IsFirst.not_meets {obstacle : BuildObstacle} (first : IsFirst request family obstacle)
    (other : BuildObstacle) (earlier : other.rank < obstacle.rank) :
    ¬ Meets request family other :=
  fun meets => Nat.not_le_of_lt earlier (first.first other meets)

end BuildObstacle

namespace Session

/-- The work of a list is quiet if that of every item is. -/
theorem exists_each_eq_pure {α β : Type} {work : α → Session β}
    (quiet : ∀ item, ∃ value, work item = pure value) (items : List α) :
    ∃ values, each work items = pure values := by
  induction items with
  | nil => exact ⟨[], rfl⟩
  | cons item rest induction =>
    obtain ⟨value, first⟩ := quiet item
    obtain ⟨values, others⟩ := induction
    refine ⟨value :: values, ?_⟩
    rw [each, first, others]
    rfl

end Session

namespace CallMessages

/-- Without fetching, every part can be converted. -/
theorem exists_part_eq_pure (item : ContentPart) : ∃ value, part false item = pure value := by
  cases item with
  | text words => exact ⟨_, rfl⟩
  | image picture => cases picture <;> exact ⟨_, rfl⟩

/-- Without fetching, every conversation can be converted. -/
theorem exists_build_eq_pure (messages : List Message) :
    ∃ values, build false messages = pure values := by
  refine Session.exists_each_eq_pure (fun message => ?_) messages
  obtain ⟨parts, converted⟩ := Session.exists_each_eq_pure exists_part_eq_pure message.parts
  refine ⟨withParts message parts, ?_⟩
  rw [one, converted]
  rfl

end CallMessages

namespace BuiltCall

variable {request : GenerationRequest} {family : ModelFamily} {today : CalendarDate}
  {fetchRemote : Bool} {network : Network} {sent : Nat}

theorem result_of_unchecked {failure : InferenceError}
    (unchecked : checkedOptions request = .error failure) :
    (build request family today fetchRemote network sent).result = .error failure := by
  rw [build, unchecked]
  rfl

/-- A request without images is rendered once its options are accepted. -/
theorem result_of_rendered {options : Json.Fields} (checked : checkedOptions request = .ok options)
    (noImage : request.images = []) :
    (build request family today fetchRemote network sent).result =
      (renderPrompt request family today).map (ofPrompt request family options) := by
  have noMedia : request.hasMedia = false := by
    rw [← Bool.not_eq_true, request.hasMedia_iff, noImage]
    exact not_not.2 rfl
  rw [build, checked]
  change (withOptions request family today fetchRemote options network sent).result = _
  simp only [withOptions, noMedia, Session.lift_apply]

/-- A chat with an image is converted once its options are accepted. -/
theorem exists_result_of_converted {options : Json.Fields} {chat : ChatRequest}
    (checked : checkedOptions (.chat chat) = .ok options)
    (someImage : (GenerationRequest.chat chat).images ≠ []) :
    ∃ call, (build (.chat chat) family today false network sent).result = .ok call := by
  obtain ⟨values, converted⟩ := CallMessages.exists_build_eq_pure chat.messages
  refine ⟨ofMessages (.chat chat) options values, ?_⟩
  rw [build, checked]
  change (withOptions (.chat chat) family today false options network sent).result = _
  simp only [withOptions, (GenerationRequest.hasMedia_iff _).2 someImage, converted]
  rfl

theorem checkedOptions_of_image {completion : CompletionRequest}
    (someImage : completion.content.images ≠ []) :
    checkedOptions (.completion completion) = .error BuildObstacle.completionImage.error :=
  if_pos ((GenerationRequest.hasMedia_iff (.completion completion)).2 someImage)

theorem checkedOptions_of_noImage
    (noImage : ¬ BuildObstacle.Meets request family .completionImage) :
    checkedOptions request = CallOptions.build request.sampling request.responseFormat := by
  cases request with
  | chat chat => rfl
  | completion completion =>
    refine if_neg fun media => noImage (.completionImage rfl ?_)
    exact (GenerationRequest.hasMedia_iff (.completion completion)).1 media

theorem exists_checkedOptions (noImage : ¬ BuildObstacle.Meets request family .completionImage)
    (known : ∀ tag, ¬ BuildObstacle.Meets request family (.unknownFormat tag)) :
    ∃ options, checkedOptions request = .ok options := by
  rw [checkedOptions_of_noImage noImage, CallOptions.build]
  rcases format : request.responseFormat with _ | schema | rules | tag
  · exact ⟨_, rfl⟩
  · exact ⟨_, rfl⟩
  · exact ⟨_, rfl⟩
  · exact absurd (.unknownFormat format) (known tag)

end BuiltCall

namespace ChatRequest

variable {chat : ChatRequest} {family : ModelFamily} {today : CalendarDate}

theorem prompt_of_refused {failure : InferenceError}
    (refused : Augmentation.augment chat family today = .error failure) :
    chat.prompt family today = .error failure := by
  rw [ChatRequest.prompt, refused]
  rfl

theorem prompt_of_untaken (placed : ¬ (family.toolPromptStyle ≠ .plain ∧ chat.Misplaced))
    (custom : chat.HasCustomTool)
    (untaken : family.toolPromptStyle.takes chat.toolPromptFormat = false) :
    chat.prompt family today = .error
      (BuildObstacle.untakenTools chat.toolPromptFormat family.toolPromptStyle.models).error := by
  have styled : family.toolPromptStyle ≠ .plain := by
    intro plain
    rw [plain] at untaken
    cases untaken
  refine prompt_of_refused ?_
  rw [Augmentation.augment_of_placed styled fun misplaced => placed ⟨styled, misplaced⟩,
    Augmentation.leadingMessages_of_untaken custom untaken]
  rfl

theorem exists_prompt (today : CalendarDate)
    (placed : ¬ (family.toolPromptStyle ≠ .plain ∧ chat.Misplaced))
    (taken : chat.HasCustomTool → family.toolPromptStyle.takes chat.toolPromptFormat = true) :
    ∃ rendered, chat.prompt family today = .ok rendered := by
  by_cases plain : family.toolPromptStyle = .plain
  · exact ⟨_, prompt_eq_ok_iff.2 ⟨_, Augmentation.augment_of_plain plain, rfl⟩⟩
  · obtain ⟨lead, leading, -⟩ :=
      Augmentation.exists_leadingMessages today plain taken
    have augmented : Augmentation.augment chat family today =
        .ok (lead ++ (Augmentation.splitSystem chat.messages).2) := by
      rw [Augmentation.augment_of_placed plain fun misplaced => placed ⟨plain, misplaced⟩, leading]
      rfl
    exact ⟨_, prompt_eq_ok_iff.2 ⟨_, augmented, rfl⟩⟩

end ChatRequest

namespace BuiltCall

variable {request : GenerationRequest} {family : ModelFamily}

/-- The options are accepted where an obstacle of the prompt is the first one. -/
theorem exists_checkedOptions_of_isFirst {obstacle : BuildObstacle}
    (first : BuildObstacle.IsFirst request family obstacle) (later : 2 < obstacle.rank) :
    ∃ options, checkedOptions request = .ok options :=
  exists_checkedOptions (first.not_meets .completionImage (Nat.lt_of_succ_lt later))
    fun tag => first.not_meets (.unknownFormat tag) later

variable (today : CalendarDate) (network : Network) (sent : Nat)

/-- The first obstacle is reported. -/
theorem result_of_isFirst {obstacle : BuildObstacle}
    (first : BuildObstacle.IsFirst request family obstacle) :
    (build request family today false network sent).result = .error obstacle.error := by
  cases first.meets with
  | completionImage isCompletion someImage =>
    subst isCompletion
    exact result_of_unchecked (checkedOptions_of_image someImage)
  | unknownFormat format =>
    have noImage := first.not_meets .completionImage Nat.one_lt_two
    refine result_of_unchecked ?_
    rw [checkedOptions_of_noImage noImage, format]
    rfl
  | misplacedSystem isChat noImage styled misplaced =>
    subst isChat
    obtain ⟨options, checked⟩ := exists_checkedOptions_of_isFirst first (Nat.lt_succ_self 2)
    rw [result_of_rendered checked noImage, renderPrompt,
      ChatRequest.prompt_of_refused (Augmentation.augment_of_misplaced styled misplaced)]
    rfl
  | @untakenTools chat isChat noImage custom untaken =>
    subst isChat
    obtain ⟨options, checked⟩ :=
      exists_checkedOptions_of_isFirst first (Nat.lt_add_of_pos_right Nat.two_pos)
    have placed : ¬ (family.toolPromptStyle ≠ .plain ∧ chat.Misplaced) := by
      rintro ⟨styled, misplaced⟩
      exact first.not_meets .misplacedSystem (Nat.lt_succ_self 3)
        (.misplacedSystem rfl noImage styled misplaced)
    rw [result_of_rendered checked noImage, renderPrompt,
      ChatRequest.prompt_of_untaken placed custom untaken]
    rfl

/-- Without obstacles a call is built. -/
theorem exists_result_of_unblocked
    (unblocked : ∀ obstacle, ¬ BuildObstacle.Meets request family obstacle) :
    ∃ call, (build request family today false network sent).result = .ok call := by
  obtain ⟨options, checked⟩ :=
    exists_checkedOptions (unblocked .completionImage) fun tag => unblocked (.unknownFormat tag)
  by_cases noImage : request.images = []
  · rw [result_of_rendered checked noImage]
    cases request with
    | completion completion => exact ⟨_, rfl⟩
    | chat chat =>
      have placed : ¬ (family.toolPromptStyle ≠ .plain ∧ chat.Misplaced) := by
        rintro ⟨styled, misplaced⟩
        exact unblocked _ (.misplacedSystem rfl noImage styled misplaced)
      have taken (custom : chat.HasCustomTool) :
          family.toolPromptStyle.takes chat.toolPromptFormat = true := by
        by_contra untaken
        exact unblocked _ (.untakenTools rfl noImage custom (by simpa using untaken))
      obtain ⟨rendered, renders⟩ := ChatRequest.exists_prompt today placed taken
      rw [renderPrompt, renders]
      exact ⟨_, rfl⟩
  · cases request with
    | completion completion => exact absurd (.completionImage rfl noImage) (unblocked _)
    | chat chat => exact exists_result_of_converted checked noImage

end BuiltCall

/-- Without fetching, a call is built unless one of four obstacles stands in the way, and the first
of these is what is reported. -/
theorem build_reports_first_obstacle (request : GenerationRequest) (family : ModelFamily)
    (today : CalendarDate) (network : Network) (sent : Nat) :
    (∀ failure,
        (BuiltCall.build request family today false network sent).result = .error failure ↔
          ∃ obstacle, BuildObstacle.IsFirst request family obstacle ∧
            failure = obstacle.error) ∧
      ((∃ call, (BuiltCall.build request family today false network sent).result = .ok call) ↔
        ∀ obstacle, ¬ BuildObstacle.Meets request family obstacle) := by
  by_cases blocked : ∃ obstacle, BuildObstacle.Meets request family obstacle
  · obtain ⟨_, meets⟩ := blocked
    obtain ⟨obstacle, first⟩ := BuildObstacle.exists_first meets
    rw [BuiltCall.result_of_isFirst today network sent first]
    refine ⟨fun failure => ⟨?_, ?_⟩, nofun, fun unblocked => absurd meets (unblocked _)⟩
    · rintro ⟨⟩
      exact ⟨obstacle, first, rfl⟩
    · rintro ⟨other, firstOther, rfl⟩
      rw [← BuiltCall.result_of_isFirst today network sent first]
      exact BuiltCall.result_of_isFirst today network sent firstOther
  · have unblocked := not_exists.1 blocked
    obtain ⟨call, built⟩ :=
      BuiltCall.exists_result_of_unblocked today network sent unblocked
    rw [built]
    refine ⟨fun failure => ⟨nofun, ?_⟩, fun _ => unblocked, fun _ => ⟨call, rfl⟩⟩
    rintro ⟨obstacle, first, -⟩
    exact absurd first.meets (unblocked obstacle)

end LlamaGateway
