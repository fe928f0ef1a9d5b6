import LlamaGateway.Call.Building
import LlamaGateway.Proofs.Json.Fields
import LlamaGateway.Proofs.Network.Session

/-!
# The payload of a built call

A built call carries its request and nothing else: the members that every call has, options only
where the caller asks for them, and the prompt or the messages. No member replaces another one, the
prompt lacks only the begin marker, which the provider adds, and each image of the request becomes
one part that is marked as an image.
-/

namespace LlamaGateway

open Json (Fields)

/-- The image of a part, none for a text. -/
def ContentPart.image? : ContentPart → Option Image
  | .text _ => none
  | .image picture => some picture

/-- The images of a content, in order. -/
def Content.images (content : Content) : List Image :=
  content.toParts.filterMap ContentPart.image?

/-- The images of a message, those of the content before those of a user's context. -/
def Message.images (message : Message) : List Image :=
  message.content.images ++ (message.context?.map Content.images).getD []

/-- The images of a request, in order. -/
def GenerationRequest.images : GenerationRequest → List Image
  | .completion request => request.content.images
  | .chat request => request.messages.flatMap Message.images

/-- The request is a chat in which some content or context holds an image. -/
def GenerationRequest.IsImageChat (request : GenerationRequest) : Prop :=
  (∃ chat, request = .chat chat) ∧ request.images ≠ []

theorem ContentPart.isImage_eq_isSome (part : ContentPart) :
    part.isImage = part.image?.isSome := by
  cases part <;> rfl

theorem Content.hasMedia_iff (content : Content) :
    content.hasMedia = true ↔ content.images ≠ [] := by
  cases content with
  | text words => simp [hasMedia, images, toParts, ContentPart.image?]
  | parts items =>
    rw [hasMedia, images, toParts, List.any_eq_true, Ne, List.filterMap_eq_nil_iff]
    simp [ContentPart.isImage_eq_isSome, Option.isSome_iff_ne_none]

theorem Message.hasMedia_iff (message : Message) :
    message.hasMedia = true ↔ message.images ≠ [] := by
  rw [hasMedia, images, Bool.or_eq_true, Content.hasMedia_iff]
  cases message.context? with
  | none => simp
  | some context =>
    by_cases noImage : message.content.images = [] <;> simp [noImage, Content.hasMedia_iff]

theorem Message.images_eq_filterMap (message : Message) :
    message.images = message.parts.filterMap ContentPart.image? := by
  rw [images, parts, List.filterMap_append, Content.images]
  cases message.context? <;> rfl

/-- A request has media exactly if it holds an image. -/
theorem GenerationRequest.hasMedia_iff (request : GenerationRequest) :
    request.hasMedia = true ↔ request.images ≠ [] := by
  cases request with
  | completion request => exact request.content.hasMedia_iff
  | chat request =>
    rw [hasMedia, images, List.any_eq_true, Ne, List.flatMap_eq_nil_iff]
    simp [Message.hasMedia_iff]

theorem GenerationRequest.images_eq_nil {request : GenerationRequest}
    (noMedia : request.hasMedia = false) : request.images = [] := by
  refine Decidable.byContradiction fun some_image => ?_
  rw [request.hasMedia_iff.2 some_image] at noMedia
  cases noMedia

/-- The value is a part that is marked as an image. -/
def Json.isImagePart (part : Json) : Bool :=
  part.member? "type" = some (.string "image_url")

/-- The image parts of a converted message, in order. -/
def Json.imageParts (message : Json) : List Json :=
  (((message.member? "content").map Json.items).getD []).filter Json.isImagePart

namespace CallMessages

@[simp] theorem isImagePart_textPart (words : String) : (textPart words).isImagePart = false := by
  simp [Json.isImagePart, textPart]

@[simp] theorem isImagePart_imagePart (address : String) :
    (imagePart address).isImagePart = true := by
  simp [Json.isImagePart, imagePart]

@[simp] theorem imageParts_withParts (message : Message) (parts : List Json) :
    (withParts message parts).imageParts = parts.filter Json.isImagePart := by
  cases message <;> simp [Json.imageParts, withParts, callMember]

variable {fetchRemote : Bool} {network : Network} {sent : Nat}

/-- An image becomes an image part, and a text does not. -/
theorem isImagePart_of_part {part : ContentPart} {value : Json}
    (converted : (CallMessages.part fetchRemote part network sent).result = .ok value) :
    value.isImagePart = part.isImage := by
  cases part with
  | text words =>
    cases converted
    exact isImagePart_textPart words
  | image picture =>
    obtain ⟨address, -, isPart⟩ := Session.result_bind_eq_ok_iff.1 converted
    cases isPart
    exact isImagePart_imagePart address

/-- Converted parts hold as many image parts as there are images. -/
theorem length_filter_isImagePart {parts : List ContentPart} {values : List Json}
    (converted : List.Forall₂
      (fun part value =>
        ∃ sent, (CallMessages.part fetchRemote part network sent).result = .ok value)
      parts values) :
    (values.filter Json.isImagePart).length = (parts.filterMap ContentPart.image?).length := by
  induction converted with
  | nil => rfl
  | @cons part value parts values first rest induction =>
    obtain ⟨sent, isPart⟩ := first
    rw [List.filter_cons, List.filterMap_cons, isImagePart_of_part isPart]
    cases part with
    | text words => exact induction
    | image picture => exact congrArg Nat.succ induction

/-- A converted message has one image part for each image. -/
theorem length_imageParts_of_one {message : Message} {value : Json}
    (converted : (one fetchRemote message network sent).result = .ok value) :
    value.imageParts.length = message.images.length := by
  obtain ⟨parts, each, isMessage⟩ := Session.result_bind_eq_ok_iff.1 converted
  cases isMessage
  rw [imageParts_withParts, message.images_eq_filterMap]
  exact length_filter_isImagePart (Session.forall₂_of_each each)

/-- Converted messages have one image part for each image. -/
theorem length_imageParts_of_build {messages : List Message} {values : List Json}
    (converted : (build fetchRemote messages network sent).result = .ok values) :
    (values.flatMap Json.imageParts).length = (messages.flatMap Message.images).length := by
  have each := Session.forall₂_of_each converted
  clear converted
  induction each with
  | nil => rfl
  | cons first rest induction =>
    obtain ⟨sent, isMessage⟩ := first
    rw [List.flatMap_cons, List.flatMap_cons, List.length_append, List.length_append, induction,
      length_imageParts_of_one isMessage]

end CallMessages

namespace CallOptions

theorem onlyKey_nonZeroMember (key : String) (value : Option Floating) :
    Fields.OnlyKey key (nonZeroMember key value) := by
  intro other member
  cases value with
  | none => cases member
  | some value => by_cases zero : value.isZero <;> simp_all [nonZeroMember]

theorem onlyKey_countMember (key : String) (value : Option Nat) :
    Fields.OnlyKey key (countMember key value) := by
  intro other member
  cases value with
  | none => cases member
  | some count => by_cases zero : count = 0 <;> simp_all [countMember]

theorem onlyKey_penaltyMember (penalty : Floating) :
    Fields.OnlyKey "repeat_penalty" (penaltyMember penalty) := by
  intro other member
  by_cases far : penalty.farFromOne <;> simp_all [penaltyMember]

theorem onlyKey_formatMembers {format : Option ResponseFormat} {members : List (String × Json)}
    (accepted : formatMembers format = .ok members) :
    Fields.OnlyKey "response_format" members := by
  intro other member
  rcases format with _ | schema | rules | tag <;> cases accepted <;> simp_all

/-- The keys of sampling parameters. -/
def samplingKeys : List String :=
  ["max_tokens", "repeat_penalty", "temperature", "top_k", "top_p"]

theorem mem_samplingKeys {params : SamplingParams} {key : String}
    (member : key ∈ (samplingMembers params).map Prod.fst) : key ∈ samplingKeys := by
  simp only [samplingMembers, List.cons_append, List.map_cons, List.map_append, List.mem_cons,
    List.mem_append] at member
  rcases member with rfl | ((isPenalty | isTemperature) | isTopK) | isTopP
  · decide
  · rw [onlyKey_penaltyMember _ key isPenalty]
    decide
  · rw [onlyKey_nonZeroMember _ _ key isTemperature]
    decide
  · rw [onlyKey_countMember _ _ key isTopK]
    decide
  · rw [onlyKey_nonZeroMember _ _ key isTopP]
    decide

/-- No other parameter replaces the bound of the text. -/
theorem get?_samplingMembers_maxTokens (params : SamplingParams) :
    (Fields.ofList (samplingMembers params)).get? "max_tokens" =
      some (.ofNat (maxTokens params)) := by
  have noPenalty := (onlyKey_penaltyMember params.repetitionPenalty).get?_ofList
    (show "max_tokens" ≠ "repeat_penalty" by decide)
  have noTemperature := (onlyKey_nonZeroMember "temperature" params.temperature).get?_ofList
    (show "max_tokens" ≠ "temperature" by decide)
  have noTopK := (onlyKey_countMember "top_k" params.topK).get?_ofList
    (show "max_tokens" ≠ "top_k" by decide)
  have noTopP := (onlyKey_nonZeroMember "top_p" params.topP).get?_ofList
    (show "max_tokens" ≠ "top_p" by decide)
  simp [samplingMembers, noPenalty, noTemperature, noTopK, noTopP]

variable {params : SamplingParams} {format : Option ResponseFormat} {options : Fields}
  (built : build params format = .ok options)

include built

theorem exists_members_of_build :
    ∃ members, formatMembers format = .ok members ∧
      options = Fields.ofList (samplingMembers params ++ members) := by
  rw [build] at built
  cases accepted : formatMembers format with
  | error failure =>
    rw [accepted] at built
    cases built
  | ok members =>
    rw [accepted] at built
    cases built
    exact ⟨members, rfl, rfl⟩

theorem sorted_of_build : options.Sorted := by
  obtain ⟨members, -, rfl⟩ := exists_members_of_build built
  exact Fields.sorted_ofList _

/-- Options have no keys but those of sampling parameters and of a response format. -/
theorem mem_samplingKeys_or_of_build {key : String} (present : (options.get? key).isSome) :
    key ∈ samplingKeys ∨ key = "response_format" := by
  obtain ⟨members, accepted, rfl⟩ := exists_members_of_build built
  have member := Fields.mem_of_get?_ofList present
  rw [List.map_append, List.mem_append] at member
  rcases member with isSampling | isFormat
  · exact .inl (mem_samplingKeys isSampling)
  · exact .inr (onlyKey_formatMembers accepted key isFormat)

theorem get?_build_eq_none {key : String} (other : key ∉ "response_format" :: samplingKeys) :
    options.get? key = none := by
  refine Option.not_isSome_iff_eq_none.1 fun present => other ?_
  rcases mem_samplingKeys_or_of_build built present with isSampling | rfl
  · exact List.mem_cons_of_mem _ isSampling
  · exact List.mem_cons_self

theorem get?_build_maxTokens : options.get? "max_tokens" = some (.ofNat (maxTokens params)) := by
  obtain ⟨members, accepted, rfl⟩ := exists_members_of_build built
  have noFormat := (onlyKey_formatMembers accepted).get?_ofList
    (show "max_tokens" ≠ "response_format" by decide)
  rw [Fields.get?_ofList_append, noFormat, get?_samplingMembers_maxTokens, Option.none_or]

/-- The format of the output is sent exactly if it is a schema or a grammar. -/
theorem isSome_get?_build_format_iff :
    (options.get? "response_format").isSome ↔
      (∃ schema, format = some (.jsonSchema schema)) ∨ ∃ rules, format = some (.grammar rules) := by
  obtain ⟨members, accepted, rfl⟩ := exists_members_of_build built
  have noSampling : "response_format" ∉ (samplingMembers params).map Prod.fst :=
    fun member => absurd (mem_samplingKeys member) (by decide)
  rw [Fields.get?_ofList_append, Fields.get?_ofList_eq_none noSampling, Option.or_none]
  rcases format with _ | schema | rules | tag <;> cases accepted <;> simp

end CallOptions

theorem stripBeginMarker_append (family : ModelFamily) (rest : String) :
    stripBeginMarker family (family.beginMarker ++ rest) = rest := by
  simp [stripBeginMarker]

theorem Dialog.encode_eq_append (messages : List Message) (family : ModelFamily)
    (format : ToolPromptFormat) :
    encode messages family format =
      family.beginMarker ++
        String.ofList ((blocks format messages).flatMap DialogBlock.render ++
          Template.assistantHeader) := by
  rw [encode, List.append_assoc, String.ofList_append, String.ofList_toList]

/-- The prompt of a completion holds its text as it is, and a wish for a schema behind it. -/
theorem CompletionRequest.prompt_eq_append (request : CompletionRequest) (family : ModelFamily) :
    ∃ wish, request.prompt family = family.beginMarker ++ (request.content.plainText ++ wish) ∧
      ((∀ schema, request.responseFormat ≠ some (.jsonSchema schema)) → wish = "") := by
  refine ⟨_, String.append_assoc .., fun noSchema => ?_⟩
  rcases format : request.responseFormat with _ | schema | rules | tag
  · rfl
  · exact absurd format (noSchema schema)
  · rfl
  · rfl

namespace BuiltCall

variable {request : GenerationRequest} {family : ModelFamily} {today : CalendarDate}
  {rendered : String}

/-- A rendered prompt starts with the begin marker. -/
theorem exists_eq_append_of_renderPrompt
    (renders : renderPrompt request family today = .ok rendered) :
    ∃ rest, rendered = family.beginMarker ++ rest := by
  cases request with
  | completion request =>
    cases renders
    obtain ⟨wish, whole, -⟩ := request.prompt_eq_append family
    exact ⟨_, whole⟩
  | chat request =>
    rw [renderPrompt, ChatRequest.prompt] at renders
    cases augmented : Augmentation.augment request family today with
    | error failure =>
      rw [augmented] at renders
      cases renders
    | ok messages =>
      rw [augmented] at renders
      cases renders
      exact ⟨_, Dialog.encode_eq_append ..⟩

/-- A rendered prompt is the begin marker and the prompt that is sent. -/
theorem beginMarker_append_strip (renders : renderPrompt request family today = .ok rendered) :
    family.beginMarker ++ stripBeginMarker family rendered = rendered := by
  obtain ⟨rest, rfl⟩ := exists_eq_append_of_renderPrompt renders
  rw [stripBeginMarker_append]

theorem onlyKey_logProbsMember (request : GenerationRequest) :
    Fields.OnlyKey "logprobs" (logProbsMember request) := by
  intro other member
  cases wish : request.logProbs with
  | none => simp [logProbsMember, wish] at member
  | some config => by_cases zero : config.topK = 0 <;> simp_all [logProbsMember]

theorem isSome_get?_logProbsMember_iff (request : GenerationRequest) :
    ((Fields.ofList (logProbsMember request)).get? "logprobs").isSome ↔
      ∃ config, request.logProbs = some config ∧ 0 < config.topK := by
  rw [logProbsMember]
  cases request.logProbs with
  | none => simp
  | some config => by_cases zero : config.topK = 0 <;> simp [zero, Nat.pos_iff_ne_zero]

variable {options : Fields}

theorem sorted_commonParams (request : GenerationRequest) (options : Fields) :
    (commonParams request options).Sorted :=
  (Fields.sorted_ofList _).union options

theorem get?_commonParams (sorted : options.Sorted) (key : String) :
    (commonParams request options).get? key =
      (options.get? key).or (if key = "stream" then some (.boolean request.stream)
        else if key = "model" then some (.string request.model) else none) := by
  rw [commonParams, Fields.get?_union, sorted.get?_ofList]
  by_cases isStream : key = "stream" <;> simp [isStream]

end BuiltCall

namespace BuiltCall

/-- How a call comes to be built. -/
inductive Course (request : GenerationRequest) (family : ModelFamily) (today : CalendarDate)
    (fetchRemote : Bool) (network : Network) (sent : Nat) : BuiltCall → Prop
  /-- A request without images is rendered. -/
  | prompt {options : Fields} {rendered : String}
      (accepted : CallOptions.build request.sampling request.responseFormat = .ok options)
      (noImage : request.images = [])
      (renders : renderPrompt request family today = .ok rendered) :
      Course request family today fetchRemote network sent
        (ofPrompt request family options rendered)
  /-- The messages of a chat with an image are converted. -/
  | messages {options : Fields} {chat : ChatRequest} {converted : List Json}
      (accepted : CallOptions.build request.sampling request.responseFormat = .ok options)
      (isChat : request = .chat chat) (someImage : request.images ≠ [])
      (converts : (CallMessages.build fetchRemote chat.messages network sent).result =
        .ok converted) :
      Course request family today fetchRemote network sent (ofMessages request options converted)

variable {request : GenerationRequest} {family : ModelFamily} {today : CalendarDate}
  {fetchRemote : Bool} {network : Network} {sent : Nat} {call : BuiltCall}

theorem of_checkedOptions {options : Fields} (checked : checkedOptions request = .ok options) :
    CallOptions.build request.sampling request.responseFormat = .ok options ∧
      (request.hasMedia = true → ∃ chat, request = .chat chat) := by
  cases request with
  | chat chat => exact ⟨checked, fun _ => ⟨chat, rfl⟩⟩
  | completion completion =>
    rw [checkedOptions] at checked
    by_cases media : (GenerationRequest.completion completion).hasMedia = true
    · rw [if_pos media] at checked
      cases checked
    · rw [if_neg media] at checked
      exact ⟨checked, fun present => absurd present media⟩

theorem course_of_build
    (built : (build request family today fetchRemote network sent).result = .ok call) :
    Course request family today fetchRemote network sent call := by
  obtain ⟨options, checked, rest⟩ := Session.result_bind_eq_ok_iff.1 built
  obtain ⟨accepted, onlyChat⟩ := of_checkedOptions checked
  change (withOptions request family today fetchRemote options network sent).result = _ at rest
  cases media : request.hasMedia with
  | false =>
    have lifted : (renderPrompt request family today).map (ofPrompt request family options) =
        .ok call := by
      simpa only [withOptions, media, Session.lift_apply] using rest
    cases renders : renderPrompt request family today with
    | error failure =>
      rw [renders] at lifted
      cases lifted
    | ok rendered =>
      rw [renders] at lifted
      cases lifted
      exact .prompt accepted (GenerationRequest.images_eq_nil media) renders
  | true =>
    obtain ⟨chat, rfl⟩ := onlyChat media
    simp only [withOptions, media] at rest
    obtain ⟨converted, converts, isCall⟩ := Session.result_bind_eq_ok_iff.1 rest
    cases isCall
    exact .messages accepted rfl ((GenerationRequest.hasMedia_iff _).1 media) converts

end BuiltCall

/-- The keys of what a call is about, and of the wish for log probabilities. -/
def BuiltCall.inputKeys : List String := ["prompt", "messages", "logprobs"]

/-- The keys that a call may have. -/
def BuiltCall.payloadKeys : List String :=
  "model" :: "stream" :: "response_format" :: (CallOptions.samplingKeys ++ inputKeys)

/-- What the members that do not depend on the shape of a call carry of its request. -/
structure CommonMembers (request : GenerationRequest) (params : Fields) : Prop where
  /-- The model is that of the request. -/
  model : params.get? "model" = some (.string request.model)
  /-- The output is delivered as the request wants it. -/
  stream : params.get? "stream" = some (.boolean request.stream)
  /-- A bound of the caller is kept unless it is zero. -/
  given_bound : ∀ count, request.sampling.maxTokens = some count → count ≠ 0 →
    params.get? "max_tokens" = some (.ofNat count)
  /-- Without such a bound there is one of 512 tokens. -/
  default_bound : request.sampling.maxTokens.getD 0 = 0 →
    params.get? "max_tokens" = some (.ofNat 512)
  /-- There is a response format exactly if the request wants a schema or a grammar. -/
  format : (params.get? "response_format").isSome ↔
    (∃ schema, request.responseFormat = some (.jsonSchema schema)) ∨
      ∃ rules, request.responseFormat = some (.grammar rules)
  /-- There are no other keys. -/
  keys : ∀ key ∈ params.keys, key ∈ BuiltCall.payloadKeys
  /-- No key occurs twice. -/
  distinct : params.keys.Nodup

theorem CallOptions.maxTokens_of_given {params : SamplingParams} {count : Nat}
    (given : params.maxTokens = some count) (positive : count ≠ 0) : maxTokens params = count := by
  simp [maxTokens, given, positive]

theorem CallOptions.maxTokens_of_none {params : SamplingParams}
    (absent : params.maxTokens.getD 0 = 0) : maxTokens params = 512 := by
  rw [maxTokens]
  cases given : params.maxTokens with
  | none => rfl
  | some count =>
    rw [given] at absent
    exact if_pos absent

namespace BuiltCall

section

variable {request : GenerationRequest} {options : Fields} {input : List (String × Json)}
  (accepted : CallOptions.build request.sampling request.responseFormat = .ok options)
  (onlyInput : ∀ key ∈ input.map Prod.fst, key ∈ inputKeys)

include onlyInput in
theorem get?_ofList_input {key : String} (other : key ∉ inputKeys) :
    (Fields.ofList input).get? key = none :=
  Fields.get?_ofList_eq_none fun member => other (onlyInput key member)

include accepted

/-- No option replaces what a call is about. -/
theorem get?_commonParams_input {key : String} (isInput : key ∈ inputKeys) :
    (commonParams request options).get? key = none := by
  have notOption : ∀ key ∈ inputKeys, key ∉ "response_format" :: CallOptions.samplingKeys := by
    decide
  have notOwn : ∀ key ∈ inputKeys, key ≠ "stream" ∧ key ≠ "model" := by decide
  obtain ⟨notStream, notModel⟩ := notOwn key isInput
  rw [get?_commonParams (CallOptions.sorted_of_build accepted),
    CallOptions.get?_build_eq_none accepted (notOption key isInput), if_neg notStream,
    if_neg notModel, Option.none_or]

theorem mem_payloadKeys_of_commonParams {key : String}
    (present : ((commonParams request options).get? key).isSome) : key ∈ payloadKeys := by
  rw [get?_commonParams (CallOptions.sorted_of_build accepted), Option.isSome_or,
    Bool.or_eq_true] at present
  rcases present with inOptions | isOwn
  · rcases CallOptions.mem_samplingKeys_or_of_build accepted inOptions with isSampling | rfl
    · simp [payloadKeys, isSampling]
    · decide
  · by_cases isStream : key = "stream"
    · rw [isStream]
      decide
    · by_cases isModel : key = "model"
      · rw [isModel]
        decide
      · simp [isStream, isModel] at isOwn

include onlyInput

/-- What a call is about leaves the members that every call has as they are. -/
theorem commonMembers_union :
    CommonMembers request ((commonParams request options).union input) := by
  have sorted := CallOptions.sorted_of_build accepted
  -- Every member but those of the input is looked up among the options and the two own members.
  have common {key : String} (other : key ∉ inputKeys) :
      ((commonParams request options).union input).get? key =
        (options.get? key).or (if key = "stream" then some (.boolean request.stream)
          else if key = "model" then some (.string request.model) else none) := by
    rw [Fields.get?_union, get?_ofList_input onlyInput other, Option.none_or,
      get?_commonParams sorted]
  have bound : ((commonParams request options).union input).get? "max_tokens" =
      some (.ofNat (CallOptions.maxTokens request.sampling)) := by
    rw [common (by decide), CallOptions.get?_build_maxTokens accepted, Option.some_or]
  constructor
  · rw [common (by decide), CallOptions.get?_build_eq_none accepted (by decide)]
    rfl
  · rw [common (by decide), CallOptions.get?_build_eq_none accepted (by decide)]
    rfl
  · intro count given positive
    rw [bound, CallOptions.maxTokens_of_given given positive]
  · intro absent
    rw [bound, CallOptions.maxTokens_of_none absent]
  · rw [common (by decide), ← CallOptions.isSome_get?_build_format_iff accepted]
    simp
  · intro key member
    have present := Fields.mem_keys_iff.1 member
    rw [Fields.get?_union, Option.isSome_or, Bool.or_eq_true] at present
    rcases present with inInput | inCommon
    · have isInput := onlyInput key (Fields.mem_of_get?_ofList inInput)
      simp [payloadKeys, isInput]
    · exact mem_payloadKeys_of_commonParams accepted inCommon
  · exact ((sorted_commonParams request options).union input).nodup

end

end BuiltCall

/-- The image parts of the messages that a call carries, in order. -/
def BuiltCall.imageParts (call : BuiltCall) : List Json :=
  (((call.params.get? "messages").map Json.items).getD []).flatMap Json.imageParts

/-- What a call carries of its request. -/
structure CallPayload (request : GenerationRequest) (family : ModelFamily) (today : CalendarDate)
    (call : BuiltCall) : Prop extends CommonMembers request call.params where
  /-- A chat with an image is sent as messages, and nothing else is. -/
  shape : call.shape = .messages ↔ request.IsImageChat
  /-- There is a prompt exactly in a call with a prompt. -/
  prompt : (call.params.get? "prompt").isSome ↔ call.shape = .prompt
  /-- There are messages exactly in a call with messages. -/
  messages : (call.params.get? "messages").isSome ↔ call.shape = .messages
  /-- Log probabilities are asked for exactly in a call with a prompt whose request wants some. -/
  logprobs : (call.params.get? "logprobs").isSome ↔
    call.shape = .prompt ∧ ∃ config, request.logProbs = some config ∧ 0 < config.topK
  /-- No image is lost. -/
  images : call.imageParts.length = request.images.length
  /-- The begin marker and the prompt make up the rendered prompt. -/
  rendered : call.shape = .prompt → ∃ prompt, call.params.get? "prompt" = some (.string prompt) ∧
    BuiltCall.renderPrompt request family today = .ok (family.beginMarker ++ prompt)
  /-- The text of a completion is sent as it is, before the wish for a schema if there is one. -/
  intact : ∀ completion, request = .completion completion → ∃ wish,
    call.params.get? "prompt" = some (.string (completion.content.plainText ++ wish)) ∧
      ((∀ schema, completion.responseFormat ≠ some (.jsonSchema schema)) → wish = "")

namespace BuiltCall

variable {request : GenerationRequest} {family : ModelFamily} {today : CalendarDate}
  {options : Fields}

@[simp] theorem shape_ofPrompt (request : GenerationRequest) (family : ModelFamily)
    (options : Fields) (rendered : String) :
    (ofPrompt request family options rendered).shape = .prompt := rfl

@[simp] theorem shape_ofMessages (request : GenerationRequest) (options : Fields)
    (converted : List Json) : (ofMessages request options converted).shape = .messages := rfl

theorem payload_ofPrompt {rendered : String}
    (accepted : CallOptions.build request.sampling request.responseFormat = .ok options)
    (noImage : request.images = [])
    (renders : renderPrompt request family today = .ok rendered) :
    CallPayload request family today (ofPrompt request family options rendered) := by
  have common {key : String} (isInput : key ∈ inputKeys) :
      (commonParams request options).get? key = none :=
    get?_commonParams_input accepted isInput
  have onlyInput : ∀ key ∈ (("prompt", Json.string (stripBeginMarker family rendered)) ::
      logProbsMember request).map Prod.fst, key ∈ inputKeys := by
    intro key member
    rcases List.mem_cons.1 member with rfl | isWish
    · exact List.mem_cons_self
    · rw [onlyKey_logProbsMember request key isWish]
      decide
  have noPrompt := (onlyKey_logProbsMember request).get?_ofList
    (show "prompt" ≠ "logprobs" by decide)
  have noMessages := (onlyKey_logProbsMember request).get?_ofList
    (show "messages" ≠ "logprobs" by decide)
  have prompt : (ofPrompt request family options rendered).params.get? "prompt" =
      some (.string (stripBeginMarker family rendered)) := by
    simp [ofPrompt, noPrompt]
  have messages : (ofPrompt request family options rendered).params.get? "messages" = none := by
    simp [ofPrompt, noMessages, common (show "messages" ∈ inputKeys by decide)]
  exact {
    commonMembers_union accepted onlyInput with
    shape := by simp [GenerationRequest.IsImageChat, noImage]
    prompt := by simp [prompt]
    messages := by simp [messages]
    logprobs := by
      rw [← isSome_get?_logProbsMember_iff]
      simp [ofPrompt, common (show "logprobs" ∈ inputKeys by decide)]
    images := by simp [imageParts, messages, noImage]
    rendered := fun _ =>
      ⟨_, prompt, renders.trans (congrArg _ (beginMarker_append_strip renders).symm)⟩
    intact := by
      rintro completion rfl
      obtain ⟨wish, whole, noWish⟩ := completion.prompt_eq_append family
      cases renders
      rw [whole, stripBeginMarker_append] at prompt
      exact ⟨wish, by rw [whole]; exact prompt, noWish⟩ }

theorem payload_ofMessages {chat : ChatRequest} {converted : List Json}
    (accepted : CallOptions.build request.sampling request.responseFormat = .ok options)
    (isChat : request = .chat chat) (someImage : request.images ≠ [])
    (allImages : (converted.flatMap Json.imageParts).length = request.images.length) :
    CallPayload request family today (ofMessages request options converted) := by
  have common {key : String} (isInput : key ∈ inputKeys) :
      (commonParams request options).get? key = none :=
    get?_commonParams_input accepted isInput
  have onlyInput : ∀ key ∈ [("messages", Json.array converted)].map Prod.fst, key ∈ inputKeys := by
    simp [inputKeys]
  have messages : (ofMessages request options converted).params.get? "messages" =
      some (.array converted) := by
    simp [ofMessages]
  have prompt : (ofMessages request options converted).params.get? "prompt" = none := by
    simp [ofMessages, common (show "prompt" ∈ inputKeys by decide)]
  have logprobs : (ofMessages request options converted).params.get? "logprobs" = none := by
    simp [ofMessages, common (show "logprobs" ∈ inputKeys by decide)]
  exact {
    commonMembers_union accepted onlyInput with
    shape := by simp [GenerationRequest.IsImageChat, isChat, isChat ▸ someImage]
    prompt := by simp [prompt]
    messages := by simp [messages]
    logprobs := by simp [logprobs]
    images := by simpa [imageParts, messages] using allImages
    rendered := by simp
    intact := by
      rintro completion rfl
      cases isChat }

/-- What comes of building a call carries the request. -/
theorem Course.payload {fetchRemote : Bool} {network : Network} {sent : Nat} {call : BuiltCall}
    (course : Course request family today fetchRemote network sent call) :
    CallPayload request family today call := by
  cases course with
  | prompt accepted noImage renders => exact payload_ofPrompt accepted noImage renders
  | messages accepted isChat someImage converts =>
    refine payload_ofMessages accepted isChat someImage ?_
    rw [CallMessages.length_imageParts_of_build converts, isChat]
    rfl

end BuiltCall

end LlamaGateway
