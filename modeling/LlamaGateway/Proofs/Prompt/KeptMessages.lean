import LlamaGateway.Prompt.Rendering
import LlamaGateway.Proofs.Text.Trimming

/-!
# Kept messages

A prompt style that describes tools puts messages in front of the caller's own and absorbs a leading
system message into them. It refuses a system message in any other place, and custom tools in a
format that it does not take. No other message of the caller is lost, changed or moved.
-/

namespace LlamaGateway

/-- The prompts of a style describe custom tools in a format. -/
def ToolPromptStyle.takes : ToolPromptStyle → ToolPromptFormat → Bool
  | .dateHeader, format => format ≠ .pythonList
  | .functionList, format => format = .pythonList
  | .plain, _ => true

/-- The models of a style, as a refusal names them. -/
def ToolPromptStyle.models : ToolPromptStyle → String
  | .dateHeader => "llama 3.1"
  | .functionList => "llama 3.2"
  | .plain => ""

namespace ChatRequest

/-- A system message stands behind the first message. -/
def Misplaced (request : ChatRequest) : Prop :=
  ∃ content, Message.system content ∈ request.messages.tail

/-- A tool is a function of the caller. -/
def HasCustomTool (request : ChatRequest) : Prop :=
  ∃ tool ∈ request.tools, tool.name.isCustom = true

theorem isEmpty_customTools_iff (request : ChatRequest) :
    request.customTools.isEmpty = true ↔ ¬ request.HasCustomTool := by
  simp [customTools, HasCustomTool]

theorem not_isEmpty_customTools {request : ChatRequest} (custom : request.HasCustomTool) :
    ¬ request.customTools.isEmpty = true :=
  fun empty => request.isEmpty_customTools_iff.1 empty custom

end ChatRequest

namespace Augmentation

variable {request : ChatRequest} {family : ModelFamily} {today : CalendarDate}

theorem any_isSystem_iff {messages : List Message} :
    messages.any Message.isSystem = true ↔ ∃ content, Message.system content ∈ messages := by
  rw [List.any_eq_true]
  constructor
  · rintro ⟨message, member, isSystem⟩
    cases message with
    | system content => exact ⟨content, member⟩
    | user | assistant | tool => cases isSystem
  · rintro ⟨content, member⟩
    exact ⟨.system content, member, rfl⟩

/-- A message that is not absorbed is no system message if it comes first. -/
theorem any_isSystem_splitSystem (messages : List Message) :
    (splitSystem messages).2.any Message.isSystem = messages.tail.any Message.isSystem := by
  cases messages with
  | nil => rfl
  | cons first rest => cases first <;> rfl

theorem augment_of_plain (plain : family.toolPromptStyle = .plain) :
    augment request family today = .ok request.messages := by
  simp only [augment, plain]

/-- A system message behind the first one is refused. -/
theorem augment_of_misplaced (styled : family.toolPromptStyle ≠ .plain)
    (misplaced : request.Misplaced) :
    augment request family today = .error misplacedSystem := by
  have refused : (splitSystem request.messages).2.any Message.isSystem = true := by
    rw [any_isSystem_splitSystem]
    exact any_isSystem_iff.2 misplaced
  cases style : family.toolPromptStyle with
  | plain => exact absurd style styled
  | dateHeader => simp only [augment, style, if_pos refused]
  | functionList => simp only [augment, style, if_pos refused]

/-- The leading messages of a style. -/
def leadingMessages (request : ChatRequest) (style : ToolPromptStyle) (today : CalendarDate) :
    Except InferenceError (List Message) :=
  match style with
  | .plain => .ok []
  | .dateHeader => dateHeaderMessages request (splitSystem request.messages).1 today
  | .functionList => functionListMessages request (splitSystem request.messages).1

/-- The leading messages come before those that are not absorbed. -/
theorem augment_of_placed (styled : family.toolPromptStyle ≠ .plain)
    (placed : ¬ request.Misplaced) :
    augment request family today =
      (leadingMessages request family.toolPromptStyle today).map
        (· ++ (splitSystem request.messages).2) := by
  have accepted : ¬ (splitSystem request.messages).2.any Message.isSystem = true := by
    rw [any_isSystem_splitSystem]
    exact fun refused => placed (any_isSystem_iff.1 refused)
  cases style : family.toolPromptStyle with
  | plain => exact absurd style styled
  | dateHeader => simp only [augment, style, if_neg accepted, leadingMessages]
  | functionList => simp only [augment, style, if_neg accepted, leadingMessages]

/-- Custom tools in a format that the style does not take are refused. -/
theorem leadingMessages_of_untaken (custom : request.HasCustomTool) {style : ToolPromptStyle}
    (untaken : style.takes request.toolPromptFormat = false) :
    leadingMessages request style today =
      .error (unsupportedFormat request.toolPromptFormat style.models) := by
  have tools := ChatRequest.not_isEmpty_customTools custom
  cases style with
  | plain => cases untaken
  | dateHeader =>
    have format : request.toolPromptFormat = .pythonList := by
      simpa [ToolPromptStyle.takes] using untaken
    simp only [leadingMessages, dateHeaderMessages, dateHeaderTools, if_neg tools, format]
    rfl
  | functionList =>
    have format : ¬ request.toolPromptFormat = .pythonList := by
      simpa [ToolPromptStyle.takes] using untaken
    simp only [leadingMessages, functionListMessages, functionListText, if_neg tools,
      if_neg format]
    rfl

/-- A content without the line breaks at either end of its text. -/
def trimmedText (content : Content) : List Char :=
  Text.trim (· = '\n') content.plainText.toList

/-- What a style puts in front of a conversation. -/
structure Leads (request : ChatRequest) (style : ToolPromptStyle) (lead : List Message) :
    Prop where
  /-- A system message, if there is one, and then a user message for custom tools, which only the
  style with a date header has. -/
  form : ∃ opening tools, lead = opening ++ tools ∧
    (opening = [] ∨ ∃ text, opening = [.systemText text]) ∧
      (tools = [] ∨ ∃ text, tools = [.userText text]) ∧
        (tools ≠ [] ↔ style = .dateHeader ∧ request.HasCustomTool)
  /-- The text of an absorbed message is in the system message, if anything is left of it. -/
  absorbed : ∀ content rest, request.messages = .system content :: rest →
    trimmedText content = [] ∨
      ∃ text, .systemText text ∈ lead ∧ trimmedText content <:+: text.toList

theorem trimmedText_infix_plainText (content : Content) :
    trimmedText content <:+: content.plainText.toList :=
  Text.trim_infix _

/-- An absorbed text stands behind the date header. -/
theorem plainText_infix_dateHeaderText (request : ChatRequest) (content : Content)
    (today : CalendarDate) :
    content.plainText.toList <:+: (dateHeaderText request (some content) today).toList := by
  simp only [dateHeaderText, String.toList_append]
  exact (List.suffix_append_of_suffix (List.suffix_append _ _)).isInfix

theorem exists_dateHeaderTools (taken : request.HasCustomTool →
    ToolPromptStyle.dateHeader.takes request.toolPromptFormat = true) :
    ∃ tools, dateHeaderTools request = .ok tools ∧ (tools = [] ∨ ∃ text, tools = [.userText text]) ∧
      (tools ≠ [] ↔ request.HasCustomTool) := by
  by_cases custom : request.HasCustomTool
  · have tools := ChatRequest.not_isEmpty_customTools custom
    have accepted := taken custom
    simp only [dateHeaderTools, if_neg tools]
    cases format : request.toolPromptFormat with
    | json => exact ⟨_, rfl, .inr ⟨_, rfl⟩, by simp [custom]⟩
    | functionTag => exact ⟨_, rfl, .inr ⟨_, rfl⟩, by simp [custom]⟩
    | pythonList => simp [format, ToolPromptStyle.takes] at accepted
  · have noTools := request.isEmpty_customTools_iff.2 custom
    exact ⟨[], by simp only [dateHeaderTools, if_pos noTools], .inl rfl, by simp [custom]⟩

/-- An absorbed text is in the system text of the function list style. -/
theorem exists_functionListText (system : Option Content) (taken : request.HasCustomTool →
    ToolPromptStyle.functionList.takes request.toolPromptFormat = true) :
    ∃ text, functionListText request system = .ok text ∧
      ∀ content, system = some content → content.plainText.toList <:+: text.toList := by
  by_cases custom : request.HasCustomTool
  · have tools := ChatRequest.not_isEmpty_customTools custom
    have format : request.toolPromptFormat = .pythonList := by
      simpa [ToolPromptStyle.takes] using taken custom
    refine ⟨environment request ++ ToolPrompt.functionList request.customTools
      (system.map Content.plainText) ++ "\n",
      by simp only [functionListText, if_neg tools, if_pos format], ?_⟩
    rintro content rfl
    simp only [ToolPrompt.functionList, Option.map_some, Option.getD_some, String.toList_append,
      List.append_assoc]
    exact ((List.prefix_append _ _).isInfix).trans (List.suffix_append _ _).isInfix
  · have noTools := request.isEmpty_customTools_iff.2 custom
    refine ⟨environment request ++ (system.map Content.plainText).getD "",
      by simp only [functionListText, if_pos noTools], ?_⟩
    rintro content rfl
    simp only [Option.map_some, Option.getD_some, String.toList_append]
    exact (List.suffix_append _ _).isInfix

theorem functionListMessages_of_text {system : Option Content} {text : String}
    (written : functionListText request system = .ok text) :
    functionListMessages request system =
      .ok (if (trimLineBreaks text).isEmpty then [] else [.systemText (trimLineBreaks text)]) := by
  rw [functionListMessages, written]
  rfl

theorem splitSystem_system (content : Content) (rest : List Message) :
    splitSystem (.system content :: rest) = (some content, rest) := rfl

/-- A style puts messages in front of every conversation whose custom tools, if there are any, are
in a format that it takes. -/
theorem exists_leadingMessages (today : CalendarDate) {style : ToolPromptStyle}
    (styled : style ≠ .plain)
    (taken : request.HasCustomTool → style.takes request.toolPromptFormat = true) :
    ∃ lead, leadingMessages request style today = .ok lead ∧ Leads request style lead := by
  cases style with
  | plain => exact absurd rfl styled
  | dateHeader =>
    obtain ⟨tools, described, form, custom⟩ := exists_dateHeaderTools taken
    refine ⟨_, by simp only [leadingMessages, dateHeaderMessages, described]; rfl,
      ⟨[_], tools, rfl, .inr ⟨_, rfl⟩, form, by simpa using custom⟩, ?_⟩
    intro content rest whole
    rw [whole, splitSystem_system]
    exact .inr ⟨_, List.mem_cons_self,
      (trimmedText_infix_plainText content).trans
        (plainText_infix_dateHeaderText request content today)⟩
  | functionList =>
    obtain ⟨text, written, holds⟩ :=
      exists_functionListText (splitSystem request.messages).1 taken
    have kept (content : Content) (rest : List Message)
        (whole : request.messages = .system content :: rest) :
        trimmedText content <:+: Text.trim (· = '\n') text.toList :=
      (Text.trimmed_trim _ _).infix_trim
        ((trimmedText_infix_plainText content).trans
          (holds content (by rw [whole, splitSystem_system])))
    rw [leadingMessages, functionListMessages_of_text written]
    by_cases empty : (trimLineBreaks text).isEmpty = true
    · have nothing : Text.trim (· = '\n') text.toList = [] := by
        simpa [trimLineBreaks] using empty
      rw [if_pos empty]
      refine ⟨[], rfl, ⟨[], [], rfl, .inl rfl, .inl rfl, by simp⟩,
        fun content rest whole => .inl ?_⟩
      have inside := kept content rest whole
      rw [nothing] at inside
      exact List.infix_nil.1 inside
    · rw [if_neg empty]
      refine ⟨_, rfl, ⟨[.systemText (trimLineBreaks text)], [], rfl, .inr ⟨_, rfl⟩, .inl rfl,
        by simp⟩, fun content rest whole => .inr ⟨_, List.mem_singleton_self _, ?_⟩⟩
      rw [trimLineBreaks, String.toList_ofList]
      exact kept content rest whole

end Augmentation

/-- The messages of a conversation but a leading system message. -/
inductive WithoutLead : List Message → List Message → Prop
  | system (content : Content) (rest : List Message) : WithoutLead (.system content :: rest) rest
  | unled {messages : List Message} (other : ∀ content rest, messages ≠ .system content :: rest) :
      WithoutLead messages messages

namespace Augmentation

variable {request : ChatRequest} {family : ModelFamily} {today : CalendarDate}

theorem withoutLead_splitSystem (messages : List Message) :
    WithoutLead messages (splitSystem messages).2 := by
  cases messages with
  | nil => exact .unled nofun
  | cons first rest =>
    cases first with
    | system content => exact .system content rest
    | user | assistant | tool => exact .unled nofun

/-- What becomes of a conversation in a style that describes tools. -/
theorem exists_leads_of_augment {messages : List Message}
    (styled : family.toolPromptStyle ≠ .plain)
    (augmented : augment request family today = .ok messages) :
    ∃ lead kept, messages = lead ++ kept ∧ Leads request family.toolPromptStyle lead ∧
      WithoutLead request.messages kept := by
  have placed : ¬ request.Misplaced := by
    intro misplaced
    rw [augment_of_misplaced styled misplaced] at augmented
    cases augmented
  rw [augment_of_placed styled placed] at augmented
  have taken : request.HasCustomTool →
      family.toolPromptStyle.takes request.toolPromptFormat = true := by
    intro custom
    by_contra untaken
    rw [leadingMessages_of_untaken custom (by simpa using untaken)] at augmented
    cases augmented
  obtain ⟨lead, leading, leads⟩ := exists_leadingMessages today styled taken
  rw [leading] at augmented
  cases augmented
  exact ⟨lead, _, rfl, leads, withoutLead_splitSystem request.messages⟩

end Augmentation

namespace ChatRequest

/-- The messages that a prompt is rendered of: those in front, the kept ones and those behind. -/
structure Arranges (request : ChatRequest) (family : ModelFamily)
    (lead kept closing : List Message) : Prop where
  /-- A guard family takes the conversation as it is. -/
  plain : family.toolPromptStyle = .plain → lead = [] ∧ kept = request.messages
  /-- Any other family keeps all messages but a leading system message. -/
  keeps : family.toolPromptStyle ≠ .plain → WithoutLead request.messages kept
  /-- In front is what the family's style puts there. -/
  leads : family.toolPromptStyle ≠ .plain →
    Augmentation.Leads request family.toolPromptStyle lead
  /-- A user message with the instruction comes last exactly if a schema is asked for. -/
  closes : (∃ schema, request.responseFormat = some (.jsonSchema schema) ∧
      closing =
        [.userText ("Please respond in JSON format with the schema: " ++ schema.render)]) ∨
    ((∀ schema, request.responseFormat ≠ some (.jsonSchema schema)) ∧ closing = [])

theorem instructionMessages_eq (request : ChatRequest) :
    (∃ schema, request.responseFormat = some (.jsonSchema schema) ∧
        request.instructionMessages =
          [.userText ("Please respond in JSON format with the schema: " ++ schema.render)]) ∨
      ((∀ schema, request.responseFormat ≠ some (.jsonSchema schema)) ∧
        request.instructionMessages = []) := by
  rw [instructionMessages]
  rcases request.responseFormat with _ | schema | rules | tag
  · exact .inr ⟨nofun, rfl⟩
  · exact .inl ⟨schema, rfl, rfl⟩
  · exact .inr ⟨nofun, rfl⟩
  · exact .inr ⟨nofun, rfl⟩

theorem prompt_eq_ok_iff {request : ChatRequest} {family : ModelFamily} {today : CalendarDate}
    {prompt : String} :
    request.prompt family today = .ok prompt ↔
      ∃ messages, Augmentation.augment request family today = .ok messages ∧
        prompt = Dialog.encode (messages ++ request.instructionMessages) family
          request.toolPromptFormat := by
  rw [ChatRequest.prompt]
  cases Augmentation.augment request family today with
  | error failure => exact ⟨nofun, nofun⟩
  | ok messages =>
    constructor
    · rintro ⟨⟩
      exact ⟨messages, rfl, rfl⟩
    · rintro ⟨_, ⟨⟩, rfl⟩
      rfl

end ChatRequest

/-- Whenever a conversation can be rendered, the prompt holds its messages in order and unchanged,
but for a leading system message whose text is in the system message in front. -/
theorem prompt_keeps_conversation {request : ChatRequest} {family : ModelFamily}
    {today : CalendarDate} {prompt : String}
    (renders : request.prompt family today = .ok prompt) :
    ∃ lead kept closing, request.Arranges family lead kept closing ∧
      prompt = Dialog.encode (lead ++ kept ++ closing) family request.toolPromptFormat := by
  obtain ⟨messages, augmented, rfl⟩ := ChatRequest.prompt_eq_ok_iff.1 renders
  by_cases plain : family.toolPromptStyle = .plain
  · rw [Augmentation.augment_of_plain plain] at augmented
    cases augmented
    exact ⟨[], request.messages, request.instructionMessages,
      ⟨fun _ => ⟨rfl, rfl⟩, fun styled => absurd plain styled, fun styled => absurd plain styled,
        request.instructionMessages_eq⟩, rfl⟩
  · obtain ⟨lead, kept, rfl, leads, withoutLead⟩ :=
      Augmentation.exists_leads_of_augment plain augmented
    exact ⟨lead, kept, request.instructionMessages,
      ⟨fun isPlain => absurd isPlain plain, fun _ => withoutLead, fun _ => leads,
        request.instructionMessages_eq⟩, rfl⟩

/-- A chat that starts with line breaks around a system text and offers both kinds of tools. -/
def weatherChat : ChatRequest :=
  { ChatRequest.ofMessages "llama" [.systemText "\n\nUse tools wisely.\n", .userText "Oslo?"] with
    tools := [⟨.builtin .braveSearch, none, []⟩, ⟨.custom "weather", none, []⟩]
    toolPromptFormat := .pythonList
    responseFormat := some (.jsonSchema (.ofPairs [("type", .string "object")])) }

/-- The system text of the chat is in front, its question is kept and a schema is asked for. -/
theorem prompt_keeps_conversation_weatherChat :
    ∃ prompt lead closing,
      weatherChat.prompt .llama33 ⟨2024, 7, 3, by decide⟩ = .ok prompt ∧
        prompt = Dialog.encode (lead ++ [.userText "Oslo?"] ++ [closing]) .llama33 .pythonList ∧
          ∃ text, .systemText text ∈ lead ∧ "Use tools wisely.".toList <:+: text.toList := by
  have renders : weatherChat.prompt .llama33 ⟨2024, 7, 3, by decide⟩ = .ok _ := rfl
  obtain ⟨lead, kept, closing, arranges, whole⟩ := prompt_keeps_conversation renders
  have styled : ModelFamily.llama33.toolPromptStyle ≠ .plain := by decide
  have isKept : kept = [.userText "Oslo?"] := by
    cases arranges.keeps styled with
    | system => rfl
    | unled other => exact absurd rfl (other _ _)
  rcases arranges.closes with ⟨schema, -, rfl⟩ | ⟨noSchema, -⟩
  · refine ⟨_, lead, _, renders, by rw [whole, isKept]; rfl, ?_⟩
    rcases (arranges.leads styled).absorbed _ _ rfl with nothing | ⟨text, member, inside⟩
    · exact absurd nothing (by decide)
    · exact ⟨text, member, inside⟩
  · exact absurd rfl (noSchema _)

end LlamaGateway
