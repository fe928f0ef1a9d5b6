import LlamaGateway.Conversation.Tool
import LlamaGateway.Json.Reader

/-!
# Messages

The turns of a conversation, their contents and the reasons why a model ended its own. Content is
plain text, or text and images in order; its JSON form is a string or an array of tagged parts. The
JSON form of a message is a record tagged with the role.
-/

namespace LlamaGateway

open Json (Document)

/-- Why generation stopped. -/
inductive StopReason where
  /-- The model finished its turn. -/
  | endOfTurn
  /-- The model waits for the result of a tool. -/
  | endOfMessage
  /-- The text was cut short. -/
  | outOfTokens
deriving DecidableEq, Repr, Inhabited

namespace StopReason

def name : StopReason → String
  | .endOfTurn => "end_of_turn"
  | .endOfMessage => "end_of_message"
  | .outOfTokens => "out_of_tokens"

def ofName? (name : String) : Option StopReason :=
  match name with
  | "end_of_turn" => some .endOfTurn
  | "end_of_message" => some .endOfMessage
  | "out_of_tokens" => some .outOfTokens
  | _ => none

@[simp] theorem ofName?_name (reason : StopReason) : ofName? reason.name = some reason := by
  cases reason <;> rfl

/-- The stop reason of a provider's finish reason; an unknown one means that the text was cut
short. -/
def ofFinishReason (reason : String) : StopReason :=
  match reason with
  | "stop" | "eos" | "eos_token" => .endOfTurn
  | "eom" => .endOfMessage
  | _ => .outOfTokens

def toJson (reason : StopReason) : Json :=
  .string reason.name

def ofDocument? : Json.Document → Option StopReason :=
  Json.Document.choice? Json.Document.isNull ofName?

end StopReason

/-- An image, by address or by its bytes. -/
inductive Image where
  /-- A remote image or a `data:` address. -/
  | url (address : String)
  /-- The encoded bytes and, if known, their format. -/
  | data (bytes : List UInt8) (format : Option String)
deriving DecidableEq, Repr, Inhabited

/-- One part of mixed content. -/
inductive ContentPart where
  | text (words : String)
  | image (picture : Image)
deriving DecidableEq, Repr, Inhabited

/-- Plain text, or text and images in order. -/
inductive Content where
  | text (words : String)
  | parts (items : List ContentPart)
deriving DecidableEq, Repr

instance : Inhabited Content := ⟨.text ""⟩

/-- The text of a part, none for an image. -/
def ContentPart.text? : ContentPart → Option String
  | .text words => some words
  | .image _ => none

/-- The part is an image. -/
def ContentPart.isImage : ContentPart → Bool
  | .text _ => false
  | .image _ => true

namespace Content

/-- The texts in order, images left out. -/
def plainText : Content → String
  | .text words => words
  | .parts items => String.join (items.filterMap ContentPart.text?)

/-- Some part is an image. -/
def hasMedia : Content → Bool
  | .text _ => false
  | .parts items => items.any ContentPart.isImage

/-- The content as a list of parts. -/
def toParts : Content → List ContentPart
  | .text words => [.text words]
  | .parts items => items

/-- There is no text and no part at all. -/
def isEmpty : Content → Bool
  | .text words => words.isEmpty
  | .parts items => items.isEmpty

end Content

namespace Image

def toJson : Image → Json
  | .url address => .object [("url", .string address)]
  | .data bytes format =>
    let bytes := Json.array (bytes.map fun byte => .ofNat byte.toNat)
    let format := Json.optionalMember "format" (format.map .string)
    .object [("data", .object (("bytes", bytes) :: format))]

def ofDocument? : Document → Option Image
  | .object [("url", address)] => address.string?.map .url
  | .object [("data", body)] =>
    match body.record? ["bytes", "format"] with
    | some [bytes, format] => do
      let bytes ← Document.required (Document.items? Document.byte?) bytes
      let format ← Document.optional Document.string? format
      return .data bytes format
    | _ => none
  | _ => none

end Image

namespace ContentPart

def toJson : ContentPart → Json
  | .text words => .object [("type", .string "text"), ("text", .string words)]
  | .image picture => .object [("type", .string "image"), ("image", picture.toJson)]

/-- The part of a record whose tag stands at a position of `text`, `image`. -/
def ofTagged? (body : Document) : Nat → Option ContentPart
  | 0 =>
    match body.record? ["text"] with
    | some [words] => (Document.required Document.string? words).map .text
    | _ => none
  | 1 =>
    match body.record? ["image"] with
    | some [picture] => (Document.required Image.ofDocument? picture).map .image
    | _ => none
  | _ => none

/-- The part of a JSON document, which is part of a larger one if `nested`. -/
def ofDocument? (nested : Bool) (document : Document) : Option ContentPart :=
  if document.readable then do
    let (tag, body) ← document.tagged? "type"
    let position ← tag.tagPosition? ["text", "image"] nested
    ofTagged? body position
  else none

end ContentPart

namespace Content

def toJson : Content → Json
  | .text words => .string words
  | .parts items => .array (items.map ContentPart.toJson)

def ofDocument? (document : Document) : Option Content :=
  if document.readable then
    match document with
    | .string words => some (.text words)
    | .array items => (items.mapM (ContentPart.ofDocument? true)).map .parts
    | _ => none
  else none

end Content

/-- A turn of the model. -/
structure AssistantMessage where
  /-- What it said. -/
  content : Content
  /-- Why it stopped. -/
  stopReason : StopReason
  /-- The tools it called. -/
  toolCalls : List ToolCall
deriving DecidableEq, Repr, Inhabited

/-- A turn of a conversation. -/
inductive Message where
  /-- Instructions for the model. -/
  | system (body : Content)
  /-- A turn of the user, with retrieved context. -/
  | user (body : Content) (context : Option Content)
  /-- A turn of the model. -/
  | assistant (turn : AssistantMessage)
  /-- The result of a tool call. -/
  | tool (callId : String) (name : ToolName) (body : Content)
deriving DecidableEq, Repr, Inhabited

namespace Message

/-- Instructions as plain text. -/
def systemText (text : String) : Message :=
  .system (.text text)

/-- A user turn as plain text, without context. -/
def userText (text : String) : Message :=
  .user (.text text) none

/-- A finished turn of the model without tool calls. -/
def finishedAssistant (content : Content) : Message :=
  .assistant ⟨content, .endOfTurn, []⟩

/-- The role in the provider's structured form. -/
def role : Message → String
  | .system _ => "system"
  | .user _ _ => "user"
  | .assistant _ => "assistant"
  | .tool _ _ _ => "tool"

/-- The content, without a user's context. -/
def content : Message → Content
  | .system body | .user body _ | .tool _ _ body => body
  | .assistant turn => turn.content

/-- The retrieved context of a user turn. -/
def context? : Message → Option Content
  | .user _ context => context
  | _ => none

/-- All parts: those of the content, then those of the context. -/
def parts (message : Message) : List ContentPart :=
  message.content.toParts ++ (message.context?.map Content.toParts).getD []

/-- Only a user's message with a context has parts behind those of its content. -/
theorem parts_eq (message : Message) :
    message.parts =
      match message with
      | .system body | .user body none | .tool _ _ body => body.toParts
      | .user body (some context) => body.toParts ++ context.toParts
      | .assistant turn => turn.content.toParts := by
  cases message with
  | user body context => cases context <;> simp [parts, content, context?]
  | system | assistant | tool => simp [parts, content, context?]

/-- Content or context hold an image. -/
def hasMedia (message : Message) : Bool :=
  message.content.hasMedia || (message.context?.map Content.hasMedia).getD false

/-- The message holds instructions for the model. -/
def isSystem : Message → Bool
  | .system _ => true
  | _ => false

end Message

namespace AssistantMessage

/-- The members of the JSON form of a turn. -/
def members (message : AssistantMessage) : List (String × Json) :=
  let calls := if message.toolCalls.isEmpty then none
    else some (Json.array (message.toolCalls.map ToolCall.toJson))
  [("content", message.content.toJson), ("stop_reason", message.stopReason.toJson)] ++
    Json.optionalMember "tool_calls" calls

def toJson (message : AssistantMessage) : Json :=
  .object message.members

/-- The turn of a JSON document; inside a tagged message the stop reason may also carry an empty
object. -/
def ofDocument? (tagged : Bool) (document : Document) : Option AssistantMessage :=
  match document.record? ["content", "stop_reason", "tool_calls"] with
  | some [content, stopReason, toolCalls] => do
    let isNothing := if tagged then Document.isNullOrEmpty else Document.isNull
    let content ← Document.required Content.ofDocument? content
    let stopReason ← Document.required (Document.choice? isNothing StopReason.ofName?) stopReason
    let toolCalls ← Document.withDefault [] (Document.items? ToolCall.ofDocument?) toolCalls
    return ⟨content, stopReason, toolCalls⟩
  | _ => none

end AssistantMessage

namespace Message

def toJson : Message → Json
  | .system body => .object [("role", .string "system"), ("content", body.toJson)]
  | .user body context =>
    .object ([("role", .string "user"), ("content", body.toJson)] ++
      Json.optionalMember "context" (context.map Content.toJson))
  | .assistant turn => .object (("role", .string "assistant") :: turn.members)
  | .tool callId name body =>
    .object [("role", .string "tool"), ("call_id", .string callId), ("tool_name", name.toJson),
      ("content", body.toJson)]

/-- The message of a record whose tag stands at a position of `system`, `user`, `assistant`,
`tool`. -/
def ofTagged? (body : Document) : Nat → Option Message
  | 0 =>
    match body.record? ["content"] with
    | some [content] => do
      let body ← Document.required Content.ofDocument? content
      return .system body
    | _ => none
  | 1 =>
    match body.record? ["content", "context"] with
    | some [content, context] => do
      let body ← Document.required Content.ofDocument? content
      let context ← Document.optional Content.ofDocument? context
      return .user body context
    | _ => none
  | 2 => (AssistantMessage.ofDocument? true body).map .assistant
  | 3 =>
    match body.record? ["call_id", "tool_name", "content"] with
    | some [callId, name, content] => do
      let callId ← Document.required Document.string? callId
      let name ← Document.required ToolName.ofDocument? name
      let body ← Document.required Content.ofDocument? content
      return .tool callId name body
    | _ => none
  | _ => none

def ofDocument? (document : Document) : Option Message :=
  if document.readable then do
    let (tag, body) ← document.tagged? "role"
    let position ← tag.tagPosition? ["system", "user", "assistant", "tool"] false
    ofTagged? body position
  else none

end Message

end LlamaGateway
