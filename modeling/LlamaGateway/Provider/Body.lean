import LlamaGateway.Json.Reader
import LlamaGateway.Text.Bytes

/-!
# Provider bodies

The provider answers with a list of choices. A prompt call carries its text in the choice itself, a
message call in a message, and a streamed message call in a delta. Of several choices only the first
one counts.
-/

namespace LlamaGateway

open Json (Document)

/-- A message or a delta of a choice. -/
structure ChoiceMessage where
  /-- The role. -/
  role : Option String
  /-- The text. -/
  content : Option String
deriving DecidableEq, Repr, Inhabited

/-- The log probabilities of a choice: the candidates at each position. -/
structure ChoiceLogProbs where
  /-- The candidates, position by position, in the provider's order. -/
  positions : Option (List (List (String × Floating)))
deriving DecidableEq, Repr, Inhabited

/-- One generated answer or a piece of one. -/
structure Choice where
  /-- Its number. -/
  index : Nat
  /-- The text of a prompt call. -/
  text : Option String
  /-- The message of a message call. -/
  message : Option ChoiceMessage
  /-- The piece of a streamed message call. -/
  delta : Option ChoiceMessage
  /-- Why the provider stopped. -/
  finishReason : Option String
  /-- The log probabilities. -/
  logProbs : Option ChoiceLogProbs
deriving DecidableEq, Repr, Inhabited

/-- A response body, or one chunk of a streamed response. -/
structure ProviderBody where
  /-- The identifier of the response. -/
  id : Option String
  /-- The choices. -/
  choices : List Choice
deriving DecidableEq, Repr, Inhabited

/-- The text of a choice: that of the delta, else that of the message, else its own. A delta or
message without text hides what comes after it. -/
def Choice.text? (choice : Choice) : Option String :=
  match choice.delta, choice.message with
  | some delta, _ => delta.content
  | none, some message => message.content
  | none, none => choice.text

/-- The choice that counts. -/
def ProviderBody.firstChoice? (body : ProviderBody) : Option Choice :=
  body.choices.head?

namespace ChoiceMessage

def toJson (message : ChoiceMessage) : Json :=
  .object (Json.optionalMember "role" (message.role.map .string) ++
    Json.optionalMember "content" (message.content.map .string))

def ofDocument? (document : Document) : Option ChoiceMessage :=
  match document.record? ["role", "content"] with
  | some [role, content] => do
    let role ← Document.optional Document.string? role
    let content ← Document.optional Document.string? content
    return ⟨role, content⟩
  | _ => none

end ChoiceMessage

namespace ChoiceLogProbs

def toJson (logProbs : ChoiceLogProbs) : Json :=
  let position (candidates : List (String × Floating)) : Json :=
    .object (candidates.map fun (token, value) => (token, Json.ofFloating value))
  .object (Json.optionalMember "top_logprobs"
    (logProbs.positions.map fun positions => .array (positions.map position)))

def ofDocument? (document : Document) : Option ChoiceLogProbs :=
  match document.record? ["top_logprobs"] with
  | some [positions] =>
    (Document.optional (Document.items? (Document.entries? Document.floating?)) positions).map .mk
  | _ => none

end ChoiceLogProbs

namespace Choice

def toJson (choice : Choice) : Json :=
  .object (("index", .ofNat choice.index) ::
    Json.optionalMember "text" (choice.text.map .string) ++
    Json.optionalMember "message" (choice.message.map ChoiceMessage.toJson) ++
    Json.optionalMember "delta" (choice.delta.map ChoiceMessage.toJson) ++
    Json.optionalMember "finish_reason" (choice.finishReason.map .string) ++
    Json.optionalMember "logprobs" (choice.logProbs.map ChoiceLogProbs.toJson))

/-- The names of the fields, in order. -/
def fieldNames : List String :=
  ["index", "text", "message", "delta", "finish_reason", "logprobs"]

def ofDocument? (document : Document) : Option Choice :=
  match document.record? fieldNames with
  | some [index, text, message, delta, finishReason, logProbs] => do
    let index ← Document.withDefault 0 (Document.natural? Document.word32Max) index
    let text ← Document.optional Document.string? text
    let message ← Document.optional ChoiceMessage.ofDocument? message
    let delta ← Document.optional ChoiceMessage.ofDocument? delta
    let finishReason ← Document.optional Document.string? finishReason
    let logProbs ← Document.optional ChoiceLogProbs.ofDocument? logProbs
    return ⟨index, text, message, delta, finishReason, logProbs⟩
  | _ => none

end Choice

namespace ProviderBody

def toJson (body : ProviderBody) : Json :=
  .object (Json.optionalMember "id" (body.id.map .string) ++
    [("choices", .array (body.choices.map Choice.toJson))])

def ofDocument? (document : Document) : Option ProviderBody :=
  match document.record? ["id", "choices"] with
  | some [id, choices] => do
    let id ← Document.optional Document.string? id
    let choices ← Document.withDefault [] (Document.items? Choice.ofDocument?) choices
    return ⟨id, choices⟩
  | _ => none

/-- The body that a text holds. -/
def parse? (text : List Char) : Option ProviderBody :=
  (Document.ofText? text).bind ofDocument?

/-- What malformed bytes are read as: half of a surrogate pair, kept apart from any other half. The
string that it stands in is unreadable, and it stands nowhere else. -/
def malformedText : List Char :=
  "x\\udc00".toList

/-- The body that bytes hold. Malformed ones do no harm in a string that nothing reads. -/
def ofBytes? (bytes : List UInt8) : Option ProviderBody :=
  parse? (Utf8.decodeLenient malformedText bytes)

theorem ofBytes?_of_decode? {bytes : List UInt8} {text : List Char}
    (wellFormed : Utf8.decode? bytes = some text) : ofBytes? bytes = parse? text := by
  rw [ofBytes?, Utf8.decodeLenient_of_decode? wellFormed]

end ProviderBody

end LlamaGateway
