import LlamaGateway.Config.Duration
import LlamaGateway.Conversation.Message
import LlamaGateway.Network.Session
import LlamaGateway.Text.Bytes
import LlamaGateway.Text.Basic
import LlamaGateway.Url.Parser

/-!
# Structured messages

A conversation with images is sent as a list of messages, each with its parts in order. An image
reaches the provider as an address: its bytes become a `data:` address, and a remote image is passed
on as it is, or fetched and inlined on request.
-/

namespace LlamaGateway

namespace ImageData

/-- The start of a JPEG file. -/
def jpegMark : List UInt8 := [0xFF, 0xD8, 0xFF]

/-- The start of a GIF file of either version. -/
def gifMarks : List (List UInt8) :=
  [[0x47, 0x49, 0x46, 0x38, 0x37, 0x61], [0x47, 0x49, 0x46, 0x38, 0x39, 0x61]]

/-- The start of a RIFF file. -/
def riffMark : List UInt8 := [0x52, 0x49, 0x46, 0x46]

/-- The kind of a RIFF file that is a WebP image. -/
def webpMark : List UInt8 := [0x57, 0x45, 0x42, 0x50]

/-- The format that the first bytes of an image tell; unknown ones are taken for PNG. -/
def formatOf (bytes : List UInt8) : String :=
  if jpegMark.isPrefixOf bytes then "jpeg"
  else if gifMarks.any fun mark => mark.isPrefixOf bytes then "gif"
  else if riffMark.isPrefixOf bytes && webpMark.isPrefixOf (bytes.drop 8) then "webp"
  else "png"

/-- The address that holds an image itself. -/
def dataAddress (format : String) (bytes : List UInt8) : String :=
  "data:image/" ++ format ++ ";base64," ++ String.ofList (Base64.encode bytes)

/-- The address holds the image itself. -/
def isDataAddress (address : String) : Bool :=
  (Text.dropPrefix? "data:".toList address.toList).isSome

theorem isDataAddress_iff {address : String} :
    isDataAddress address = true ↔ ∃ rest, address.toList = "data:".toList ++ rest := by
  rw [isDataAddress, Option.isSome_iff_exists]
  exact exists_congr fun rest => Text.dropPrefix?_eq_some_iff

/-- The longest time for a fetch when no settings give one. -/
def defaultTimeout : Duration := .ofSeconds 30

/-- The text after the last slash. -/
def afterLastSlash (text : List Char) : List Char :=
  (text.reverse.takeWhile (· ≠ '/')).reverse

/-- The format that a content type names. -/
def namedFormat? (contentType : List UInt8) : Option String := do
  let value ← Header.text? contentType
  let format := Text.trimBlank (afterLastSlash (value.takeWhile (· ≠ ';')))
  if format.isEmpty then none else some (String.ofList format)

/-- The address of a fetched image, from what came back for it. -/
def ofReply (address : String) : Except String IncomingReply → Except InferenceError String
  | .error cause => .error (.upstream ("failed to download image " ++ address ++ ": " ++ cause))
  | .ok reply =>
    if ¬ reply.status.isSuccess then
      .error (.upstream ("image download " ++ address ++ " returned " ++ reply.status.text))
    else if ¬ reply.complete then
      .error (.upstream ("failed to read image " ++ address ++ ": the body broke off"))
    else
      let format := (reply.contentType.bind namedFormat?).getD (formatOf reply.body)
      .ok (dataAddress format reply.body)

/-- The address can be fetched: it is an absolute web address that can be requested. -/
def isFetchable (address : String) : Bool :=
  (Url.parse? address).any fun url =>
    url.isRequestable && Url.isRequestText url.withoutUser.toText

/-- Fetch a remote image. An address that cannot be fetched fails without a request. -/
def fetch (address : String) : Session String :=
  if isFetchable address then Session.exchange (.fetch address) (ofReply address)
  else Session.lift (ofReply address (.error "not an absolute web address"))

/-- The address of an image in a call. -/
def address (fetchRemote : Bool) : Image → Session String
  | .url address =>
    if fetchRemote && !isDataAddress address then fetch address else pure address
  | .data bytes format => pure (dataAddress (format.getD (formatOf bytes)) bytes)

end ImageData

namespace CallMessages

/-- The provider's form of a text. -/
def textPart (words : String) : Json :=
  .ofPairs [("type", .string "text"), ("text", .string words)]

/-- The provider's form of an image. -/
def imagePart (address : String) : Json :=
  .ofPairs [("type", .string "image_url"), ("image_url", .ofPairs [("url", .string address)])]

/-- The provider's form of a part. -/
def part (fetchRemote : Bool) : ContentPart → Session Json
  | .text words => pure (textPart words)
  | .image picture => do
    let address ← ImageData.address fetchRemote picture
    return imagePart address

/-- The member that ties the result of a tool to its call. -/
def callMember : Message → List (String × Json)
  | .tool callId _ _ => [("tool_call_id", .string callId)]
  | _ => []

/-- The provider's form of a message whose parts are converted. -/
def withParts (message : Message) (parts : List Json) : Json :=
  .ofPairs ([("role", .string message.role), ("content", .array parts)] ++ callMember message)

/-- The provider's form of a message. -/
def one (fetchRemote : Bool) (message : Message) : Session Json := do
  let parts ← Session.each (part fetchRemote) message.parts
  return withParts message parts

/-- The provider's form of a conversation. Remote images are fetched one after the other, up to the
first failure. -/
def build (fetchRemote : Bool) (messages : List Message) : Session (List Json) :=
  Session.each (one fetchRemote) messages

end CallMessages

end LlamaGateway
