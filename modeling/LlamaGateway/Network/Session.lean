import LlamaGateway.Error
import LlamaGateway.Json.Value
import LlamaGateway.Text.Basic
import LlamaGateway.Text.Bytes

/-!
# Network sessions

Work that sends requests is a function of the network. Its outcome lists what was sent, in order,
next to the result, so the list is there for failed work too.

A reply has a status, which error texts show with its standard phrase, headers and a body. A
streamed body is a text of lines: a blank line ends an event, whose data are its `data` lines joined
by line feeds; comments and other fields do not matter, and an event without a blank line after it
is dropped.
-/

namespace LlamaGateway

/-- The status code of a reply. -/
structure Status where
  /-- The number. -/
  code : Nat
deriving DecidableEq, Repr, Inhabited

namespace Status

/-- The request was carried out. -/
def isSuccess (status : Status) : Bool :=
  200 ≤ status.code && status.code < 300

/-- The standard phrases of the registered codes. -/
def phrases : List (Nat × String) :=
  [(100, "Continue"), (101, "Switching Protocols"), (102, "Processing"), (103, "Early Hints"),
    (200, "OK"), (201, "Created"), (202, "Accepted"), (203, "Non Authoritative Information"),
    (204, "No Content"), (205, "Reset Content"), (206, "Partial Content"), (207, "Multi-Status"),
    (208, "Already Reported"), (226, "IM Used"),
    (300, "Multiple Choices"), (301, "Moved Permanently"), (302, "Found"), (303, "See Other"),
    (304, "Not Modified"), (305, "Use Proxy"), (307, "Temporary Redirect"),
    (308, "Permanent Redirect"),
    (400, "Bad Request"), (401, "Unauthorized"), (402, "Payment Required"), (403, "Forbidden"),
    (404, "Not Found"), (405, "Method Not Allowed"), (406, "Not Acceptable"),
    (407, "Proxy Authentication Required"), (408, "Request Timeout"), (409, "Conflict"),
    (410, "Gone"), (411, "Length Required"), (412, "Precondition Failed"),
    (413, "Payload Too Large"), (414, "URI Too Long"), (415, "Unsupported Media Type"),
    (416, "Range Not Satisfiable"), (417, "Expectation Failed"), (418, "I'm a teapot"),
    (421, "Misdirected Request"), (422, "Unprocessable Entity"), (423, "Locked"),
    (424, "Failed Dependency"), (425, "Too Early"), (426, "Upgrade Required"),
    (428, "Precondition Required"), (429, "Too Many Requests"),
    (431, "Request Header Fields Too Large"), (451, "Unavailable For Legal Reasons"),
    (500, "Internal Server Error"), (501, "Not Implemented"), (502, "Bad Gateway"),
    (503, "Service Unavailable"), (504, "Gateway Timeout"), (505, "HTTP Version Not Supported"),
    (506, "Variant Also Negotiates"), (507, "Insufficient Storage"), (508, "Loop Detected"),
    (510, "Not Extended"), (511, "Network Authentication Required")]

/-- Number and phrase of a status. -/
def text (status : Status) : String :=
  String.ofList (Nat.toDigits 10 status.code) ++ " " ++
    (phrases.lookup status.code).getD "<unknown status code>"

end Status

namespace Header

/-- The character may stand in a token. -/
def isTokenChar (c : Char) : Bool :=
  c.isAlphanum ||
    ['!', '#', '$', '%', '&', '\'', '*', '+', '-', '.', '^', '_', (Char.ofNat 0x60), '|',
      '~'].contains c

/-- A token, which is not empty. -/
def isName (name : String) : Bool :=
  !name.isEmpty && name.toList.all isTokenChar

/-- The byte may stand in a value. -/
def isValueByte (byte : UInt8) : Bool :=
  byte = 9 || (0x20 ≤ byte.toNat && byte ≠ 0x7F)

/-- Bytes that may stand as a value. -/
def isValue (value : List UInt8) : Bool :=
  value.all isValueByte

/-- The byte is visible ASCII, a blank or a tab. -/
def isTextByte (byte : UInt8) : Bool :=
  byte = 9 || (0x20 ≤ byte.toNat && byte.toNat < 0x7F)

/-- The text of a value; none if it is not plain ASCII. -/
def text? (value : List UInt8) : Option (List Char) :=
  if value.all isTextByte then some (value.map fun byte => Char.ofNat byte.toNat) else none

/-- Two names of one header. -/
def sameName (left right : String) : Bool :=
  left.toList.map Char.toLower = right.toList.map Char.toLower

end Header

/-- A header of a request. -/
structure Header where
  /-- The name. -/
  name : String
  /-- The value. -/
  value : List UInt8
  /-- The name is a token. -/
  name_valid : Header.isName name = true
  /-- The value holds no control characters. -/
  value_valid : Header.isValue value = true

namespace Header

/-- The header with a name and a value, if both are well formed. -/
def of? (name : String) (value : List UInt8) : Option Header :=
  if valid : isName name = true ∧ isValue value = true then some ⟨name, value, valid.1, valid.2⟩
  else none

/-- The value of the first header with a name. -/
def first? (name : String) (headers : List Header) : Option (List UInt8) :=
  (headers.find? fun header => sameName header.name name).map Header.value

end Header

/-- A request that leaves the gateway. -/
inductive OutgoingRequest where
  /-- Fetch an image. -/
  | fetch (address : String)
  /-- Post a call to the provider. -/
  | post (address apiKey : String) (params : Json.Fields)
deriving DecidableEq, Repr

/-- The request is a call to the provider. -/
def OutgoingRequest.isPost : OutgoingRequest → Bool
  | .fetch _ => false
  | .post _ _ _ => true

/-- What comes back for a request. -/
structure IncomingReply where
  /-- The status. -/
  status : Status
  /-- The value of the content type header. -/
  contentType : Option (List UInt8)
  /-- The bytes of the body that arrived. -/
  body : List UInt8
  /-- The body as a text, which the HTTP client reads by the character set of the content type. -/
  text : String
  /-- The body arrived in full. -/
  complete : Bool
deriving DecidableEq, Repr, Inhabited

/-- A network answers the request at a position of the session, or says why it cannot. -/
abbrev Network := Nat → OutgoingRequest → Except String IncomingReply

/-- A request that was sent, and what came back. -/
structure Exchange where
  /-- The request. -/
  request : OutgoingRequest
  /-- The reply, or why there is none. -/
  reply : Except String IncomingReply

/-- The request reached its destination. -/
def Exchange.delivered (exchange : Exchange) : Bool :=
  match exchange.reply with
  | .ok _ => true
  | .error _ => false

/-- A result, and the requests that were sent on the way to it. -/
structure Traced (α : Type) where
  /-- The result. -/
  result : Except InferenceError α
  /-- What was sent, in order. -/
  exchanges : List Exchange

/-- Work in a network, given the number of requests that were sent before. -/
def Session (α : Type) : Type :=
  Network → Nat → Traced α

namespace Session

/-- A value without any request. -/
def pure {α : Type} (value : α) : Session α :=
  fun _ _ => ⟨.ok value, []⟩

/-- An outcome without any request. -/
def lift {α : Type} (result : Except InferenceError α) : Session α :=
  fun _ _ => ⟨result, []⟩

/-- Work and what follows it; an error ends both. -/
def bind {α β : Type} (work : Session α) (next : α → Session β) : Session β :=
  fun network sent =>
    let first := work network sent
    match first.result with
    | .error failure => ⟨.error failure, first.exchanges⟩
    | .ok value =>
      let second := next value network (sent + first.exchanges.length)
      ⟨second.result, first.exchanges ++ second.exchanges⟩

instance : Monad Session where
  pure := pure
  bind := bind

/-- The work of each item in order, up to the first failure. -/
def each {α β : Type} (work : α → Session β) : List α → Session (List β)
  | [] => pure []
  | item :: rest => do
    let value ← work item
    let values ← each work rest
    return value :: values

/-- One request, and what is made of what comes back. -/
def exchange {α : Type} (request : OutgoingRequest)
    (read : Except String IncomingReply → Except InferenceError α) : Session α :=
  fun network sent =>
    let reply := network sent request
    ⟨read reply, [⟨request, reply⟩]⟩

end Session

namespace ServerEvents

/-- What a streamed body delivers: the data of an event, or the reason why the stream broke off. -/
abbrev Item := Except String (List Char)

/-- The finished lines of a text, without their line ends: line feed, carriage return or both. A
carriage return at the very end may still be followed by its line feed, so it ends no line. -/
def linesFrom (line : List Char) : List Char → List (List Char)
  | [] => []
  | '\n' :: rest => line.reverse :: linesFrom [] rest
  | '\r' :: '\n' :: rest => line.reverse :: linesFrom [] rest
  | ['\r'] => []
  | '\r' :: rest => line.reverse :: linesFrom [] rest
  | c :: rest => linesFrom (c :: line) rest

/-- A text without a byte order mark in front. -/
def dropByteOrderMark : List Char → List Char
  | '\uFEFF' :: rest => rest
  | text => text

/-- The finished lines of a streamed text. -/
def lines (text : List Char) : List (List Char) :=
  linesFrom [] (dropByteOrderMark text)

/-- The value of a `data` line, none for another line. One blank after the colon does not count. -/
def dataValue? (line : List Char) : Option (List Char) :=
  match Text.dropPrefix? "data".toList line with
  | some [] => some []
  | some (':' :: ' ' :: value) => some value
  | some (':' :: value) => some value
  | _ => none

/-- The data of the events that some lines finish, given the data lines of the open event. -/
def eventsFrom (data : List (List Char)) : List (List Char) → List (List Char)
  | [] => []
  | [] :: rest =>
    match data with
    | [] => eventsFrom [] rest
    | _ :: _ => Text.joinWith ['\n'] data :: eventsFrom [] rest
  | line :: rest =>
    match dataValue? line with
    | some value => eventsFrom (data ++ [value]) rest
    | none => eventsFrom data rest

/-- The data of the finished events of a text. -/
def events (text : List Char) : List (List Char) :=
  eventsFrom [] (lines text)

/-- What a body delivers: its events up to the first malformed byte, and an error if there is one or
if the body broke off. -/
def ofBody (body : List UInt8) (complete : Bool) : List Item :=
  let (text, wellFormed) := Utf8.decodeStart .boundary body
  let failure : List Item :=
    if ¬ complete then [.error "the connection was closed before the end of the body"]
    else if ¬ wellFormed then [.error "the stream is not valid UTF-8"]
    else []
  (events text).map .ok ++ failure

end ServerEvents

end LlamaGateway
