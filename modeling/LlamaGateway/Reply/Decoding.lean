import LlamaGateway.Conversation.Message
import LlamaGateway.Conversation.Tool
import LlamaGateway.Prompt.Dialog
import LlamaGateway.Text.Basic
import LlamaGateway.Text.WordChar

/-!
# Decoded replies

A generated reply is a core between a header and a tag in front and an end marker behind, each of
which may be missing. The core holds at most one tool call. A function tag hides a function object,
even if its arguments cannot be read; either of them hides a method call; and a tagged reply without
any of these is code. A reply with a call has no other content.
-/

namespace LlamaGateway

/-- A reply taken apart. -/
structure ReplyFrame where
  /-- The model's own header stands in front. -/
  headed : Bool
  /-- The tag of tool calls follows. -/
  tagged : Bool
  /-- What remains. -/
  core : List Char
  /-- The end marker. -/
  marker : Option EndMarker
deriving DecidableEq, Repr

namespace ReplyFrame

/-- A text without a lead, and whether the lead was there. -/
def takeLead (lead text : List Char) : Bool × List Char :=
  match Text.dropPrefix? lead text with
  | some rest => (true, rest)
  | none => (false, text)

/-- A text without one end marker at its end, and the marker. -/
def takeMarker (text : List Char) : List Char × Option EndMarker :=
  match Text.dropSuffix? (EndMarker.text .turn) text with
  | some rest => (rest, some .turn)
  | none =>
    match Text.dropSuffix? (EndMarker.text .message) text with
    | some rest => (rest, some .message)
    | none => (text, none)

/-- The frame of a reply without blanks at either end. -/
def ofTrimmed (text : List Char) : ReplyFrame :=
  let (headed, text) := takeLead Template.assistantHeader text
  let (tagged, text) := takeLead Template.toolTag text
  let (core, marker) := takeMarker text
  ⟨headed, tagged, core, marker⟩

/-- The frame of a reply. -/
def ofText (text : List Char) : ReplyFrame :=
  ofTrimmed (Text.trim (· = ' ') text)

/-- The text of a lead, empty if it is not there. -/
def leadText (lead : List Char) : Bool → List Char
  | true => lead
  | false => []

/-- The text of an end marker, empty if there is none. -/
def markerText : Option EndMarker → List Char
  | some marker => marker.text
  | none => []

/-- The text of a frame. -/
def render (frame : ReplyFrame) : List Char :=
  leadText Template.assistantHeader frame.headed ++ leadText Template.toolTag frame.tagged ++
    frame.core ++ markerText frame.marker

theorem eq_append_of_takeLead (lead text : List Char) :
    text = leadText lead (takeLead lead text).1 ++ (takeLead lead text).2 := by
  unfold takeLead
  split
  · next rest parts => simpa [leadText] using Text.eq_append_of_dropPrefix? parts
  · simp [leadText]

theorem eq_append_of_takeMarker (text : List Char) :
    text = (takeMarker text).1 ++ markerText (takeMarker text).2 := by
  unfold takeMarker
  split
  · next rest parts => simpa [markerText] using Text.dropSuffix?_eq_some_iff.1 parts
  · split
    · next rest parts => simpa [markerText] using Text.dropSuffix?_eq_some_iff.1 parts
    · simp [markerText]

theorem render_ofTrimmed (text : List Char) : (ofTrimmed text).render = text := by
  simp only [ofTrimmed, render, List.append_assoc]
  rw [← eq_append_of_takeMarker, ← eq_append_of_takeLead, ← eq_append_of_takeLead]

/-- The frame's stop reason: that of its marker, else the given one, else a text cut short. -/
def stopReason (frame : ReplyFrame) (given : Option StopReason) : StopReason :=
  match frame.marker, given with
  | some marker, _ => marker.stopReason
  | none, some reason => reason
  | none, none => .outOfTokens

end ReplyFrame

/-- A tool with its arguments. -/
structure FoundCall where
  /-- The tool. -/
  tool : ToolName
  /-- The arguments. -/
  arguments : Json.Fields
deriving DecidableEq, Repr

namespace FoundCall

/-- The call of a builtin tool with a query. -/
def query (tool : ToolName) (value : Json) : FoundCall :=
  ⟨tool, [("query", value)]⟩

/-- The call that runs code. -/
def code (text : List Char) : FoundCall :=
  ⟨.builtin .codeInterpreter, [("code", .string (String.ofList text))]⟩

/-- The call of a named function. For a builtin tool the first argument becomes its query. -/
def named (name : String) (arguments : Json.Fields) : FoundCall :=
  match ToolName.ofString name with
  | .builtin tool => query (.builtin tool) ((arguments.head?.map Prod.snd).getD (.string ""))
  | .custom name => ⟨.custom name, arguments⟩

/-- A function of the caller is called with the arguments as they are. -/
theorem named_custom {name : String} (foreign : BuiltinTool.ofName? name = none)
    (arguments : Json.Fields) : named name arguments = ⟨.custom name, arguments⟩ := by
  simp [named, ToolName.ofString_custom foreign]

/-- A builtin tool is called with the first argument alone, whatever its key. -/
theorem named_builtin (tool : BuiltinTool) (key : String) (value : Json)
    (arguments : Json.Fields) :
    named tool.name ((key, value) :: arguments) = ⟨.builtin tool, [("query", value)]⟩ := by
  simp [named, query]

/-- Without an argument it is called with an empty query. -/
theorem named_builtin_nil (tool : BuiltinTool) :
    named tool.name [] = ⟨.builtin tool, [("query", .string "")]⟩ := by
  simp [named, query]

end FoundCall

namespace FunctionTag

/-- The text that starts a function tag. -/
def opening : List Char := "<function=".toList

/-- The text that ends the arguments. -/
def closing : List Char := "</function>".toList

/-- The name of the tag that starts a text, and what follows the tag. -/
def open? (text : List Char) : Option (List Char × List Char) :=
  match (Text.dropPrefix? opening text).bind (Text.breakOn? ['>']) with
  | some (first :: name, after) => some (first :: name, after)
  | _ => none

/-- The text up to the closing tag, or all of it. -/
def untilClosing (text : List Char) : List Char :=
  match Text.breakOn? closing text with
  | some (before, _) => before
  | none => text

/-- Name and arguments of the first tag in a text. -/
def find? : List Char → Option (List Char × List Char)
  | [] => none
  | c :: rest =>
    match open? (c :: rest) with
    | some (name, after) => some (name, untilClosing after)
    | none => find? rest

/-- The object that a text holds, if need be with double quotes in place of single ones. -/
def arguments? (text : List Char) : Option Json.Fields :=
  match Json.parseFields? (String.ofList text) with
  | some fields => some fields
  | none => Json.parseFields? (String.ofList (Text.replaceChar '\'' '"' text))

/-- The call of a tag with the given parts. -/
def call? (name arguments : List Char) : Option FoundCall :=
  (arguments? (Text.trimBlank arguments)).map
    (FoundCall.named (String.ofList (Text.trimBlank name)))

end FunctionTag

namespace FunctionObject

/-- The object has the type of a function or a name. -/
def isFunction (fields : Json.Fields) : Bool :=
  fields.get? "type" = some (.string "function") || (fields.get? "name").isSome

/-- The parameters of a function object, none of them if it has no such member. -/
def parameters? (fields : Json.Fields) : Option Json.Fields :=
  match fields.get? "parameters" with
  | some (.object parameters) => some parameters
  | some _ => none
  | none => some []

/-- The call that an object stands for. -/
def call? (fields : Json.Fields) : Option FoundCall :=
  match isFunction fields, fields.get? "name", parameters? fields with
  | true, some (.string name), some parameters => some (FoundCall.named name parameters)
  | _, _, _ => none

/-- The call of a text that is a function object. -/
def ofText? (text : List Char) : Option FoundCall :=
  (Json.parseFields? (String.ofList (Text.trimBlank text))).bind call?

end FunctionObject

namespace QueryCall

/-- The text between the name of a tool and its query. -/
def opening : List Char := ".call(query=\"".toList

/-- The word that starts a text, and what follows it. -/
def spanWord (text : List Char) : List Char × List Char :=
  (text.takeWhile Text.isWordChar, text.dropWhile Text.isWordChar)

/-- Name and query of the method call that starts a text with a word. -/
def start? (text : List Char) : Option (List Char × List Char) :=
  let (name, rest) := spanWord text
  match (Text.dropPrefix? opening rest).bind (Text.breakOn? ['"']) with
  | some (query, ')' :: _) => some (name, query)
  | _ => none

/-- Name and query of the first method call in a text. A call starts where a word starts, so
`insideWord` tells whether the character before was part of one. -/
def find? (insideWord : Bool) : List Char → Option (List Char × List Char)
  | [] => none
  | c :: rest =>
    if Text.isWordChar c then
      match if insideWord then none else start? (c :: rest) with
      | some found => some found
      | none => find? true rest
    else find? false rest

/-- The call of a text that holds a method call. -/
def ofText? (text : List Char) : Option FoundCall :=
  (find? false text).map fun (name, query) =>
    FoundCall.query (ToolName.ofString (String.ofList name)) (.string (String.ofList query))

end QueryCall

namespace Reply

/-- The call of a function tag, or of a text that is a function object. -/
def functionCall? (core : List Char) : Option FoundCall :=
  match FunctionTag.find? core with
  | some (name, arguments) => FunctionTag.call? name arguments
  | none => FunctionObject.ofText? core

/-- The call of a core; code if it is tagged and holds no other call. -/
def call? (tagged : Bool) (core : List Char) : Option FoundCall :=
  match functionCall? core, QueryCall.ofText? core with
  | some call, _ => some call
  | none, some call => some call
  | none, none => if tagged then some (.code core) else none

/-- The turn of a reply. A call in it gets the given identifier. -/
def decode (callId : String) (text : List Char) (given : Option StopReason) : AssistantMessage :=
  let frame := ReplyFrame.ofText text
  let stopReason := frame.stopReason given
  match call? frame.tagged frame.core with
  | some call => ⟨.text "", stopReason, [⟨callId, call.tool, call.arguments⟩]⟩
  | none => ⟨.text (String.ofList frame.core), stopReason, []⟩

end Reply

end LlamaGateway
