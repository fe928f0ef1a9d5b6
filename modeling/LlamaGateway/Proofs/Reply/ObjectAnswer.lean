import LlamaGateway.Proofs.Reply.CallForms

/-!
# Answers that are objects

A reply whose core is a JSON object may be an answer or a call. It is a call if the object names a
function and does not spoil its parameters: they are an object, or they are left out. Any other
object is an answer and is kept as it was written.
-/

namespace LlamaGateway

theorem ToolName.toString_ofString (name : String) : (ofString name).toString = name := by
  rw [ofString]
  split
  · next tool found => exact BuiltinTool.name_eq_of_ofName? found
  · rfl

theorem FoundCall.tool_named (name : String) (arguments : Json.Fields) :
    (named name arguments).tool = ToolName.ofString name := by
  rw [named]
  split
  · next tool builtin => exact builtin.symm
  · next custom foreign => exact foreign.symm

namespace FunctionObject

/-- The members of an object name a function and its parameters, none if they are left out. -/
structure Names (fields : Json.Fields) (name : String) (parameters : Json.Fields) : Prop where
  /-- The name is a string. -/
  named : fields.get? "name" = some (.string name)
  /-- The parameters are an object, or there is no such member. -/
  given : fields.get? "parameters" = some (.object parameters) ∨
    (fields.get? "parameters" = none ∧ parameters = [])

theorem parameters?_eq_some_iff {fields parameters : Json.Fields} :
    parameters? fields = some parameters ↔
      fields.get? "parameters" = some (.object parameters) ∨
        (fields.get? "parameters" = none ∧ parameters = []) := by
  unfold parameters?
  split
  · next held given => simp [given]
  · next value noObject given =>
    have other : value ≠ .object parameters := fun same => noObject parameters same
    simp [given, other]
  · next missing => simp [missing, eq_comm]

/-- An object is a call exactly if it names a function. Its type does not matter. -/
theorem call?_eq_some_iff {fields : Json.Fields} {call : FoundCall} :
    call? fields = some call ↔
      ∃ name parameters, Names fields name parameters ∧ call = FoundCall.named name parameters := by
  constructor
  · intro found
    unfold call? at found
    split at found
    · next name parameters function named given =>
      cases found
      exact ⟨name, parameters, ⟨named, parameters?_eq_some_iff.1 given⟩, rfl⟩
    · cases found
  · rintro ⟨name, parameters, ⟨named, given⟩, rfl⟩
    have function : isFunction fields = true := by simp [isFunction, named]
    rw [call?, function, named, parameters?_eq_some_iff.2 given]

theorem call?_eq_none_iff {fields : Json.Fields} :
    call? fields = none ↔ ¬ ∃ name parameters, Names fields name parameters := by
  rw [Option.eq_none_iff_forall_ne_some]
  constructor
  · rintro missing ⟨name, parameters, names⟩
    exact missing _ (call?_eq_some_iff.2 ⟨name, parameters, names, rfl⟩)
  · rintro unnamed call found
    obtain ⟨name, parameters, names, -⟩ := call?_eq_some_iff.1 found
    exact unnamed ⟨name, parameters, names⟩

theorem ofText?_eq_call? {text : List Char} {fields : Json.Fields}
    (object : Json.parseFields? (String.ofList (Text.trimBlank text)) = some fields) :
    ofText? text = call? fields := by
  rw [ofText?, object, Option.bind_some]

end FunctionObject

/-- A core that holds no opening of a tag or of a query is a call only as a function object. -/
theorem Reply.call?_of_object {core : List Char} {fields : Json.Fields}
    (untagged : ¬ FunctionTag.opening <:+: core) (uncalled : ¬ ".call(query=".toList <:+: core)
    (object : Json.parseFields? (String.ofList (Text.trimBlank core)) = some fields) :
    call? false core = FunctionObject.call? fields := by
  have noTag := FunctionTag.find?_eq_none untagged
  have noQuery := QueryCall.find?_eq_none (QueryCall.opening_not_infix uncalled)
  simp only [call?, functionCall?, noTag, FunctionObject.ofText?_eq_call? object,
    QueryCall.ofText?, noQuery, Option.map_none]
  cases FunctionObject.call? fields <;> rfl

/-- A reply that is an object, without the opening of a tag or of a query in it, is a call exactly
if the object names a function and its parameters are an object or left out. The call is that of the
function, with these parameters unless the tool is a builtin one. Any other object is text. -/
theorem object_answer_is_call_iff (callId : String) (given : Option StopReason)
    {text : List Char} {frame : ReplyFrame} {fields : Json.Fields}
    (peels : ReplyFrame.Peels text frame) (plain : frame.tagged = false)
    (untagged : ¬ FunctionTag.opening <:+: frame.core)
    (uncalled : ¬ ".call(query=".toList <:+: frame.core)
    (object : Json.parseFields? (String.ofList (Text.trimBlank frame.core)) = some fields) :
    ((Reply.decode callId text given).toolCalls ≠ [] ↔
        ∃ name parameters, FunctionObject.Names fields name parameters) ∧
      (∀ name parameters, FunctionObject.Names fields name parameters →
        (Reply.decode callId text given).content = .text "" ∧
          ∃ call, (Reply.decode callId text given).toolCalls = [call] ∧
            call.tool = ToolName.ofString name ∧ call.tool.toString = name ∧
              (BuiltinTool.ofName? name = none → call.arguments = parameters)) ∧
      ((¬ ∃ name parameters, FunctionObject.Names fields name parameters) →
        (Reply.decode callId text given).content = .text (String.ofList frame.core) ∧
          (Reply.decode callId text given).toolCalls = []) := by
  have decoded := Reply.decode_of_peels peels callId given
  rw [plain, Reply.call?_of_object untagged uncalled object] at decoded
  by_cases named : ∃ name parameters, FunctionObject.Names fields name parameters
  · have isCall (name : String) (parameters : Json.Fields)
        (names : FunctionObject.Names fields name parameters) :
        Reply.decode callId text given =
          ⟨.text "", frame.stopReason given,
            [⟨callId, ToolName.ofString name, (FoundCall.named name parameters).arguments⟩]⟩ := by
      rw [decoded, FunctionObject.call?_eq_some_iff.2 ⟨name, parameters, names, rfl⟩,
        ← FoundCall.tool_named name parameters]
      rfl
    refine ⟨⟨fun _ => named, fun ⟨name, parameters, names⟩ => ?_⟩,
      fun name parameters names => ?_, fun unnamed => absurd named unnamed⟩
    · rw [isCall name parameters names]
      simp
    · rw [isCall name parameters names]
      exact ⟨rfl, _, rfl, rfl, ToolName.toString_ofString name, fun foreign =>
        congrArg FoundCall.arguments (FoundCall.named_custom foreign parameters)⟩
  · have isText : Reply.decode callId text given =
        ⟨.text (String.ofList frame.core), frame.stopReason given, []⟩ := by
      rw [decoded, FunctionObject.call?_eq_none_iff.2 named]
      rfl
    rw [isText]
    exact ⟨⟨fun called => absurd rfl called, fun names => absurd names named⟩,
      fun name parameters names => absurd ⟨name, parameters, names⟩ named, fun _ => ⟨rfl, rfl⟩⟩

/-- A call whose type is a number. -/
def weatherCall : List Char :=
  "\x7b\"type\": 1, \"name\": \"weather\", \"parameters\": \x7b\"city\": \"Oslo\"\x7d\x7d".toList

/-- The members of the weather call. -/
def weatherFields : Json.Fields :=
  [("name", .string "weather"), ("parameters", .object [("city", .string "Oslo")]),
    ("type", .number (.integer 1))]

/-- An object with a name whose parameters are no object. -/
def namedCity : List Char :=
  "\x7b\"name\": \"Oslo\", \"parameters\": null\x7d".toList

/-- The members of the named city. -/
def cityFields : Json.Fields :=
  [("name", .string "Oslo"), ("parameters", .null)]

/-- The weather call is read as a call, and the named city as text. -/
theorem object_answer_is_call_iff_weatherCall :
    (∃ call, (Reply.decode "first" (' ' :: weatherCall ++ EndMarker.turn.text) none).toolCalls =
        [call] ∧ call.tool = .custom "weather" ∧ call.arguments = [("city", .string "Oslo")]) ∧
      (Reply.decode "first" namedCity none).content = .text (String.ofList namedCity) := by
  have callPeels : ReplyFrame.Peels (' ' :: weatherCall ++ EndMarker.turn.text)
      ⟨false, false, weatherCall, some .turn⟩ := ReplyFrame.ofText_eq_iff.1 (by decide)
  have callFields : Json.parseFields? (String.ofList (Text.trimBlank weatherCall)) =
      some weatherFields := by decide +kernel
  have textPeels : ReplyFrame.Peels namedCity ⟨false, false, namedCity, none⟩ :=
    ReplyFrame.ofText_eq_iff.1 (by decide)
  have textFields : Json.parseFields? (String.ofList (Text.trimBlank namedCity)) =
      some cityFields := by decide +kernel
  have names : FunctionObject.Names weatherFields "weather" [("city", .string "Oslo")] :=
    ⟨by decide, .inl (by decide)⟩
  have spoiled : ¬ ∃ name parameters, FunctionObject.Names cityFields name parameters := by
    rintro ⟨name, parameters, -, given⟩
    have isNull : cityFields.get? "parameters" = some .null := by decide
    simp [isNull] at given
  obtain ⟨-, called, -⟩ := object_answer_is_call_iff "first" none callPeels rfl (by decide)
    (by decide) callFields
  obtain ⟨-, -, kept⟩ := object_answer_is_call_iff "first" none textPeels rfl (by decide)
    (by decide) textFields
  obtain ⟨-, call, only, tool, -, arguments⟩ := called _ _ names
  exact ⟨⟨call, only, tool.trans (by decide), arguments (by decide)⟩, (kept spoiled).1⟩

/-- A name alone makes an object a call, without any parameters. -/
theorem name_alone_is_call :
    let text := "\x7b\"name\": \"Oslo\"\x7d".toList
    let fields : Json.Fields := [("name", .string "Oslo")]
    ReplyFrame.Peels text ⟨false, false, text, none⟩ ∧
      ¬ FunctionTag.opening <:+: text ∧ ¬ ".call(query=".toList <:+: text ∧
      Json.parseFields? (String.ofList (Text.trimBlank text)) = some fields ∧
      (∀ parameters, fields.get? "parameters" ≠ some (.object parameters)) ∧
      Reply.decode "first" text none =
        ⟨.text "", .outOfTokens, [⟨"first", .custom "Oslo", []⟩]⟩ := by
  intro text fields
  refine ⟨ReplyFrame.ofText_eq_iff.1 (by decide), by decide, by decide, by decide +kernel, ?_,
    by decide +kernel⟩
  intro parameters
  have missing : fields.get? "parameters" = none := by decide
  simp [missing]

end LlamaGateway
