import LlamaGateway.Prompt.Rendering
import LlamaGateway.Proofs.Json.NarrowNumbers
import LlamaGateway.Proofs.Json.Records
import Mathlib.Data.List.Forall2

/-!
# Documents of tools

What the text that describes a tool is read as: in every format an object with the name and the
description of the tool and with its parameters under their names, each once. Which other properties
of a parameter are told depends on the format.
-/

namespace LlamaGateway

open Json (Document)

/-- What a format tells of a parameter. -/
def ToolParameter.documentMembers (parameter : ToolParameter) :
    ToolPromptFormat → List (String × Document)
  | .json => [("description", .string (parameter.description.getD "")),
      ("type", .string parameter.kind)]
  | .functionTag =>
    (parameter.description.toList.map fun text => ("description", .string text)) ++
      [("param_type", .string parameter.kind), ("required", .boolean parameter.required)]
  | .pythonList =>
    (parameter.default.toList.map fun value => ("default", value.reread 5)) ++
      [("description", .string (parameter.description.getD "")), ("type", .string parameter.kind)]

namespace ToolDefinition

/-- The declared parameters of a tool under their names, as a format tells of them. -/
structure PropertyDocuments (format : ToolPromptFormat) (tool : ToolDefinition)
    (properties : List (String × Document)) : Prop where
  /-- No name occurs twice. -/
  distinct : (properties.map Prod.fst).Nodup
  /-- The names are those of the declared parameters. -/
  names : ∀ name, name ∈ properties.map Prod.fst ↔ name ∈ tool.parameters.map Prod.fst
  /-- What stands under a name tells of a parameter that is declared under it. -/
  describes : ∀ property ∈ properties, ∃ parameter, (property.1, parameter) ∈ tool.parameters ∧
    property.2 = .object (parameter.documentMembers format)
  /-- All required parameters are among them. -/
  required : ∀ name ∈ tool.requiredNames, name ∈ properties.map Prod.fst

/-- The names of the required parameters in the order of declaration. -/
def requiredDocument (tool : ToolDefinition) : Document :=
  .array (tool.requiredNames.map .string)

/-- The description of a tool in a format. -/
inductive DescribedBy (tool : ToolDefinition) : ToolPromptFormat → Document → Prop
  | json {properties : List (String × Document)}
    (parameters : tool.PropertyDocuments .json properties) :
    DescribedBy tool .json (.object [
      ("function", .object [
        ("description", .string tool.descriptionText),
        ("name", .string tool.name.toString),
        ("parameters", .object [
          ("properties", .object properties),
          ("required", tool.requiredDocument),
          ("type", .string "object")])]),
      ("type", .string "function")])
  | functionTag {properties : List (String × Document)}
    (parameters : tool.PropertyDocuments .functionTag properties) :
    DescribedBy tool .functionTag (.object [
      ("description", .string tool.descriptionText),
      ("name", .string tool.name.toString),
      ("parameters", .object properties)])
  | pythonList {properties : List (String × Document)}
    (parameters : tool.PropertyDocuments .pythonList properties) :
    DescribedBy tool .pythonList (.object [
      ("description", .string tool.descriptionText),
      ("name", .string tool.name.toString),
      ("parameters", .object [
        ("properties", .object properties),
        ("required", tool.requiredDocument),
        ("type", .string "dict")])])

end ToolDefinition

namespace ToolParameter

theorem reread_schema (parameter : ToolParameter) :
    parameter.schema.reread 4 = .object (parameter.documentMembers .json) :=
  rfl

theorem reread_declaration (parameter : ToolParameter) :
    parameter.declaration.reread 2 = .object (parameter.documentMembers .functionTag) := by
  obtain ⟨kind, _ | description, required, default⟩ := parameter <;> rfl

theorem reread_schemaWithDefault (parameter : ToolParameter) :
    parameter.schemaWithDefault.reread 4 = .object (parameter.documentMembers .pythonList) := by
  obtain ⟨kind, description, required, _ | default⟩ := parameter <;> rfl

theorem legible_schema (parameter : ToolParameter) : parameter.schema.Legible :=
  Json.legible_ofPairs (by simp [summary])

theorem legible_declaration (parameter : ToolParameter) : parameter.declaration.Legible := by
  obtain ⟨kind, _ | description, required, default⟩ := parameter <;>
    exact Json.legible_ofPairs (by simp [describingMembers, Json.optionalMember])

theorem legible_schemaWithDefault {parameter : ToolParameter}
    (legible : ∀ value, parameter.default = some value → value.Legible) :
    parameter.schemaWithDefault.Legible := by
  obtain ⟨kind, description, required, _ | default⟩ := parameter
  · exact Json.legible_ofPairs (by simp [summary, Json.optionalMember])
  · have ofDefault := legible default rfl
    exact Json.legible_ofPairs (by simp [summary, Json.optionalMember, ofDefault])

/-- The default of a parameter is as narrow as the document of the parameter. -/
theorem narrow_default {document : Document} {parameter : ToolParameter} (narrow : document.Narrow)
    (read : ofDocument? document = some parameter) {value : Json}
    (isDefault : parameter.default = some value) : ∀ number ∈ value.numbers, number.Narrow := by
  unfold ofDocument? at read
  split at read
  · next kind description required default parts =>
    obtain ⟨type, -, read⟩ := Option.bind_eq_some_iff.1 read
    obtain ⟨meaning, -, read⟩ := Option.bind_eq_some_iff.1 read
    obtain ⟨needed, -, read⟩ := Option.bind_eq_some_iff.1 read
    obtain ⟨held, readDefault, read⟩ := Option.bind_eq_some_iff.1 read
    cases read
    cases isDefault
    obtain ⟨part, inField, readPart⟩ := Document.exists_of_optional readDefault
    have isPart := Document.mem_parts_of_record? parts default (by simp) part inField
    exact (narrow.part isPart).numbers readPart
  · cases read

end ToolParameter

namespace ToolDefinition

theorem reread_requiredList (tool : ToolDefinition) {level : Nat}
    (fits : level < Document.maxDepth) :
    tool.requiredList.reread level = tool.requiredDocument := by
  rw [requiredList, Json.reread_array fits, List.map_map]
  rfl

/-- Members that each describe a declared parameter under its name make up the properties. -/
theorem propertyDocuments_ofList {tool : ToolDefinition} {format : ToolPromptFormat} {level : Nat}
    {pairs : List (String × Json)} (declared : pairs.map Prod.fst = tool.parameters.map Prod.fst)
    (described : ∀ pair ∈ pairs, ∃ parameter, (pair.1, parameter) ∈ tool.parameters ∧
      pair.2.reread level = .object (parameter.documentMembers format)) :
    tool.PropertyDocuments format
      ((Json.Fields.ofList pairs).map fun member => (member.1, member.2.reread level)) := by
  have keys : ((Json.Fields.ofList pairs).map fun member =>
      (member.1, member.2.reread level)).map Prod.fst = (Json.Fields.ofList pairs).keys := by
    rw [List.map_map]
    rfl
  have names (name : String) : name ∈ ((Json.Fields.ofList pairs).map fun member =>
      (member.1, member.2.reread level)).map Prod.fst ↔ name ∈ tool.parameters.map Prod.fst := by
    rw [keys, Json.Fields.mem_keys_ofList, declared]
  refine ⟨?_, names, ?_, ?_⟩
  · rw [keys]
    exact (Json.Fields.sorted_ofList pairs).nodup
  · intro property member
    obtain ⟨pair, inObject, rfl⟩ := List.mem_map.1 member
    exact described pair (Json.Fields.mem_of_mem_ofList inObject)
  · intro name member
    obtain ⟨entry, inFiltered, rfl⟩ := List.mem_map.1 member
    exact (names _).2 (List.mem_map_of_mem (List.mem_filter.1 inFiltered).1)

theorem reread_properties (tool : ToolDefinition) {describe : ToolParameter → Json}
    {format : ToolPromptFormat} {level : Nat} (fits : level < Document.maxDepth)
    (described : ∀ parameter, (describe parameter).reread (level + 1) =
      .object (parameter.documentMembers format)) :
    ∃ properties, (tool.properties describe).reread level = .object properties ∧
      tool.PropertyDocuments format properties := by
  refine ⟨_, Json.reread_ofPairs fits _, propertyDocuments_ofList ?_ ?_⟩
  · rw [List.map_map]
    rfl
  · intro pair member
    obtain ⟨entry, inTool, rfl⟩ := List.mem_map.1 member
    exact ⟨entry.2, inTool, described entry.2⟩

/-- The text of the JSON prompt describes the tool. -/
theorem describedBy_functionSchema (tool : ToolDefinition) :
    tool.DescribedBy .json (tool.functionSchema.reread 0) := by
  obtain ⟨properties, read, parameters⟩ :=
    tool.reread_properties (by decide) ToolParameter.reread_schema
  have form : tool.functionSchema.reread 0 = .object [
      ("function", .object [
        ("description", .string tool.descriptionText),
        ("name", .string tool.name.toString),
        ("parameters", .object [
          ("properties", (tool.properties ToolParameter.schema).reread 3),
          ("required", tool.requiredList.reread 3),
          ("type", .string "object")])]),
      ("type", .string "function")] := rfl
  rw [form, read, tool.reread_requiredList (by decide)]
  exact .json parameters

/-- The text of the function tag prompt describes the tool. -/
theorem describedBy_tagSchema (tool : ToolDefinition) :
    tool.DescribedBy .functionTag (tool.tagSchema.reread 0) := by
  obtain ⟨properties, read, parameters⟩ :=
    tool.reread_properties (by decide) ToolParameter.reread_declaration
  have form : tool.tagSchema.reread 0 = .object [
      ("description", .string tool.descriptionText),
      ("name", .string tool.name.toString),
      ("parameters", (tool.properties ToolParameter.declaration).reread 1)] := rfl
  rw [form, read]
  exact .functionTag parameters

/-- An item of the function list describes the tool. -/
theorem describedBy_listSchema (tool : ToolDefinition) :
    tool.DescribedBy .pythonList (tool.listSchema.reread 1) := by
  obtain ⟨properties, read, parameters⟩ :=
    tool.reread_properties (by decide) ToolParameter.reread_schemaWithDefault
  have form : tool.listSchema.reread 1 = .object [
      ("description", .string tool.descriptionText),
      ("name", .string tool.name.toString),
      ("parameters", .object [
        ("properties", (tool.properties ToolParameter.schemaWithDefault).reread 3),
        ("required", tool.requiredList.reread 3),
        ("type", .string "dict")])] := rfl
  rw [form, read, tool.reread_requiredList (by decide)]
  exact .pythonList parameters

/-- No default of a parameter holds a number with more bits than a double, which no number of a
text has. -/
def NarrowDefaults (tool : ToolDefinition) : Prop :=
  ∀ entry ∈ tool.parameters, ∀ value, entry.2.default = some value →
    ∀ number ∈ value.numbers, number.Narrow

/-- A definition that is read from a narrow document has such defaults. -/
theorem narrowDefaults_of_ofDocument? {document : Document} {tool : ToolDefinition}
    (narrow : document.Narrow) (read : ofDocument? document = some tool) : tool.NarrowDefaults := by
  unfold ofDocument? at read
  split at read
  · next name description parameters parts =>
    have fields := Document.mem_parts_of_record? parts
    obtain ⟨toolName, -, read⟩ := Option.bind_eq_some_iff.1 read
    obtain ⟨meaning, -, read⟩ := Option.bind_eq_some_iff.1 read
    obtain ⟨entries, readEntries, read⟩ := Option.bind_eq_some_iff.1 read
    cases read
    intro entry member value isDefault
    cases parameters with
    | none =>
      cases readEntries
      cases member
    | some written =>
      have writtenNarrow := narrow.part (fields (some written) (by simp) written rfl)
      obtain ⟨part, isPart, readPart⟩ := Document.exists_of_mem_entries? readEntries entry member
      exact ToolParameter.narrow_default (writtenNarrow.part isPart) readPart isDefault
  · cases read

/-- The definition is what a text was read as. -/
def IsRead (tool : ToolDefinition) : Prop :=
  ∃ text, (Document.ofText? text).bind ofDocument? = some tool

theorem IsRead.narrowDefaults {tool : ToolDefinition} (isRead : tool.IsRead) :
    tool.NarrowDefaults := by
  obtain ⟨text, isTool⟩ := isRead
  obtain ⟨document, parsed, read⟩ := Option.bind_eq_some_iff.1 isTool
  exact narrowDefaults_of_ofDocument? (Document.narrow_of_ofText? parsed) read

theorem legible_requiredList (tool : ToolDefinition) : tool.requiredList.Legible := by
  refine Json.legible_array fun item member => ?_
  obtain ⟨name, -, rfl⟩ := List.mem_map.1 member
  exact Json.legible_string name

theorem legible_properties (tool : ToolDefinition) {describe : ToolParameter → Json}
    (each : ∀ entry ∈ tool.parameters, (describe entry.2).Legible) :
    (tool.properties describe).Legible := by
  refine Json.legible_ofPairs fun pair member => ?_
  obtain ⟨entry, inTool, rfl⟩ := List.mem_map.1 member
  exact each entry inTool

/-- Name and description are texts, so a description is legible if that of the parameters is. -/
theorem legible_named (tool : ToolDefinition) {parameters : Json} (legible : parameters.Legible) :
    (Json.ofPairs [("name", .string tool.name.toString),
      ("description", .string tool.descriptionText), ("parameters", parameters)]).Legible :=
  Json.legible_ofPairs (by simp [legible])

theorem legible_functionSchema (tool : ToolDefinition) : tool.functionSchema.Legible := by
  have properties : (tool.properties ToolParameter.schema).Legible :=
    tool.legible_properties fun entry _ => entry.2.legible_schema
  have parameters : (Json.ofPairs [("type", .string "object"),
      ("properties", tool.properties ToolParameter.schema),
      ("required", tool.requiredList)]).Legible :=
    Json.legible_ofPairs (by simp [properties, tool.legible_requiredList])
  exact Json.legible_ofPairs (by simp [tool.legible_named parameters])

theorem legible_tagSchema (tool : ToolDefinition) : tool.tagSchema.Legible := by
  have properties : (tool.properties ToolParameter.declaration).Legible :=
    tool.legible_properties fun entry _ => entry.2.legible_declaration
  exact tool.legible_named properties

theorem legible_listSchema {tool : ToolDefinition} (narrow : tool.NarrowDefaults) :
    tool.listSchema.Legible := by
  have properties : (tool.properties ToolParameter.schemaWithDefault).Legible :=
    tool.legible_properties fun entry member =>
      ToolParameter.legible_schemaWithDefault fun value isDefault number inValue =>
        (narrow entry member value isDefault number inValue).legible
  have parameters : (Json.ofPairs [("type", .string "dict"), ("required", tool.requiredList),
      ("properties", tool.properties ToolParameter.schemaWithDefault)]).Legible :=
    Json.legible_ofPairs (by simp [properties, tool.legible_requiredList])
  exact tool.legible_named parameters

/-- The text is one JSON value that describes the tool. -/
def DescribedIn (tool : ToolDefinition) (format : ToolPromptFormat) (text : String) : Prop :=
  ∃ document, Document.ofText? text.toList = some document ∧ tool.DescribedBy format document

theorem describedIn_functionSchema (tool : ToolDefinition) :
    tool.DescribedIn .json tool.functionSchema.renderPretty := by
  refine ⟨_, ?_, tool.describedBy_functionSchema⟩
  rw [Json.renderPretty, String.toList_ofList]
  exact Document.ofText?_pretty tool.legible_functionSchema 0

theorem describedIn_tagSchema (tool : ToolDefinition) :
    tool.DescribedIn .functionTag tool.tagSchema.render := by
  refine ⟨_, ?_, tool.describedBy_tagSchema⟩
  rw [Json.render, String.toList_ofList]
  exact Document.ofText?_compact_of_legible tool.legible_tagSchema

end ToolDefinition

/-- The text is one JSON array that describes the tools in order. -/
def ToolPrompt.Lists (tools : List ToolDefinition) (text : String) : Prop :=
  ∃ documents, Document.ofText? text.toList = some (.array documents) ∧
    List.Forall₂ (fun tool document => ToolDefinition.DescribedBy tool .pythonList document)
      tools documents

theorem ToolPrompt.lists_listSchema {tools : List ToolDefinition}
    (narrow : ∀ tool ∈ tools, tool.NarrowDefaults) :
    Lists tools (Json.array (tools.map ToolDefinition.listSchema)).renderPretty := by
  have legible : (Json.array (tools.map ToolDefinition.listSchema)).Legible := by
    refine Json.legible_array fun item member => ?_
    obtain ⟨tool, inTools, rfl⟩ := List.mem_map.1 member
    exact ToolDefinition.legible_listSchema (narrow tool inTools)
  refine ⟨(tools.map ToolDefinition.listSchema).map (Json.reread 1), ?_, ?_⟩
  · rw [Json.renderPretty, String.toList_ofList, Document.ofText?_pretty legible,
      Json.reread_array (by decide)]
  · rw [List.map_map, List.forall₂_map_right_iff, List.forall₂_same]
    exact fun tool _ => tool.describedBy_listSchema

end LlamaGateway
