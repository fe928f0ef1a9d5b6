import LlamaGateway.Error
import LlamaGateway.Json.Reader

/-!
# Models by alias

Callers name models by alias. The table keeps aliases in the order of their first insertion, one
entry an alias; an identifier that is no alias is looked up among the provider's resource
identifiers, where the first entry counts. The family of a model fixes its prompt template: the
marker a prompt starts with and where tools are described.
-/

namespace LlamaGateway

/-- Where a prompt describes the tools. -/
inductive ToolPromptStyle where
  /-- Builtin tools and a date header in the system prompt, custom tools in a leading user
  message. -/
  | dateHeader
  /-- Builtin tools and a list of custom tools in the system prompt. -/
  | functionList
  /-- Nowhere: messages are rendered as they are. -/
  | plain
deriving DecidableEq, Repr

/-- A family of models that share a prompt template. -/
inductive ModelFamily where
  /-- Instruction models of generation 3.1. -/
  | llama31
  /-- Text models of generation 3.2. -/
  | llama32
  /-- Vision models of generation 3.2. -/
  | llama32Vision
  /-- Instruction models of generation 3.3. -/
  | llama33
  /-- Safety classifiers for text. -/
  | guard3
  /-- Safety classifiers for text and images. -/
  | guard3Vision
deriving DecidableEq, Repr, Inhabited

namespace ModelFamily

def name : ModelFamily → String
  | .llama31 => "llama3_1"
  | .llama32 => "llama3_2"
  | .llama32Vision => "llama3_2_vision"
  | .llama33 => "llama3_3"
  | .guard3 => "llama_guard3"
  | .guard3Vision => "llama_guard3_vision"

def ofName? (name : String) : Option ModelFamily :=
  match name with
  | "llama3_1" => some .llama31
  | "llama3_2" => some .llama32
  | "llama3_2_vision" => some .llama32Vision
  | "llama3_3" => some .llama33
  | "llama_guard3" => some .guard3
  | "llama_guard3_vision" => some .guard3Vision
  | _ => none

/-- The marker that a rendered prompt starts with; all families share it. -/
def beginMarker (_ : ModelFamily) : String :=
  "<|begin_of_text|>"

/-- Where the family's prompts describe the tools. Vision models of 3.2 follow 3.1. -/
def toolPromptStyle : ModelFamily → ToolPromptStyle
  | .llama31 | .llama32Vision => .dateHeader
  | .llama32 | .llama33 => .functionList
  | .guard3 | .guard3Vision => .plain

/-- Only guard models take no tools. -/
theorem toolPromptStyle_eq_plain_iff {family : ModelFamily} :
    family.toolPromptStyle = .plain ↔ family = .guard3 ∨ family = .guard3Vision := by
  cases family <;> decide

theorem toolPromptStyle_eq_dateHeader_iff {family : ModelFamily} :
    family.toolPromptStyle = .dateHeader ↔ family = .llama31 ∨ family = .llama32Vision := by
  cases family <;> decide

theorem toolPromptStyle_eq_functionList_iff {family : ModelFamily} :
    family.toolPromptStyle = .functionList ↔ family = .llama32 ∨ family = .llama33 := by
  cases family <;> decide

def toJson (family : ModelFamily) : Json :=
  .string family.name

def ofDocument? : Json.Document → Option ModelFamily :=
  Json.Document.choice? Json.Document.isNull ofName?

end ModelFamily

/-- The target of a model identifier. -/
structure ModelTarget where
  /-- The identifier that is sent to the provider. -/
  resource : String
  /-- The prompt template. -/
  family : ModelFamily
deriving DecidableEq, Repr, Inhabited

/-- Aliases with their targets, in the order of first insertion. -/
structure AliasTable where
  /-- The entries of the table. -/
  entries : List (String × ModelTarget)
  /-- No alias stands twice. -/
  distinct : (entries.map Prod.fst).Nodup
deriving DecidableEq, Repr

namespace AliasTable

/-- The table without any alias. -/
def empty : AliasTable := ⟨[], List.nodup_nil⟩

instance : Inhabited AliasTable := ⟨empty⟩

/-- The entries with one more; a known alias keeps its place and takes the new target. -/
def putEntry (name : String) (model : ModelTarget) :
    List (String × ModelTarget) → List (String × ModelTarget)
  | [] => [(name, model)]
  | (first, held) :: rest =>
    if first = name then (name, model) :: rest else (first, held) :: putEntry name model rest

theorem mem_aliases_putEntry {name other : String} {model : ModelTarget}
    {entries : List (String × ModelTarget)}
    (member : other ∈ (putEntry name model entries).map Prod.fst) :
    other = name ∨ other ∈ entries.map Prod.fst := by
  induction entries with
  | nil => exact .inl (List.mem_singleton.1 member)
  | cons entry entries induction =>
    obtain ⟨first, held⟩ := entry
    rw [putEntry] at member
    split at member
    · rcases List.mem_cons.1 member with same | later
      · exact .inl same
      · exact .inr (List.mem_cons_of_mem _ later)
    · rcases List.mem_cons.1 member with same | later
      · exact .inr (List.mem_cons.2 (.inl same))
      · exact (induction later).imp id (List.mem_cons_of_mem _)

/-- Putting an entry repeats no alias. -/
theorem nodup_putEntry (name : String) (model : ModelTarget)
    {entries : List (String × ModelTarget)} (distinct : (entries.map Prod.fst).Nodup) :
    ((putEntry name model entries).map Prod.fst).Nodup := by
  induction entries with
  | nil => exact List.nodup_cons.2 ⟨nofun, List.nodup_nil⟩
  | cons entry entries induction =>
    obtain ⟨first, held⟩ := entry
    obtain ⟨new, later⟩ := List.nodup_cons.1 distinct
    rw [putEntry]
    split
    · next same => exact List.nodup_cons.2 ⟨same ▸ new, later⟩
    · next other =>
      refine List.nodup_cons.2 ⟨fun member => ?_, induction later⟩
      exact (mem_aliases_putEntry member).elim other new

/-- The table with one more alias. -/
def insert (table : AliasTable) (name : String) (model : ModelTarget) : AliasTable :=
  ⟨putEntry name model table.entries, nodup_putEntry name model table.distinct⟩

/-- The table with a list of aliases added in order. -/
def insertAll (table : AliasTable) (aliases : List (String × ModelTarget)) : AliasTable :=
  aliases.foldl (fun table (name, model) => table.insert name model) table

/-- The number of aliases. -/
def size (table : AliasTable) : Nat :=
  table.entries.length

/-- The target of an alias, or else the first target with that resource identifier. -/
def find? (table : AliasTable) (identifier : String) : Option ModelTarget :=
  match table.entries.lookup identifier with
  | some model => some model
  | none => (table.entries.map Prod.snd).find? fun model => model.resource = identifier

/-- The target of an identifier, or the error that names it. -/
def target (table : AliasTable) (identifier : String) :
    Except InferenceError ModelTarget :=
  match table.find? identifier with
  | some model => .ok model
  | none => .error (.unknownModel identifier)

/-- The start of the resource identifiers of models that the provider hosts itself. -/
def hostedPrefix : String := "accounts/fireworks/models/"

/-- A hosted model: the end of its resource identifier, its family and its two aliases. -/
structure HostedModel where
  /-- The end of the resource identifier. -/
  resource : String
  /-- The prompt template. -/
  family : ModelFamily
  /-- The short alias. -/
  shortAlias : String
  /-- The alias with the publisher in front. -/
  longAlias : String

/-- The hosted models. -/
def hostedModels : List HostedModel :=
  [⟨"llama-v3p1-8b-instruct", .llama31, "Llama3.1-8B-Instruct", "meta-llama/Llama-3.1-8B-Instruct"⟩,
    ⟨"llama-v3p1-70b-instruct", .llama31, "Llama3.1-70B-Instruct",
      "meta-llama/Llama-3.1-70B-Instruct"⟩,
    ⟨"llama-v3p1-405b-instruct", .llama31, "Llama3.1-405B-Instruct",
      "meta-llama/Llama-3.1-405B-Instruct-FP8"⟩,
    ⟨"llama-v3p2-1b-instruct", .llama32, "Llama3.2-1B-Instruct",
      "meta-llama/Llama-3.2-1B-Instruct"⟩,
    ⟨"llama-v3p2-3b-instruct", .llama32, "Llama3.2-3B-Instruct",
      "meta-llama/Llama-3.2-3B-Instruct"⟩,
    ⟨"llama-v3p2-11b-vision-instruct", .llama32Vision, "Llama3.2-11B-Vision-Instruct",
      "meta-llama/Llama-3.2-11B-Vision-Instruct"⟩,
    ⟨"llama-v3p2-90b-vision-instruct", .llama32Vision, "Llama3.2-90B-Vision-Instruct",
      "meta-llama/Llama-3.2-90B-Vision-Instruct"⟩,
    ⟨"llama-guard-3-8b", .guard3, "Llama-Guard-3-8B", "meta-llama/Llama-Guard-3-8B"⟩,
    ⟨"llama-guard-3-11b-vision", .guard3Vision, "Llama-Guard-3-11B-Vision",
      "meta-llama/Llama-Guard-3-11B-Vision"⟩]

/-- Both aliases of a hosted model with their common target. -/
def HostedModel.aliases (model : HostedModel) : List (String × ModelTarget) :=
  let target : ModelTarget := ⟨hostedPrefix ++ model.resource, model.family⟩
  [(model.shortAlias, target), (model.longAlias, target)]

/-- The table of the hosted models. -/
def hosted : AliasTable :=
  insertAll empty (hostedModels.flatMap HostedModel.aliases)

/-- The hosted models and the aliases of a configuration, which replace those of the same name. -/
def hostedWith (models : List (String × ModelTarget)) : AliasTable :=
  hosted.insertAll models

end AliasTable

end LlamaGateway
