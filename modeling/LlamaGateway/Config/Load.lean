import LlamaGateway.Config.Duration
import LlamaGateway.Config.Placeholder
import LlamaGateway.Model.AliasTable
import LlamaGateway.Text.Basic
import LlamaGateway.Toml.Parser
import LlamaGateway.Toml.Tree
import LlamaGateway.Url.Parser

/-!
# Configuration

The settings of the gateway: how to reach the provider, and how to log. A text is expanded, read and
checked, and the first fault counts: of the file, of a placeholder, of the text or its settings, and
last of their values. Settings are read from tables key by key, in the order of the keys. A table
may also be written as an array of its settings in their own order. An unknown key is a fault.
-/

namespace LlamaGateway

/-- How to reach the provider. -/
structure ProviderConfig where
  /-- The API key, which is not blank if it comes from a text. -/
  apiKey : Option String
  /-- The address of the provider. -/
  baseUrl : Url
  /-- The longest time for a request. -/
  timeout : Duration
  /-- Remote images are fetched and inlined. -/
  downloadImages : Bool
  /-- More aliases, in order. -/
  models : List (String × ModelTarget)
deriving DecidableEq, Repr

namespace ProviderConfig

/-- The provider's own address. -/
def defaultBaseUrl : Url :=
  ⟨"https".toList, [], [], some "api.fireworks.ai".toList, none,
    .segments ["inference".toList, "v1".toList], none, none⟩

/-- The default time for a request. -/
def defaultTimeout : Duration := .ofSeconds 120

/-- The settings without any text. -/
def default : ProviderConfig :=
  ⟨none, defaultBaseUrl, defaultTimeout, false, []⟩

end ProviderConfig

/-- The form of log lines. -/
inductive LogFormat where
  | text
  | json
deriving DecidableEq, Repr, Inhabited

namespace LogFormat

def name : LogFormat → String
  | .text => "text"
  | .json => "json"

def ofName? (name : String) : Option LogFormat :=
  match name with
  | "text" => some .text
  | "json" => some .json
  | _ => none

end LogFormat

/-- How to log. -/
structure TelemetryConfig where
  /-- What is logged. -/
  logFilter : String
  /-- The form of log lines. -/
  format : LogFormat
deriving DecidableEq, Repr

/-- The settings without any text. -/
def TelemetryConfig.default : TelemetryConfig := ⟨"info", .text⟩

/-- All settings. -/
structure Config where
  /-- How to reach the provider. -/
  provider : ProviderConfig
  /-- How to log. -/
  telemetry : Option TelemetryConfig
deriving DecidableEq, Repr

/-- The settings without any text. -/
def Config.default : Config := ⟨.default, none⟩

/-- A fault of a setting. -/
inductive SettingFault where
  /-- A setting is missing, unknown or of the wrong kind. -/
  | malformed
  /-- A text does not name a duration. -/
  | invalidDuration (text : String)
deriving DecidableEq, Repr

namespace Setting

/-- A value, or the fault that there is none. -/
def orMalformed {α : Type} : Option α → Except SettingFault α
  | some value => .ok value
  | none => .error .malformed

/-- A text. -/
def text (toml : Toml) : Except SettingFault String :=
  orMalformed toml.string?

/-- A truth value. -/
def boolean (toml : Toml) : Except SettingFault Bool :=
  orMalformed toml.boolean?

/-- An address. -/
def url (toml : Toml) : Except SettingFault Url :=
  orMalformed (toml.string?.bind Url.parse?)

/-- A text that may be blank, which stands for none. -/
def secret (toml : Toml) : Except SettingFault (Option String) :=
  (text toml).map fun value => if Text.isAllBlank value then none else some value

/-- A duration. -/
def duration (toml : Toml) : Except SettingFault Duration := do
  let written ← text toml
  match Duration.parse? written with
  | some value => return value
  | none => throw (.invalidDuration written)

/-- A table or array with nothing in it. -/
def isEmpty : Toml → Bool
  | .table [] | .array [] => true
  | _ => false

/-- A choice among names: the name, or a table with the name as its only key and nothing in it. -/
def choice {α : Type} (named : String → Option α) : Toml → Except SettingFault α
  | .string name => orMalformed (named name)
  | .table [(name, payload)] =>
    if isEmpty payload then orMalformed (named name) else .error .malformed
  | _ => .error .malformed

/-- A setting of a record: its key, and the record after its value. -/
abbrev Field (α : Type) := String × (Toml → α → Except SettingFault α)

/-- A record after entries in their order. -/
def ofEntries {α : Type} (fields : List (Field α)) :
    α → List (String × Toml) → Except SettingFault α
  | record, [] => .ok record
  | record, (key, value) :: rest =>
    match fields.lookup key with
    | some set => do
      let record ← set value record
      ofEntries fields record rest
    | none => .error .malformed

/-- A record after values in the order of its fields; more values are ignored. -/
def ofItems {α : Type} : List (Field α) → α → List Toml → Except SettingFault α
  | (_, set) :: fields, record, value :: rest => do
    let record ← set value record
    ofItems fields record rest
  | _, record, _ => .ok record

/-- A record that is written as a table or an array. -/
def record {α : Type} (fields : List (Field α)) (default : α) : Toml → Except SettingFault α
  | .table entries => ofEntries fields default (Toml.sorted entries)
  | .array items => ofItems fields default items
  | _ => .error .malformed

end Setting

/-- A model whose settings are being read. -/
structure PartialModel where
  /-- The identifier that is sent to the provider. -/
  resource : Option String
  /-- The prompt template. -/
  family : Option ModelFamily

namespace PartialModel

/-- The settings of a model. -/
def fields : List (Setting.Field PartialModel) :=
  [("provider_resource_id", fun value model =>
      (Setting.text value).map fun resource => { model with resource := some resource }),
    ("family", fun value model =>
      (Setting.choice ModelFamily.ofName? value).map fun family =>
        { model with family := some family })]

/-- The model, if no setting is missing. -/
def finish (model : PartialModel) : Except SettingFault ModelTarget :=
  match model.resource, model.family with
  | some resource, some family => .ok ⟨resource, family⟩
  | _, _ => .error .malformed

/-- The model of a table. -/
def read (toml : Toml) : Except SettingFault ModelTarget :=
  (Setting.record fields ⟨none, none⟩ toml).bind finish

/-- The models of entries, in order. -/
def readEntries : List (String × Toml) → Except SettingFault (List (String × ModelTarget))
  | [] => .ok []
  | (name, toml) :: rest => do
    let model ← read toml
    let models ← readEntries rest
    return (name, model) :: models

/-- The models of a table of tables, sorted by alias. -/
def readAll : Toml → Except SettingFault (List (String × ModelTarget))
  | .table entries => readEntries (Toml.sorted entries)
  | _ => .error .malformed

end PartialModel

/-- The settings of the provider. -/
def ProviderConfig.fields : List (Setting.Field ProviderConfig) :=
  [("api_key", fun value config =>
      (Setting.secret value).map fun key => { config with apiKey := key }),
    ("base_url", fun value config =>
      (Setting.url value).map fun url => { config with baseUrl := url }),
    ("timeout", fun value config =>
      (Setting.duration value).map fun timeout => { config with timeout := timeout }),
    ("download_images", fun value config =>
      (Setting.boolean value).map fun download => { config with downloadImages := download }),
    ("models", fun value config =>
      (PartialModel.readAll value).map fun models => { config with models := models })]

/-- The settings of the log. -/
def TelemetryConfig.fields : List (Setting.Field TelemetryConfig) :=
  [("log_filter", fun value config =>
      (Setting.text value).map fun filter => { config with logFilter := filter }),
    ("format", fun value config =>
      (Setting.choice LogFormat.ofName? value).map fun format => { config with format := format })]

/-- All sections. -/
def Config.fields : List (Setting.Field Config) :=
  [("fireworks", fun value config =>
      (Setting.record ProviderConfig.fields .default value).map fun provider =>
        { config with provider := provider }),
    ("telemetry", fun value config =>
      (Setting.record TelemetryConfig.fields .default value).map fun telemetry =>
        { config with telemetry := some telemetry })]

/-- The settings of a whole document. -/
def Config.ofEntries (entries : List (String × Toml)) : Except SettingFault Config :=
  Setting.record Config.fields .default (.table entries)

/-- Why a configuration cannot be used. -/
inductive ConfigError where
  /-- The file cannot be read. -/
  | unreadable (path : String)
  /-- A placeholder cannot be replaced. -/
  | expansion (fault : PlaceholderError)
  /-- The text is malformed or a setting is. -/
  | parsing (fault : SettingFault)
  /-- The provider is not on the web. -/
  | unsupportedScheme (url : Url)
  /-- There is no time for a request. -/
  | zeroTimeout
  /-- A model has a blank alias. -/
  | blankAlias
  /-- A model has a blank resource identifier. -/
  | blankResource (name : String)
deriving DecidableEq, Repr

namespace ConfigError

/-- The text of an error. -/
def message : ConfigError → String
  | .unreadable path => "failed to read config file " ++ path
  | .expansion _ => "config variable expansion failed"
  | .parsing _ => "failed to parse config"
  | .unsupportedScheme url =>
    "fireworks base_url must use http or https, got '" ++ url.toText ++ "'"
  | .zeroTimeout => "fireworks timeout must be greater than zero"
  | .blankAlias => "fireworks model aliases must not be empty"
  | .blankResource name => "fireworks model '" ++ name ++ "' has an empty provider_resource_id"

/-- What an error goes back to, if that is known. -/
def cause? : ConfigError → Option String
  | .expansion fault => some fault.message
  | .parsing (.invalidDuration text) =>
    some ("invalid duration " ++ PlaceholderError.backquoted text)
  | _ => none

end ConfigError

namespace Config

/-- Alias and resource identifier of a model are not blank. -/
def checkModel (model : String × ModelTarget) : Except ConfigError Unit :=
  if Text.isAllBlank model.1 then .error .blankAlias
  else if Text.isAllBlank model.2.resource then .error (.blankResource model.1)
  else .ok ()

/-- The first fault of a list of models. -/
def checkModels : List (String × ModelTarget) → Except ConfigError Unit
  | [] => .ok ()
  | model :: rest => (checkModel model).bind fun _ => checkModels rest

/-- The first fault of settings. -/
def validate (config : Config) : Except ConfigError Unit :=
  if ¬ config.provider.baseUrl.isHttp then
    .error (.unsupportedScheme config.provider.baseUrl)
  else if config.provider.timeout.nanoseconds = 0 then .error .zeroTimeout
  else checkModels config.provider.models

/-- The settings of a text without placeholders. -/
def ofToml (text : String) : Except ConfigError Config :=
  match Toml.parse? text with
  | none => .error (.parsing .malformed)
  | some entries =>
    match ofEntries entries with
    | .ok config => .ok config
    | .error fault => .error (.parsing fault)

/-- The text with its placeholders replaced. -/
def expand (environment : Environment) (text : String) : Except ConfigError String :=
  match Placeholder.expand environment text.toList with
  | .ok expanded => .ok (String.ofList expanded)
  | .error fault => .error (.expansion fault)

/-- The settings of a text. -/
def parse (environment : Environment) (text : String) : Except ConfigError Config := do
  let expanded ← expand environment text
  let config ← ofToml expanded
  validate config
  return config

/-- The settings of a file, given its contents if it can be read. -/
def load (environment : Environment) (path : String) (contents : Option String) :
    Except ConfigError Config :=
  match contents with
  | some text => parse environment text
  | none => .error (.unreadable path)

end Config

end LlamaGateway
