import LlamaGateway.Error
import LlamaGateway.Json.Reader
import LlamaGateway.Json.Printer
import LlamaGateway.Network.Session
import LlamaGateway.Text.Basic
import LlamaGateway.Text.Visible

/-!
# Request contexts

The context of a call: the request it came with and the data that its caller gave for the provider,
a JSON object in a header. The API key of a call is the configured one, or else the caller's own
from these data, where a blank key counts as none.

Work runs inside nested contexts, of which the innermost one counts. A finished context leaves
nothing behind.
-/

namespace LlamaGateway

/-- A fault of a request context. -/
inductive ContextError where
  /-- The provider data are no JSON object, or not of the expected form. -/
  | invalidProviderData (cause : String)
deriving DecidableEq, Repr

namespace ContextError

/-- The text of a fault. -/
def message : ContextError → String
  | .invalidProviderData cause => "invalid x-provider-data header: " ++ cause

/-- A fault of the context is a fault of the request. -/
def toInferenceError (error : ContextError) : InferenceError :=
  .invalidRequest error.message

end ContextError

/-- The context of a call. -/
structure CallContext where
  /-- The method of the request. -/
  method : String
  /-- The target of the request. -/
  target : String
  /-- What the caller gave for the provider. -/
  providerData : Option Json.Fields
deriving DecidableEq, Repr

namespace CallContext

/-- The context of a call that came with no request. -/
def empty : CallContext := ⟨"POST", "/", none⟩

/-- The name of the header with the provider data. -/
def providerDataHeader : String := "x-provider-data"

/-- The provider data in a header value. -/
def parseProviderData (value : List UInt8) : Except ContextError Json.Fields :=
  match Header.text? value with
  | none => .error (.invalidProviderData "the value is not text")
  | some text =>
    match Json.parse? (String.ofList text) with
    | some (.object fields) => .ok fields
    | some other => .error (.invalidProviderData ("expected a JSON object, got " ++ other.render))
    | none => .error (.invalidProviderData "the value is not JSON")

/-- The context of a request. Of several headers with provider data the first one counts. -/
def ofRequest (method target : String) (headers : List Header) :
    Except ContextError CallContext :=
  match Header.first? providerDataHeader headers with
  | some value => (parseProviderData value).map fun fields => ⟨method, target, some fields⟩
  | none => .ok ⟨method, target, none⟩

/-- The context with other provider data. -/
def withData (context : CallContext) (fields : Json.Fields) : CallContext :=
  { context with providerData := some fields }

/-- The keys of the provider data as diagnostics show them; the values may be secret. -/
def keysText (context : CallContext) : String :=
  match context.providerData with
  | some fields =>
    "Some([" ++ ", ".intercalate (fields.keys.map Text.diagnosticQuote) ++ "])"
  | none => "None"

/-- The context as diagnostics show it. -/
def diagnosticText (context : CallContext) : String :=
  "RequestContext \x7b method: " ++ context.method ++ ", uri: " ++ context.target ++
    ", provider_data_keys: " ++ context.keysText ++ ", .. \x7d"

end CallContext

/-- What a caller gives for the provider. -/
structure CallerData where
  /-- The API key. -/
  apiKey : Option String
deriving DecidableEq, Repr

namespace CallerData

/-- The name of the member with the API key. -/
def apiKeyMember : String := "fireworks_api_key"

/-- The caller data in provider data; the API key is a string, `null` or absent. -/
def ofFields (fields : Json.Fields) : Except ContextError CallerData :=
  match fields.get? apiKeyMember with
  | none | some .null => .ok ⟨none⟩
  | some (.string key) => .ok ⟨some key⟩
  | some _ => .error (.invalidProviderData "the API key is not a string")

end CallerData

/-- The caller data of a context, none without provider data. -/
def CallContext.callerData (context : CallContext) :
    Except ContextError (Option CallerData) :=
  match context.providerData with
  | some fields => (CallerData.ofFields fields).map some
  | none => .ok none

namespace Credential

/-- The error for a call without an API key. -/
def missing : InferenceError :=
  .missingCredential
    ("Pass Fireworks API Key in the header X-Provider-Data as \x7b " ++
      "\"fireworks_api_key\": <your api key> \x7d")

/-- The caller data of the innermost context, none without a context. -/
def ambientData (ambient : Option CallContext) : Except ContextError (Option CallerData) :=
  match ambient with
  | some context => context.callerData
  | none => .ok none

/-- The caller's key, if it is not blank. -/
def callerKey? (data : Option CallerData) : Option String :=
  (data.bind CallerData.apiKey).filter fun key => !Text.isAllBlank key

/-- The API key of a call inside a context. -/
def resolve (configured : Option String) (ambient : Option CallContext) :
    Except InferenceError String :=
  match configured with
  | some key => .ok key
  | none =>
    match ambientData ambient with
    | .error fault => .error fault.toInferenceError
    | .ok data =>
      match callerKey? data with
      | some key => .ok key
      | none => .error missing

end Credential

/-- A step of work inside contexts. -/
inductive ScopeStep where
  /-- Ask for the API key, given the configured one. -/
  | resolveKey (configured : Option String)
  /-- Run steps inside a context. -/
  | inside (context : CallContext) (steps : List ScopeStep)

/-- What a question for the API key sees. -/
structure ScopeReading where
  /-- The provider data of the innermost context. -/
  providerData : Option Json.Fields
  /-- The answer. -/
  apiKey : Except InferenceError String

namespace ScopeStep

mutual

/-- What a step reads, given the innermost context. -/
def readings (ambient : Option CallContext) : ScopeStep → List ScopeReading
  | .resolveKey configured =>
    [⟨ambient.bind CallContext.providerData, Credential.resolve configured ambient⟩]
  | .inside context steps => allReadings (some context) steps

/-- What steps read one after the other. -/
def allReadings (ambient : Option CallContext) : List ScopeStep → List ScopeReading
  | [] => []
  | step :: rest => readings ambient step ++ allReadings ambient rest

end

end ScopeStep

end LlamaGateway
