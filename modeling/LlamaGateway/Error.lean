/-!
# Errors of an inference call

Every way in which a call can fail, the text it is reported with, and whether the caller can mend
it by changing the request.
-/

namespace LlamaGateway

/-- A failed inference call. -/
inductive InferenceError where
  /-- Neither configuration nor caller gave an API key. -/
  | missingCredential (text : String)
  /-- The model identifier is not in the alias table. -/
  | unknownModel (model : String)
  /-- The request carries media that its call cannot express. -/
  | unsupportedMedia (text : String)
  /-- The response format has an unknown tag. -/
  | unsupportedResponseFormat (format : String)
  /-- The operation is not offered. -/
  | notSupported (operation : String)
  /-- The request cannot be rendered for the model. -/
  | invalidRequest (text : String)
  /-- The provider refused the call or could not be reached. -/
  | upstream (text : String)
  /-- A stream failed after it had started. -/
  | streaming (text : String)
  /-- A state that no request leads to. -/
  | internal (text : String)
deriving DecidableEq, Repr, Inhabited

namespace InferenceError

/-- The text of an error. -/
def message : InferenceError → String
  | .missingCredential text => text
  | .unknownModel model => "unknown model: " ++ model
  | .unsupportedMedia text => "unsupported media: " ++ text
  | .unsupportedResponseFormat format => "unsupported response format: " ++ format
  | .notSupported operation => operation ++ " is not supported by the fireworks adapter"
  | .invalidRequest text => "invalid request: " ++ text
  | .upstream text => "upstream error: " ++ text
  | .streaming text => "streaming error: " ++ text
  | .internal text => "internal error: " ++ text

/-- The caller can mend the error by changing the request. -/
def isCallerError : InferenceError → Bool
  | .missingCredential _ | .unknownModel _ | .unsupportedMedia _ | .unsupportedResponseFormat _
  | .notSupported _ | .invalidRequest _ => true
  | .upstream _ | .streaming _ | .internal _ => false

/-- The failures that are the fault of the caller. -/
inductive IsCallerFault : InferenceError → Prop
  | missingCredential (text : String) : IsCallerFault (.missingCredential text)
  | unknownModel (model : String) : IsCallerFault (.unknownModel model)
  | unsupportedMedia (text : String) : IsCallerFault (.unsupportedMedia text)
  | unsupportedResponseFormat (format : String) : IsCallerFault (.unsupportedResponseFormat format)
  | notSupported (operation : String) : IsCallerFault (.notSupported operation)
  | invalidRequest (text : String) : IsCallerFault (.invalidRequest text)

theorem isCallerError_iff {failure : InferenceError} :
    failure.isCallerError = true ↔ failure.IsCallerFault := by
  constructor
  · intro byCaller
    cases failure <;> first | constructor | cases byCaller
  · intro fault
    cases fault <;> rfl

/-- The error is the fault of the provider or of the way to it. -/
inductive IsProviderFault : InferenceError → Prop
  | upstream (text : String) : IsProviderFault (.upstream text)
  | streaming (text : String) : IsProviderFault (.streaming text)

end InferenceError

end LlamaGateway
