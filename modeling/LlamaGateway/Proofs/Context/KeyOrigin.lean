import LlamaGateway.Config.Load
import LlamaGateway.Context.Scope
import Mathlib.Data.List.Infix

/-!
# Origin of API keys

A place of nested contexts is a question for the API key together with all that runs around it. The
answer there is the configured key, or else one that the provider data of the innermost open context
give; contexts further out, beside it or finished before it have no part in it.
-/

namespace LlamaGateway

namespace Setting

variable {α β ε : Type}

theorem bind_eq_ok {first : Except ε α} {next : α → Except ε β} {result : β}
    (succeeds : first >>= next = .ok result) :
    ∃ value, first = .ok value ∧ next value = .ok result := by
  cases first with
  | error fault => cases succeeds
  | ok value => exact ⟨value, rfl, succeeds⟩

theorem map_eq_ok {first : Except ε α} {change : α → β} {result : β}
    (succeeds : first.map change = .ok result) :
    ∃ value, first = .ok value ∧ result = change value := by
  cases first with
  | error fault => cases succeeds
  | ok value =>
    cases succeeds
    exact ⟨value, rfl, rfl⟩

variable {holds : α → Prop} {fields : List (Field α)} {before after : α}

/-- No setting of a record breaks what holds of the record. -/
def Keep (holds : α → Prop) (fields : List (Field α)) : Prop :=
  ∀ field ∈ fields, ∀ value before after,
    holds before → field.2 value before = .ok after → holds after

theorem mem_of_lookup {key : String} {set : Toml → α → Except SettingFault α}
    (found : fields.lookup key = some set) : (key, set) ∈ fields := by
  obtain ⟨front, back, rfl, -⟩ := List.lookup_eq_some_iff.1 found
  exact List.mem_append_right _ List.mem_cons_self

theorem Keep.ofEntries (keep : Keep holds fields) {entries : List (String × Toml)}
    (start : holds before) (read : Setting.ofEntries fields before entries = .ok after) :
    holds after := by
  induction entries generalizing before with
  | nil =>
    cases read
    exact start
  | cons entry entries induction =>
    obtain ⟨key, value⟩ := entry
    rw [Setting.ofEntries] at read
    cases found : fields.lookup key with
    | none =>
      rw [found] at read
      cases read
    | some set =>
      rw [found] at read
      obtain ⟨between, changed, rest⟩ := bind_eq_ok read
      exact induction (keep _ (mem_of_lookup found) value before between start changed) rest

theorem Keep.ofItems (keep : Keep holds fields) {items : List Toml} (start : holds before)
    (read : Setting.ofItems fields before items = .ok after) : holds after := by
  induction fields generalizing before items with
  | nil =>
    cases read
    exact start
  | cons field fields induction =>
    obtain ⟨first, later⟩ := List.forall_mem_cons.1 keep
    cases items with
    | nil =>
      cases read
      exact start
    | cons value items =>
      rw [Setting.ofItems] at read
      obtain ⟨between, changed, rest⟩ := bind_eq_ok read
      exact induction later (first value before between start changed) rest

/-- What the settings keep holds of a record that is read, if it holds of the default. -/
theorem Keep.record (keep : Keep holds fields) {default : α} {toml : Toml}
    (start : holds default) (read : Setting.record fields default toml = .ok after) :
    holds after := by
  cases toml with
  | table entries => exact keep.ofEntries start read
  | array items => exact keep.ofItems start read
  | _ => cases read

theorem not_blank_of_secret {toml : Toml} {key : String} (read : secret toml = .ok (some key)) :
    Text.isAllBlank key = false := by
  obtain ⟨value, -, kept⟩ := map_eq_ok read
  by_cases blank : Text.isAllBlank value
  · rw [if_pos blank] at kept
    cases kept
  · rw [if_neg blank] at kept
    cases kept
    exact Bool.eq_false_iff.2 blank

end Setting

/-- The API key of the settings, if there is one, is not blank. -/
def ProviderConfig.KeyWritten (config : ProviderConfig) : Prop :=
  ∀ key, config.apiKey = some key → Text.isAllBlank key = false

theorem ProviderConfig.keyWritten_default : default.KeyWritten := by
  intro key given
  cases given

theorem ProviderConfig.keep_keyWritten : Setting.Keep KeyWritten fields := by
  intro field member value before after written changed
  simp only [fields, List.mem_cons, List.not_mem_nil, or_false] at member
  rcases member with rfl | rfl | rfl | rfl | rfl
  · obtain ⟨key?, read, rfl⟩ := Setting.map_eq_ok changed
    rintro key rfl
    exact Setting.not_blank_of_secret read
  -- The other settings leave the key as it is.
  all_goals
    obtain ⟨-, -, rfl⟩ := Setting.map_eq_ok changed
    exact written

theorem Config.keep_keyWritten :
    Setting.Keep (fun config => config.provider.KeyWritten) fields := by
  intro field member value before after written changed
  simp only [fields, List.mem_cons, List.not_mem_nil, or_false] at member
  rcases member with rfl | rfl
  · obtain ⟨provider, read, rfl⟩ := Setting.map_eq_ok changed
    exact ProviderConfig.keep_keyWritten.record ProviderConfig.keyWritten_default read
  · obtain ⟨-, -, rfl⟩ := Setting.map_eq_ok changed
    exact written

theorem Config.keyWritten_of_ofToml {text : String} {config : Config}
    (read : ofToml text = .ok config) : config.provider.KeyWritten := by
  rw [ofToml] at read
  split at read
  · cases read
  · split at read
    · next known =>
      cases read
      exact keep_keyWritten.record ProviderConfig.keyWritten_default known
    · cases read

/-- The key of a configuration that is accepted is not blank. -/
theorem Config.keyWritten_of_parse {environment : Environment} {text : String} {config : Config}
    (accepted : parse environment text = .ok config) : config.provider.KeyWritten := by
  obtain ⟨expanded, -, rest⟩ := Setting.bind_eq_ok accepted
  obtain ⟨settings, read, checked⟩ := Setting.bind_eq_ok rest
  obtain ⟨-, -, same⟩ := Setting.bind_eq_ok checked
  cases same
  exact keyWritten_of_ofToml read

namespace Credential

/-- The answer for a configured key and the provider data of the innermost context. -/
inductive Answers : Option String → Option Json.Fields → Except InferenceError String → Prop
  /-- A configured key is taken as it is. -/
  | configured (key : String) (data : Option Json.Fields) : Answers (some key) data (.ok key)
  /-- A caller's key that is not blank is taken as it is. -/
  | caller {fields : Json.Fields} {key : String}
    (given : fields.get? CallerData.apiKeyMember = some (.string key))
    (written : Text.isAllBlank key = false) : Answers none (some fields) (.ok key)
  /-- A member that can be no key is a fault of the request. -/
  | malformed {fields : Json.Fields} {value : Json}
    (given : fields.get? CallerData.apiKeyMember = some value) (noText : value.string? = none)
    (notNull : value ≠ .null) (cause : String) :
    Answers none (some fields)
      (.error (.invalidRequest ("invalid x-provider-data header: " ++ cause)))
  /-- There are no provider data. -/
  | nothing : Answers none none (.error missing)
  /-- The provider data have no member for the key. -/
  | absent {fields : Json.Fields} (given : fields.get? CallerData.apiKeyMember = none) :
    Answers none (some fields) (.error missing)
  /-- The member for the key is `null`. -/
  | null {fields : Json.Fields} (given : fields.get? CallerData.apiKeyMember = some .null) :
    Answers none (some fields) (.error missing)
  /-- The caller's key is blank. -/
  | blank {fields : Json.Fields} {key : String}
    (given : fields.get? CallerData.apiKeyMember = some (.string key))
    (blank : Text.isAllBlank key = true) : Answers none (some fields) (.error missing)

/-- Of a context nothing counts but its provider data. -/
theorem ambientData_eq (ambient : Option CallContext) :
    ambientData ambient =
      match ambient.bind CallContext.providerData with
      | some fields => (CallerData.ofFields fields).map some
      | none => .ok none := by
  cases ambient <;> rfl

theorem resolve_congr {ambient other : Option CallContext}
    (same : ambient.bind CallContext.providerData = other.bind CallContext.providerData)
    (configured : Option String) : resolve configured ambient = resolve configured other := by
  cases configured with
  | some key => rfl
  | none => simp only [resolve, ambientData_eq, same]

/-- The answer is the one for the provider data of the context. -/
theorem answers_resolve (configured : Option String) (ambient : Option CallContext) :
    Answers configured (ambient.bind CallContext.providerData) (resolve configured ambient) := by
  cases configured with
  | some key => exact .configured key _
  | none =>
    simp only [resolve, ambientData_eq]
    cases ambient.bind CallContext.providerData with
    | none => exact .nothing
    | some fields =>
      simp only [CallerData.ofFields]
      cases given : fields.get? CallerData.apiKeyMember with
      | none => exact .absent given
      | some value =>
        cases value with
        | null => exact .null given
        | string key =>
          by_cases blank : Text.isAllBlank key = true
          · have answer : callerKey? (some ⟨some key⟩) = none := by simp [callerKey?, blank]
            simp only [Except.map, answer]
            exact .blank given blank
          · have answer : callerKey? (some ⟨some key⟩) = some key := by simp [callerKey?, blank]
            simp only [Except.map, answer]
            exact .caller given (Bool.eq_false_iff.2 blank)
        | boolean | number | array | object => exact .malformed given rfl nofun _

/-- Without a configured key and provider data there is no key. -/
theorem Answers.eq_missing {answer : Except InferenceError String}
    (answers : Answers none none answer) : answer = .error missing := by
  cases answers
  rfl

/-- A key in the answer is not blank, if the configured one is not. -/
theorem Answers.not_blank {configured : Option String} {data : Option Json.Fields} {key : String}
    (written : ∀ key, configured = some key → Text.isAllBlank key = false)
    (answers : Answers configured data (.ok key)) : Text.isAllBlank key = false := by
  cases answers with
  | configured => exact written key rfl
  | caller _ visible => exact visible

end Credential

namespace ScopeStep

mutual

/-- The number of questions in a step. -/
def questions : ScopeStep → Nat
  | .resolveKey _ => 1
  | .inside _ steps => allQuestions steps

/-- The number of questions in steps. -/
def allQuestions : List ScopeStep → Nat
  | [] => 0
  | step :: rest => questions step + allQuestions rest

end

mutual

theorem length_readings (ambient : Option CallContext) (step : ScopeStep) :
    (readings ambient step).length = step.questions := by
  match step with
  | .resolveKey configured => rfl
  | .inside context steps =>
    rw [readings, questions, length_allReadings]

theorem length_allReadings (ambient : Option CallContext) (steps : List ScopeStep) :
    (allReadings ambient steps).length = allQuestions steps := by
  match steps with
  | [] => rfl
  | step :: rest =>
    rw [allReadings, allQuestions, List.length_append, length_readings, length_allReadings]

end

theorem allReadings_append (ambient : Option CallContext) (first later : List ScopeStep) :
    allReadings ambient (first ++ later) =
      allReadings ambient first ++ allReadings ambient later := by
  induction first with
  | nil => rfl
  | cons step first induction =>
    rw [List.cons_append, allReadings, allReadings, induction, List.append_assoc]

theorem allQuestions_append (first later : List ScopeStep) :
    allQuestions (first ++ later) = allQuestions first + allQuestions later := by
  simp only [← length_allReadings none, allReadings_append, List.length_append]

/-- Earlier steps only move what later ones read. -/
theorem getElem?_allReadings_append (ambient : Option CallContext) (first later : List ScopeStep)
    (index : Nat) :
    (allReadings ambient (first ++ later))[allQuestions first + index]? =
      (allReadings ambient later)[index]? := by
  rw [allReadings_append, ← length_allReadings ambient first,
    List.getElem?_append_right (Nat.le_add_right _ _), Nat.add_sub_cancel_left]

/-- What is read inside a context stands in front of what is read behind it. -/
theorem getElem?_allReadings_inside (ambient : Option CallContext) {context : CallContext}
    {steps : List ScopeStep} (after : List ScopeStep) {index : Nat} {reading : ScopeReading}
    (inside : (allReadings (some context) steps)[index]? = some reading) :
    (allReadings ambient (.inside context steps :: after))[index]? = some reading := by
  obtain ⟨bound, -⟩ := List.getElem?_eq_some_iff.1 inside
  rw [allReadings, readings, List.getElem?_append_left bound, inside]

end ScopeStep

/-- An open context, with the steps beside it. -/
structure ScopeFrame where
  /-- The steps that ran before. -/
  before : List ScopeStep
  /-- The context. -/
  context : CallContext
  /-- The steps that run when the context is finished. -/
  after : List ScopeStep

/-- Steps inside the context, with the steps beside it. -/
def ScopeFrame.around (frame : ScopeFrame) (steps : List ScopeStep) : List ScopeStep :=
  frame.before ++ .inside frame.context steps :: frame.after

/-- A question for the API key inside nested contexts. -/
structure ScopePlace where
  /-- The open contexts, the outermost one first. -/
  frames : List ScopeFrame
  /-- The steps that ran before in the innermost context. -/
  before : List ScopeStep
  /-- The configured key. -/
  configured : Option String
  /-- The steps that follow in the innermost context. -/
  after : List ScopeStep

namespace ScopePlace

/-- All steps, the question among them. -/
def steps (place : ScopePlace) : List ScopeStep :=
  place.frames.foldr ScopeFrame.around (place.before ++ .resolveKey place.configured :: place.after)

/-- The innermost open context. -/
def innermost? (place : ScopePlace) : Option CallContext :=
  place.frames.getLast?.map ScopeFrame.context

/-- The provider data of the innermost open context. -/
def data? (place : ScopePlace) : Option Json.Fields :=
  place.innermost?.bind CallContext.providerData

/-- The number of questions before this one. -/
def index (place : ScopePlace) : Nat :=
  ScopeStep.allQuestions (place.frames.flatMap ScopeFrame.before ++ place.before)

/-- The answer to the question when all steps run. -/
def answer? (place : ScopePlace) : Option (Except InferenceError String) :=
  (ScopeStep.allReadings none place.steps)[place.index]?.map ScopeReading.apiKey

/-- The question reads the innermost open context, or else the one around all steps. -/
theorem getElem?_allReadings (place : ScopePlace) (ambient : Option CallContext) :
    (ScopeStep.allReadings ambient place.steps)[place.index]? =
      some ⟨(place.innermost?.or ambient).bind CallContext.providerData,
        Credential.resolve place.configured (place.innermost?.or ambient)⟩ := by
  obtain ⟨frames, before, configured, after⟩ := place
  induction frames generalizing ambient with
  | nil =>
    have index_eq : (⟨[], before, configured, after⟩ : ScopePlace).index =
        ScopeStep.allQuestions before + 0 := rfl
    rw [index_eq, steps, List.foldr_nil, ScopeStep.getElem?_allReadings_append]
    rfl
  | cons frame frames induction =>
    have index_eq : (⟨frame :: frames, before, configured, after⟩ : ScopePlace).index =
        ScopeStep.allQuestions frame.before +
          (⟨frames, before, configured, after⟩ : ScopePlace).index := by
      rw [index, List.flatMap_cons, List.append_assoc, ScopeStep.allQuestions_append]
      rfl
    have innermost_eq :
        (⟨frame :: frames, before, configured, after⟩ : ScopePlace).innermost?.or ambient =
          (⟨frames, before, configured, after⟩ : ScopePlace).innermost?.or
            (some frame.context) := by
      rw [innermost?, innermost?, List.getLast?_cons]
      cases frames.getLast? <;> rfl
    rw [index_eq, innermost_eq, steps, List.foldr_cons, ScopeFrame.around,
      ScopeStep.getElem?_allReadings_append]
    exact ScopeStep.getElem?_allReadings_inside ambient frame.after (induction (some frame.context))

theorem answer?_eq (place : ScopePlace) :
    place.answer? = some (Credential.resolve place.configured place.innermost?) := by
  rw [answer?, getElem?_allReadings, Option.or_none]
  rfl

/-- The place with one more step in front. -/
def behind (step : ScopeStep) : ScopePlace → ScopePlace
  | ⟨[], before, configured, after⟩ => ⟨[], step :: before, configured, after⟩
  | ⟨frame :: frames, before, configured, after⟩ =>
    ⟨{ frame with before := step :: frame.before } :: frames, before, configured, after⟩

theorem steps_behind (step : ScopeStep) (place : ScopePlace) :
    (place.behind step).steps = step :: place.steps := by
  obtain ⟨_ | ⟨frame, frames⟩, before, configured, after⟩ := place <;> rfl

theorem index_behind (step : ScopeStep) (place : ScopePlace) :
    (place.behind step).index = step.questions + place.index := by
  obtain ⟨_ | ⟨frame, frames⟩, before, configured, after⟩ := place <;> rfl

/-- The place inside one more context. -/
def inside (context : CallContext) (rest : List ScopeStep) (place : ScopePlace) : ScopePlace :=
  { place with frames := ⟨[], context, rest⟩ :: place.frames }

/-- Every question has its place. -/
theorem exists_place (steps : List ScopeStep) {index : Nat}
    (asked : index < ScopeStep.allQuestions steps) :
    ∃ place : ScopePlace, place.steps = steps ∧ place.index = index := by
  match steps with
  | [] => cases asked
  | step :: rest =>
    by_cases first : index < step.questions
    · match step with
      | .resolveKey configured =>
        obtain rfl : index = 0 := Nat.lt_one_iff.1 first
        exact ⟨⟨[], [], configured, rest⟩, rfl, rfl⟩
      | .inside context inner =>
        obtain ⟨place, rfl, rfl⟩ := exists_place inner first
        exact ⟨place.inside context rest, rfl, rfl⟩
    · rw [ScopeStep.allQuestions] at asked
      obtain ⟨place, rfl, index_eq⟩ := exists_place rest
        (show index - step.questions < ScopeStep.allQuestions rest by omega)
      refine ⟨place.behind step, steps_behind step place, ?_⟩
      rw [index_behind, index_eq]
      omega

end ScopePlace

/-- Wherever the configured key is asked for, keys do not cross contexts and are not blank. -/
structure KeysStayApart (configured : Option String) : Prop where
  /-- The configured key is not blank. -/
  written : ∀ key, configured = some key → Text.isAllBlank key = false
  /-- Every question that any steps ask has a place. -/
  placed : ∀ steps index, index < (ScopeStep.allReadings none steps).length →
    ∃ place : ScopePlace, place.steps = steps ∧ place.index = index
  /-- The answer is the one for the provider data of the innermost context. -/
  answered : ∀ place : ScopePlace, place.configured = configured →
    ∃ answer, place.answer? = some answer ∧ Credential.Answers configured place.data? answer
  /-- The data of other contexts change no answer, and with a configured key no data do. -/
  untouched : ∀ place other : ScopePlace, place.configured = configured →
    other.configured = configured → (configured = none → place.data? = other.data?) →
    place.answer? = other.answer?
  /-- A context without data hides the keys of the contexts around it. -/
  hidden : configured = none → ∀ place : ScopePlace, place.configured = none →
    place.data? = none → place.answer? = some (.error Credential.missing)
  /-- A key in an answer is not blank. -/
  notBlank : ∀ place : ScopePlace, place.configured = configured →
    ∀ key, place.answer? = some (.ok key) → Text.isAllBlank key = false

/-- The key of an accepted configuration and the keys of callers stay in their contexts. -/
theorem credentials_stay_in_their_context {environment : Environment} {text : String}
    {config : Config} (accepted : Config.parse environment text = .ok config) :
    KeysStayApart config.provider.apiKey := by
  have written : ∀ key, config.provider.apiKey = some key → Text.isAllBlank key = false :=
    Config.keyWritten_of_parse accepted
  generalize config.provider.apiKey = configured at written
  have answered (place : ScopePlace) (asked : place.configured = configured) :
      ∃ answer, place.answer? = some answer ∧
        Credential.Answers configured place.data? answer := by
    rw [place.answer?_eq, asked]
    exact ⟨_, rfl, Credential.answers_resolve configured place.innermost?⟩
  constructor
  case written => exact written
  case placed =>
    intro steps index asked
    rw [ScopeStep.length_allReadings] at asked
    exact ScopePlace.exists_place steps asked
  case answered => exact answered
  case untouched =>
    intro place other asked otherAsked same
    rw [place.answer?_eq, other.answer?_eq, asked, otherAsked]
    cases configured with
    | some key => rfl
    | none => rw [Credential.resolve_congr (same rfl)]
  case hidden =>
    rintro rfl place asked noData
    obtain ⟨answer, answer_eq, answers⟩ := answered place asked
    rw [noData] at answers
    rw [answer_eq, answers.eq_missing]
  case notBlank =>
    intro place asked key given
    obtain ⟨answer, answer_eq, answers⟩ := answered place asked
    obtain rfl := Option.some.inj (answer_eq.symm.trans given)
    exact answers.not_blank written

/-- A question inside two contexts, when the key of another caller was read before. -/
def ScopePlace.innerCaller : ScopePlace where
  frames :=
    [⟨[.inside (CallContext.empty.withData [("fireworks_api_key", .string "fw-before")])
        [.resolveKey none]],
      CallContext.empty.withData [("fireworks_api_key", .string "fw-outer")], []⟩,
      ⟨[], CallContext.empty.withData [("fireworks_api_key", .string "fw-inner ")], []⟩]
  before := [.resolveKey none]
  configured := none
  after := [.resolveKey none]

/-- With a blank setting the innermost caller's key counts, and one without data has none. -/
theorem credentials_stay_in_their_context_blankSetting :
    ∃ text config, Config.parse ⟨[]⟩ text = .ok config ∧ config.provider.apiKey = none ∧
      ScopePlace.innerCaller.answer? = some (.ok "fw-inner ") ∧
      ∀ place : ScopePlace, place.configured = none → place.data? = none →
        place.answer? = some (.error Credential.missing) := by
  have accepted : Config.parse ⟨[]⟩
      "[fireworks]\napi_key = \"\x7b\x7b env.KEY | default(\" \") \x7d\x7d\"\n" =
        .ok .default := by
    decide +kernel
  have apart := credentials_stay_in_their_context accepted
  obtain ⟨answer, answer_eq, answers⟩ := apart.answered ScopePlace.innerCaller rfl
  refine ⟨_, _, accepted, rfl, ?_, apart.hidden rfl⟩
  rw [answer_eq]
  cases answers with
  | caller given written =>
    cases given
    rfl
  | malformed given noText =>
    cases given
    cases noText
  | absent given | null given => cases given
  | blank given blank =>
    cases given
    revert blank
    decide

end LlamaGateway
