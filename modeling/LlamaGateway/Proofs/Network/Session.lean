import LlamaGateway.Network.Session
import Mathlib.Data.List.Forall2

/-!
# Laws of sessions

Work that is followed by other work sends what both send, in order, and fails with the first
failure, as steps that send nothing do. What holds of every request or failure of the parts
therefore holds of the whole.
-/

namespace LlamaGateway

section

variable {α β : Type} {step : Except InferenceError α} {failure : InferenceError}

theorem error_of_bind {next : α → Except InferenceError β}
    (fails : step.bind next = .error failure) :
    step = .error failure ∨ ∃ value, step = .ok value ∧ next value = .error failure := by
  cases step with
  | error met =>
    cases fails
    exact .inl rfl
  | ok value => exact .inr ⟨value, rfl, fails⟩

/-- What follows a step without failing fails with the step. -/
theorem error_of_bind_pure {value : α → β}
    (fails : (step >>= fun found => pure (value found)) = .error failure) :
    step = .error failure := by
  rcases error_of_bind fails with first | ⟨found, -, later⟩
  · exact first
  · cases later

theorem error_of_map {value : α → β} (fails : step.map value = .error failure) :
    step = .error failure := by
  cases step with
  | error met =>
    cases fails
    rfl
  | ok found => cases fails

end

namespace Session

variable {α β : Type} {network : Network} {sent : Nat}

@[simp] theorem lift_apply (result : Except InferenceError α) (network : Network) (sent : Nat) :
    lift result network sent = ⟨result, []⟩ := rfl

/-- Failed work is not followed by anything. -/
theorem bind_of_error {work : Session α} {failure : InferenceError}
    (fails : (work network sent).result = .error failure) (next : α → Session β) :
    (work >>= next) network sent = ⟨.error failure, (work network sent).exchanges⟩ := by
  change Session.bind work next network sent = _
  simp only [Session.bind, fails]

/-- Work that succeeds is followed by the next work, which finds its requests sent. -/
theorem bind_of_ok {work : Session α} {value : α}
    (succeeds : (work network sent).result = .ok value) (next : α → Session β) :
    (work >>= next) network sent =
      ⟨(next value network (sent + (work network sent).exchanges.length)).result,
        (work network sent).exchanges ++
          (next value network (sent + (work network sent).exchanges.length)).exchanges⟩ := by
  change Session.bind work next network sent = _
  simp only [Session.bind, succeeds]

theorem bind_of_ok_quiet {work : Session α} {value : α}
    (quiet : work network sent = ⟨.ok value, []⟩) (next : α → Session β) :
    (work >>= next) network sent = next value network sent := by
  have succeeds : (work network sent).result = .ok value := by rw [quiet]
  rw [bind_of_ok succeeds, quiet]
  rfl

@[simp] theorem lift_ok_bind (value : α) (next : α → Session β) :
    (lift (.ok value) >>= next) = next value := rfl

@[simp] theorem lift_error_bind (failure : InferenceError) (next : α → Session β) :
    (lift (.error failure) >>= next) = lift (.error failure) := rfl

/-- Work whose value is only looked at sends what it sends alone. -/
theorem bind_lift_apply (work : Session α) (value : α → Except InferenceError β)
    (network : Network) (sent : Nat) :
    (work >>= fun found => lift (value found)) network sent =
      ⟨(work network sent).result.bind value, (work network sent).exchanges⟩ := by
  cases outcome : (work network sent).result with
  | error failure =>
    rw [bind_of_error outcome]
    rfl
  | ok found =>
    rw [bind_of_ok outcome, lift_apply, List.append_nil]
    rfl

theorem bind_pure_apply (work : Session α) (value : α → β) (network : Network) (sent : Nat) :
    (work >>= fun found => Pure.pure (value found)) network sent =
      ⟨(work network sent).result.map value, (work network sent).exchanges⟩ := by
  rw [show (work network sent).result.map value =
    (work network sent).result.bind fun found => .ok (value found) from rfl]
  exact bind_lift_apply work (fun found => .ok (value found)) network sent

theorem result_bind_eq_ok_iff {work : Session α} {next : α → Session β} {value : β} :
    ((work >>= next) network sent).result = .ok value ↔
      ∃ first, (work network sent).result = .ok first ∧
        (next first network (sent + (work network sent).exchanges.length)).result = .ok value := by
  cases outcome : (work network sent).result with
  | error failure => simp [bind_of_error outcome]
  | ok first => simp [bind_of_ok outcome]

/-- All requests of the work are of a kind. -/
def Sends (allowed : OutgoingRequest → Prop) (work : Session α) : Prop :=
  ∀ network sent, ∀ exchange ∈ (work network sent).exchanges, allowed exchange.request

namespace Sends

variable {allowed : OutgoingRequest → Prop}

theorem pure (value : α) : Sends allowed (Pure.pure value : Session α) := by
  intro network sent exchange member
  cases member

theorem lift (result : Except InferenceError α) : Sends allowed (Session.lift result) := by
  intro network sent exchange member
  cases member

theorem exchange {request : OutgoingRequest} (isAllowed : allowed request)
    (read : Except String IncomingReply → Except InferenceError α) :
    Sends allowed (Session.exchange request read) := by
  intro network sent exchange member
  rw [List.mem_singleton.1 member]
  exact isAllowed

theorem bind {work : Session α} {next : α → Session β} (first : Sends allowed work)
    (second : ∀ value, Sends allowed (next value)) : Sends allowed (work >>= next) := by
  intro network sent exchange member
  cases outcome : (work network sent).result with
  | error failure =>
    rw [bind_of_error outcome] at member
    exact first network sent exchange member
  | ok value =>
    rw [bind_of_ok outcome] at member
    rcases List.mem_append.1 member with inFirst | inSecond
    · exact first network sent exchange inFirst
    · exact second value network _ exchange inSecond

theorem each {work : α → Session β} (every : ∀ item, Sends allowed (work item))
    (items : List α) : Sends allowed (Session.each work items) := by
  induction items with
  | nil => exact pure []
  | cons item rest induction =>
    exact (every item).bind fun value => induction.bind fun values => pure (value :: values)

end Sends

/-- All failures of the work are of a kind. -/
def FailsWith (allowed : InferenceError → Prop) (work : Session α) : Prop :=
  ∀ network sent failure, (work network sent).result = .error failure → allowed failure

namespace FailsWith

variable {allowed : InferenceError → Prop}

theorem pure (value : α) : FailsWith allowed (Pure.pure value : Session α) := by
  intro network sent failure fails
  cases fails

theorem lift {result : Except InferenceError α}
    (every : ∀ failure, result = .error failure → allowed failure) :
    FailsWith allowed (Session.lift result) :=
  fun _ _ failure fails => every failure fails

theorem exchange {request : OutgoingRequest}
    {read : Except String IncomingReply → Except InferenceError α}
    (every : ∀ reply failure, read reply = .error failure → allowed failure) :
    FailsWith allowed (Session.exchange request read) :=
  fun _ _ failure fails => every _ failure fails

theorem bind {work : Session α} {next : α → Session β} (first : FailsWith allowed work)
    (second : ∀ value, FailsWith allowed (next value)) : FailsWith allowed (work >>= next) := by
  intro network sent failure fails
  cases outcome : (work network sent).result with
  | error met =>
    rw [bind_of_error outcome] at fails
    cases fails
    exact first network sent _ outcome
  | ok value =>
    rw [bind_of_ok outcome] at fails
    exact second value network _ failure fails

theorem each {work : α → Session β} (every : ∀ item, FailsWith allowed (work item))
    (items : List α) : FailsWith allowed (Session.each work items) := by
  induction items with
  | nil => exact pure []
  | cons item rest induction =>
    exact (every item).bind fun value => induction.bind fun values => pure (value :: values)

end FailsWith

/-- The work of each item yields one value an item, in order. -/
theorem forall₂_of_each {work : α → Session β} {items : List α} {values : List β}
    (succeeds : (each work items network sent).result = .ok values) :
    List.Forall₂ (fun item value => ∃ sent, (work item network sent).result = .ok value)
      items values := by
  induction items generalizing sent values with
  | nil =>
    cases succeeds
    exact .nil
  | cons item rest induction =>
    obtain ⟨value, first, others⟩ := result_bind_eq_ok_iff.1 succeeds
    obtain ⟨later, second, last⟩ := result_bind_eq_ok_iff.1 others
    cases last
    exact .cons ⟨sent, first⟩ (induction second)

end Session

end LlamaGateway
