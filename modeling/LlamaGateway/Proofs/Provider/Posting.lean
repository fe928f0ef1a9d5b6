import LlamaGateway.Provider.Client
import LlamaGateway.Proofs.Network.Session
import LlamaGateway.Proofs.Text.Trimming

/-!
# Posting a call

A client posts a call once, or not at all if it cannot send it. The name of the endpoint is written
behind the provider's address, so it belongs to the path only if nothing stands behind the path.

What comes back is opened, which fails for a refused call, and is then read as a body or as chunks;
a streamed prompt is posted when its first chunk is asked for, and a failure to open the reply takes
the place of that chunk.
-/

namespace LlamaGateway

namespace Url

/-- What is left of a text without the slashes at its end. -/
structure Bared (text bare : List Char) : Prop where
  /-- Nothing but slashes is taken off. -/
  slashes : ∃ count, text = bare ++ List.replicate count '/'
  /-- None of them is left at the end. -/
  last : bare.getLast? ≠ some '/'

theorem bared_trimEnd (text : List Char) : Bared text (Text.trimEnd (· = '/') text) where
  slashes := by
    have slash : ∀ c ∈ text.rtakeWhile (· = '/'), c = '/' := by
      intro c member
      simpa using List.mem_rtakeWhile_imp member
    refine ⟨(text.rtakeWhile (· = '/')).length, ?_⟩
    rw [← List.eq_replicate_of_mem slash]
    exact List.rdropWhile_append_rtakeWhile.symm
  last := by
    intro isSlash
    have outside := Text.getLast?_trimEnd isSlash
    simp at outside

/-- An address with an ending in place of the slashes at its end. The ending belongs to the
fragment, else to the query, and only where there is neither of them to the path. -/
inductive Extended (base : Url) (ending : List Char) : Url → Prop
  | path {bare : List Char} (noQuery : base.query = none) (noFragment : base.fragment = none)
      (bared : Bared base.path.text bare) :
      Extended base ending { base with path := .plain (bare ++ ending) }
  | query {query bare : List Char} (hasQuery : base.query = some query)
      (noFragment : base.fragment = none) (bared : Bared query bare) :
      Extended base ending { base with query := some (bare ++ ending) }
  | fragment {fragment bare : List Char} (hasFragment : base.fragment = some fragment)
      (bared : Bared fragment bare) :
      Extended base ending { base with fragment := some (bare ++ ending) }

/-- The path of an address goes on with an ending. -/
def PathGoesOn (base target : Url) (ending : List Char) : Prop :=
  ∃ bare, Bared base.path.text bare ∧ target.path.text = bare ++ ending

/-- The ending belongs to the path exactly if the address has neither query nor fragment. -/
theorem Extended.pathGoesOn_iff {base target : Url} {ending : List Char}
    (extended : base.Extended ending target) (named : ∃ c ∈ ending, c ≠ '/') :
    base.PathGoesOn target ending ↔ base.query = none ∧ base.fragment = none := by
  -- An ending that is no slash is none of what was taken off.
  have apart : ¬ base.PathGoesOn base ending := by
    rintro ⟨bare, ⟨⟨count, whole⟩, -⟩, same⟩
    obtain ⟨c, member, noSlash⟩ := named
    rw [whole, List.append_cancel_left_eq] at same
    rw [← same] at member
    exact noSlash (List.eq_of_mem_replicate member)
  cases extended with
  | path noQuery noFragment bared => exact iff_of_true ⟨_, bared, rfl⟩ ⟨noQuery, noFragment⟩
  | query hasQuery => exact iff_of_false apart (by simp [hasQuery])
  | fragment hasFragment => exact iff_of_false apart (by simp [hasFragment])

/-- The host of a request and its port are not empty and hold no slash. -/
theorem exists_last_of_hasRequestHost {base : Url} (takes : base.hasRequestHost = true) :
    ∃ front last, base.authorityText = front ++ [last] ∧ last ≠ '/' ∧
      ∀ path, { base with path := path }.authorityText = base.authorityText := by
  rw [hasRequestHost] at takes
  cases hasHost : base.host with
  | none => simp [hasHost] at takes
  | some host =>
    simp only [hasHost, Bool.and_eq_true, Bool.not_eq_true', List.isEmpty_eq_false_iff,
      List.all_eq_true] at takes
    obtain ⟨nonempty, hostChars⟩ := takes
    have noSlash : ∀ c ∈ host ++ base.portText, c ≠ '/' := by
      rintro c member rfl
      rcases List.mem_append.1 member with inHost | inPort
      · exact absurd (hostChars _ inHost) (by decide)
      · rw [portText] at inPort
        split at inPort
        · rcases List.mem_cons.1 inPort with isColon | isDigit
          · cases isColon
          · exact absurd (Nat.isDigit_of_mem_toDigits (by decide) (by decide) isDigit) (by decide)
        · cases inPort
    have someLast : host ++ base.portText ≠ [] := by simp [nonempty]
    refine ⟨['/', '/'] ++ base.userInfoText ++ (host ++ base.portText).dropLast,
      (host ++ base.portText).getLast someLast, ?_, noSlash _ (List.getLast_mem someLast), ?_⟩
    · rw [List.append_assoc, List.dropLast_append_getLast]
      simp [authorityText, hasHost]
    · intro path
      simp [authorityText, hasHost, userInfoText, portText]

/-- The ending is written behind the text of an address without the slashes at its end. -/
theorem exists_extended {base : Url} (takes : base.hasRequestHost = true) (ending : List Char) :
    ∃ target, base.Extended ending target ∧
      target.toText = String.ofList (Text.trimEnd (· = '/') base.toText.toList ++ ending) := by
  cases hasFragment : base.fragment with
  | some fragment =>
    have whole : base.toText.toList = base.scheme ++ ':' :: base.authorityText ++ base.path.text ++
        markedText '?' base.query ++ '#' :: fragment := by
      rw [toText, String.toList_ofList, hasFragment, markedText]
    refine ⟨_, .fragment hasFragment (bared_trimEnd fragment), ?_⟩
    rw [whole, Text.trimEnd_append_cons (by decide), toText, List.append_assoc _ _ ending]
    rfl
  | none =>
    cases hasQuery : base.query with
    | some query =>
      have whole : base.toText.toList =
          base.scheme ++ ':' :: base.authorityText ++ base.path.text ++ '?' :: query := by
        rw [toText, String.toList_ofList, hasFragment, hasQuery, markedText, markedText,
          List.append_nil]
      refine ⟨_, .query hasQuery hasFragment (bared_trimEnd query), ?_⟩
      rw [whole, Text.trimEnd_append_cons (by decide), toText, hasFragment,
        List.append_assoc _ _ ending]
      simp only [markedText, List.append_nil]
      rfl
    | none =>
      obtain ⟨front, last, authority, noSlash, same⟩ := exists_last_of_hasRequestHost takes
      have whole : base.toText.toList =
          (base.scheme ++ ':' :: front) ++ last :: base.path.text := by
        rw [toText, String.toList_ofList, hasFragment, hasQuery, authority]
        simp [markedText]
      refine ⟨_, .path hasQuery hasFragment (bared_trimEnd base.path.text), ?_⟩
      rw [whole, Text.trimEnd_append_cons (decide_eq_false noSlash), toText, same, authority,
        hasFragment, hasQuery]
      simp [markedText, Path.text]

end Url

namespace ProviderClient

variable (client : ProviderClient) (call : BuiltCall) (network : Network) (sent : Nat)

/-- The request that posts a call. -/
def posting (client : ProviderClient) (call : BuiltCall) : OutgoingRequest :=
  .post (client.baseUrl.endpoint call.shape) client.apiKey call.params

/-- What posting a call sends. -/
def posted : List Exchange :=
  if client.canSend call.shape then
    [⟨client.posting call, network sent (client.posting call)⟩]
  else []

/-- The reply to a posted call, if it is accepted. -/
def opened : Except InferenceError IncomingReply :=
  if client.canSend call.shape then accepted (network sent (client.posting call))
  else .error (.upstream "the request cannot be built")

/-- The chunks of a call that is posted when the first one is asked for. -/
def openedChunks : RawStream :=
  match client.opened call network sent with
  | .ok reply => chunksOf reply
  | .error failure => [.error failure]

theorem post_apply {α : Type} (read : IncomingReply → Except InferenceError α) :
    client.post call read network sent =
      ⟨(client.opened call network sent).bind read, client.posted call network sent⟩ := by
  rw [post, opened, posted]
  split <;> rfl

/-- A client that cannot send posts nothing. -/
theorem mem_posted_iff {exchange : Exchange} :
    exchange ∈ client.posted call network sent ↔
      client.canSend call.shape = true ∧
        exchange = ⟨client.posting call, network sent (client.posting call)⟩ := by
  rw [posted]
  split <;> simp [*]

theorem length_posted_le : (client.posted call network sent).length ≤ 1 := by
  rw [posted]
  split <;> simp

theorem isPost_of_mem_posted :
    ∀ exchange ∈ client.posted call network sent, exchange.request.isPost = true := by
  intro exchange member
  obtain ⟨-, rfl⟩ := (mem_posted_iff client call network sent).1 member
  rfl

variable {client call network sent}

/-- A reply that is accepted has come back for the only request. -/
theorem posted_of_opened {reply : IncomingReply}
    (succeeds : client.opened call network sent = .ok reply) :
    ∃ exchange, client.posted call network sent = [exchange] ∧ exchange.reply = .ok reply ∧
      reply.status.isSuccess = true := by
  rw [opened] at succeeds
  split at succeeds
  · next sends =>
    refine ⟨_, by rw [posted, if_pos sends], ?_⟩
    cases came : network sent (client.posting call) with
    | error cause =>
      rw [came] at succeeds
      cases succeeds
    | ok back =>
      rw [came, accepted] at succeeds
      split at succeeds
      · next isSuccess =>
        cases succeeds
        exact ⟨rfl, isSuccess⟩
      · cases succeeds
  · cases succeeds

/-- A call that the provider refuses fails with the status and the text of the refusal. -/
theorem opened_of_refused {exchange : Exchange} {reply : IncomingReply}
    (isPosted : exchange ∈ client.posted call network sent) (came : exchange.reply = .ok reply)
    (refused : reply.status.isSuccess = false) :
    client.opened call network sent =
      .error (.upstream
        ("fireworks returned " ++ reply.status.text ++ ": " ++ refusalText reply)) := by
  obtain ⟨sends, rfl⟩ := (mem_posted_iff client call network sent).1 isPosted
  change network sent (client.posting call) = .ok reply at came
  rw [opened, if_pos sends, came, accepted, if_neg (Bool.eq_false_iff.1 refused)]

end ProviderClient

theorem RawStream.isProviderFault_of_chunk? {data : List Char} {failure : InferenceError}
    (fails : chunk? data = some (.error failure)) : failure.IsProviderFault := by
  rw [chunk?] at fails
  split at fails
  · cases fails
  · split at fails
    · cases fails
    · cases fails
      exact .streaming _

theorem RawStream.isProviderFault_of_mem_ofEvents {items : List ServerEvents.Item}
    {failure : InferenceError} (member : .error failure ∈ ofEvents items) :
    failure.IsProviderFault := by
  induction items with
  | nil => cases member
  | cons item rest induction =>
    cases item with
    | error cause =>
      rcases List.mem_cons.1 member with isFirst | isLater
      · cases isFirst
        exact .streaming cause
      · exact induction isLater
    | ok data =>
      simp only [ofEvents] at member
      split at member
      · cases member
      · rcases List.mem_append.1 member with isFirst | isLater
        · exact isProviderFault_of_chunk? (Option.mem_toList.1 isFirst)
        · exact induction isLater

namespace ProviderClient

variable {client : ProviderClient} {call : BuiltCall} {network : Network} {sent : Nat}
  {failure : InferenceError}

theorem isProviderFault_of_opened (fails : client.opened call network sent = .error failure) :
    failure.IsProviderFault := by
  rw [opened] at fails
  split at fails
  · unfold accepted at fails
    split at fails
    · cases fails
      exact .upstream _
    · split at fails <;> cases fails
      exact .upstream _
  · cases fails
    exact .upstream _

theorem isProviderFault_of_bodyOf {reply : IncomingReply} (fails : bodyOf reply = .error failure) :
    failure.IsProviderFault := by
  unfold bodyOf at fails
  split at fails <;> cases fails
  exact .upstream _

theorem isProviderFault_of_mem_chunksOf {reply : IncomingReply}
    (member : .error failure ∈ chunksOf reply) : failure.IsProviderFault :=
  RawStream.isProviderFault_of_mem_ofEvents member

theorem isProviderFault_of_mem_openedChunks
    (member : .error failure ∈ client.openedChunks call network sent) :
    failure.IsProviderFault := by
  rw [openedChunks] at member
  split at member
  · exact isProviderFault_of_mem_chunksOf member
  · next met fails =>
    cases List.mem_singleton.1 member
    exact isProviderFault_of_opened fails

variable {kind : RequestKind} (accordant : ¬ (kind = .completion ∧ call.shape = .messages))

include accordant

/-- A call that is not streamed is posted at once, and its reply is read as a body. -/
theorem answer_of_whole (whole : call.stream = false) :
    client.answer call kind network sent =
      ⟨((client.opened call network sent).bind bodyOf).map .body,
        client.posted call network sent⟩ := by
  rw [answer, if_neg accordant, if_neg (Bool.eq_false_iff.1 whole), Session.bind_pure_apply,
    wholeBody, post_apply]

/-- A streamed prompt is posted when its first chunk is asked for. -/
theorem answer_of_prompt (streamed : call.stream = true) (isPrompt : call.shape = .prompt) :
    client.answer call kind network sent =
      ⟨.ok (.stream ⟨client.openedChunks call network sent, client.posted call network sent⟩),
        []⟩ := by
  have later : client.chunksLater call network sent =
      ⟨.ok ⟨client.openedChunks call network sent, client.posted call network sent⟩, []⟩ := by
    rw [chunksLater, chunksNow, post_apply, openedChunks]
    cases client.opened call network sent <;> rfl
  rw [answer, if_neg accordant, if_pos streamed, stream, isPrompt]
  change (client.chunksLater call >>= fun source => Pure.pure (ProviderOutput.stream source))
    network sent = _
  rw [Session.bind_pure_apply, later]
  rfl

/-- Streamed messages are posted at once, and the reply is read as chunks. -/
theorem answer_of_messages (streamed : call.stream = true) (isMessages : call.shape = .messages) :
    client.answer call kind network sent =
      ⟨(client.opened call network sent).map fun reply => .stream ⟨chunksOf reply, []⟩,
        client.posted call network sent⟩ := by
  rw [answer, if_neg accordant, if_pos streamed, stream, isMessages]
  change (client.chunksNow call >>= fun chunks => Pure.pure (ProviderOutput.stream ⟨chunks, []⟩))
    network sent = _
  rw [Session.bind_pure_apply, chunksNow, post_apply]
  cases client.opened call network sent <;> rfl

end ProviderClient

end LlamaGateway
