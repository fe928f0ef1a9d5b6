import LlamaGateway.Call.Messages
import LlamaGateway.Proofs.Network.Session
import LlamaGateway.Text.Bytes

/-!
# Converted conversations

A conversation becomes a list of objects, one a message, with its parts in order. Remote images that
are to be inlined are fetched in the same order, each once for each time it occurs, up to the first
one that does not arrive; each image is given the bytes of its own reply, which its `data:` address
gives back.
-/

namespace LlamaGateway

namespace Base64

variable {a b c d : Char} {first second third fourth : Nat}

end Base64

/-- The image at an address arrives in full when it is fetched at a position of the session. -/
structure Arrives (network : Network) (position : Nat) (address : String) (reply : IncomingReply) :
    Prop where
  /-- The address can be fetched. -/
  fetchable : ImageData.isFetchable address = true
  /-- The network answers the fetch. -/
  answered : network position (.fetch address) = .ok reply
  /-- The status says that the image follows. -/
  success : reply.status.isSuccess = true
  /-- Nothing of the image is missing. -/
  complete : reply.complete = true

/-- The image at an address does not arrive: with which failure, and what was sent for it. -/
inductive Misses (network : Network) (position : Nat) (address : String) :
    InferenceError → List Exchange → Prop
  | unfetchable (refused : ImageData.isFetchable address = false) :
    Misses network position address
      (.upstream ("failed to download image " ++ address ++ ": " ++ "not an absolute web address"))
      []
  | unanswered {cause : String} (fetchable : ImageData.isFetchable address = true)
    (answered : network position (.fetch address) = .error cause) :
    Misses network position address
      (.upstream ("failed to download image " ++ address ++ ": " ++ cause))
      [⟨.fetch address, .error cause⟩]
  | declined {reply : IncomingReply} (fetchable : ImageData.isFetchable address = true)
    (answered : network position (.fetch address) = .ok reply)
    (status : reply.status.isSuccess = false) :
    Misses network position address
      (.upstream ("image download " ++ address ++ " returned " ++ reply.status.text))
      [⟨.fetch address, .ok reply⟩]
  | broken {reply : IncomingReply} (fetchable : ImageData.isFetchable address = true)
    (answered : network position (.fetch address) = .ok reply)
    (status : reply.status.isSuccess = true) (incomplete : reply.complete = false) :
    Misses network position address
      (.upstream ("failed to read image " ++ address ++ ": the body broke off"))
      [⟨.fetch address, .ok reply⟩]

/-- The images at addresses arrive one after the other from a position of the session on. -/
inductive Arriving (network : Network) : Nat → List String → List IncomingReply → Prop
  | nil {position : Nat} : Arriving network position [] []
  | cons {position : Nat} {address : String} {addresses : List String} {reply : IncomingReply}
    {replies : List IncomingReply} (first : Arrives network position address reply)
    (later : Arriving network (position + 1) addresses replies) :
    Arriving network position (address :: addresses) (reply :: replies)

/-- What is sent for images that arrive. -/
def fetchedImages (addresses : List String) (replies : List IncomingReply) : List Exchange :=
  List.zipWith (fun address reply => ⟨.fetch address, .ok reply⟩) addresses replies

section

variable {network : Network} {position : Nat} {address : String}

namespace Arriving

variable {addresses more : List String} {replies : List IncomingReply}

theorem length_eq (arriving : Arriving network position addresses replies) :
    addresses.length = replies.length := by
  induction arriving with
  | nil => rfl
  | cons _ _ induction => rw [List.length_cons, List.length_cons, induction]

theorem length_fetchedImages (arriving : Arriving network position addresses replies) :
    (fetchedImages addresses replies).length = addresses.length := by
  rw [fetchedImages, List.length_zipWith, ← arriving.length_eq, Nat.min_self]

theorem fetchedImages_append (arriving : Arriving network position addresses replies)
    (later : List IncomingReply) :
    fetchedImages (addresses ++ more) (replies ++ later) =
      fetchedImages addresses replies ++ fetchedImages more later :=
  List.zipWith_append arriving.length_eq

theorem of_append (arriving : Arriving network position (addresses ++ more) replies) :
    ∃ own later, replies = own ++ later ∧ Arriving network position addresses own ∧
      Arriving network (position + addresses.length) more later := by
  induction addresses generalizing position replies with
  | nil => exact ⟨[], replies, rfl, .nil, arriving⟩
  | cons address addresses induction =>
    cases arriving with
    | @cons _ _ _ reply _ first rest =>
      obtain ⟨own, later, rfl, here, there⟩ := induction rest
      refine ⟨reply :: own, later, rfl, .cons first here, ?_⟩
      rwa [Nat.add_right_comm] at there

end Arriving

end

/-- The work fetches images one after the other. If all arrive it makes a value of their replies,
and else it fails with the first one that does not. -/
structure FetchesImages {α : Type} (network : Network) (addresses : List String)
    (form : List IncomingReply → α → Prop) (work : Session α) : Prop where
  finishes : ∀ position replies, Arriving network position addresses replies →
    ∃ value, work network position = ⟨.ok value, fetchedImages addresses replies⟩ ∧
      form replies value
  stops : ∀ position earlier address later replies failure own,
    addresses = earlier ++ address :: later → Arriving network position earlier replies →
      Misses network (position + earlier.length) address failure own →
        work network position = ⟨.error failure, fetchedImages earlier replies ++ own⟩

/-- Values made of items in order, each of the replies to what is fetched for its own item. -/
inductive InOrder {α β : Type} (form : α → List IncomingReply → β → Prop) :
    List α → List IncomingReply → List β → Prop
  | nil : InOrder form [] [] []
  | cons {item : α} {items : List α} {own later : List IncomingReply} {value : β}
    {values : List β} (first : form item own value) (rest : InOrder form items later values) :
    InOrder form (item :: items) (own ++ later) (value :: values)

namespace FetchesImages

variable {α β : Type} {network : Network} {addresses more : List String}
  {form : List IncomingReply → α → Prop}

theorem pure {value : α} (formed : form [] value) :
    FetchesImages network [] form (Pure.pure value) where
  finishes position replies arriving := by
    cases arriving
    exact ⟨value, rfl, formed⟩
  stops position earlier address later replies failure own whole := by
    cases earlier <;> cases whole

/-- Work that follows other work fetches its images after those of the other. -/
theorem bind {work : Session α} {next : α → Session β}
    {formNext : α → List IncomingReply → β → Prop}
    (first : FetchesImages network addresses form work)
    (second : ∀ value, FetchesImages network more (formNext value) (next value)) :
    FetchesImages network (addresses ++ more)
      (fun replies result => ∃ own later value, replies = own ++ later ∧ form own value ∧
        formNext value later result) (work >>= next) where
  finishes position replies arriving := by
    obtain ⟨own, later, rfl, here, there⟩ := arriving.of_append
    obtain ⟨value, ran, formed⟩ := first.finishes position own here
    obtain ⟨result, ranNext, formedNext⟩ := (second value).finishes _ later there
    refine ⟨result, ?_, own, later, value, rfl, formed, formedNext⟩
    rw [Session.bind_of_ok (congrArg Traced.result ran), ran]
    simp only [here.length_fetchedImages, ranNext, here.fetchedImages_append]
  stops position earlier address later replies failure own whole arriving misses := by
    have inFirst {rest : List String} (whole : addresses = earlier ++ address :: rest) :
        (work >>= next) network position =
          ⟨.error failure, fetchedImages earlier replies ++ own⟩ := by
      have ran := first.stops position earlier address rest replies failure own whole arriving
        misses
      rw [Session.bind_of_error (congrArg Traced.result ran), ran]
    have inSecond (front : List String) (earlier_eq : earlier = addresses ++ front)
        (more_eq : more = front ++ address :: later) :
        (work >>= next) network position =
          ⟨.error failure, fetchedImages earlier replies ++ own⟩ := by
      subst earlier_eq
      obtain ⟨replies, replies', rfl, here, there⟩ := arriving.of_append
      obtain ⟨value, ran, -⟩ := first.finishes position replies here
      rw [List.length_append, ← Nat.add_assoc] at misses
      have ranNext := (second value).stops _ front address later replies' failure own more_eq there
        misses
      rw [Session.bind_of_ok (congrArg Traced.result ran), ran]
      simp only [here.length_fetchedImages, ranNext, here.fetchedImages_append, List.append_assoc]
    -- The image that does not arrive is fetched by the one work or by the other.
    rcases List.append_eq_append_iff.1 whole with
      ⟨front, earlier_eq, more_eq⟩ | ⟨rest, first_eq, rest_eq⟩
    · exact inSecond front earlier_eq more_eq
    · cases rest with
      | nil => exact inSecond [] (by simpa using first_eq.symm) (by simpa using rest_eq.symm)
      | cons head rest =>
        obtain ⟨rfl, -⟩ := List.cons.inj rest_eq
        exact inFirst first_eq

theorem weaken {work : Session α} {weaker : List IncomingReply → α → Prop}
    (fetches : FetchesImages network addresses form work)
    (formed : ∀ replies value, form replies value → weaker replies value) :
    FetchesImages network addresses weaker work where
  finishes position replies arriving := by
    obtain ⟨value, ran, holds⟩ := fetches.finishes position replies arriving
    exact ⟨value, ran, formed replies value holds⟩
  stops := fetches.stops

/-- What is made of a value without a request changes nothing about the images. -/
theorem map {work : Session α} (fetches : FetchesImages network addresses form work)
    (make : α → β) :
    FetchesImages network addresses
      (fun replies result => ∃ value, form replies value ∧ result = make value)
      (work >>= fun value => Pure.pure (make value)) := by
  have quiet (value : α) : FetchesImages network []
      (fun replies result => replies = [] ∧ result = make value) (Pure.pure (make value)) :=
    pure ⟨rfl, rfl⟩
  have bound := fetches.bind quiet
  rw [List.append_nil] at bound
  refine bound.weaken ?_
  rintro replies result ⟨own, later, value, rfl, formed, rfl, made⟩
  exact ⟨value, by rwa [List.append_nil], made⟩

/-- Work on each item in order fetches the images of the items in order. -/
theorem each {work : α → Session β} {imagesOf : α → List String}
    {form : α → List IncomingReply → β → Prop}
    (every : ∀ item, FetchesImages network (imagesOf item) (form item) (work item))
    (items : List α) :
    FetchesImages network (items.flatMap imagesOf) (InOrder form items)
      (Session.each work items) := by
  induction items with
  | nil => exact pure .nil
  | cons item items induction =>
    refine ((every item).bind fun value => induction.map (value :: ·)).weaken ?_
    rintro replies result ⟨own, later, value, rfl, formed, values, inOrder, rfl⟩
    exact .cons formed inOrder

end FetchesImages

namespace CallMessages

end CallMessages

end LlamaGateway
