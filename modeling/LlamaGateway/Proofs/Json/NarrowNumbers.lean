import LlamaGateway.Proofs.Json.NumberText
import LlamaGateway.Proofs.Json.Stability

/-!
# Numbers of read texts

A numeral is read as an integer or as a double, so no number of a document that was read has more
bits than a double, and neither has one of the free-form data made of the document.
-/

namespace LlamaGateway

namespace Json

namespace Numeral

theorem narrow_divideByTen {value : Floating} (narrow : value.Narrow) (steps power : Nat) :
    (divideByTen steps value power).Narrow := by
  induction steps generalizing value power with
  | zero => exact narrow
  | succ steps induction =>
    rw [divideByTen]
    split
    · exact value.narrow_overPowerOfTen power
    split
    · exact narrow
    · exact induction (value.narrow_overPowerOfTen 308) (power - 308)

theorem narrow_of_scaleWord {word : Nat} {power : Int} {value : Floating}
    (scaled : scaleWord word power = some value) : value.Narrow := by
  have whole : (Floating.Format.double.nearest false word 1).Narrow :=
    Floating.narrow_nearest (by decide) false word 1
  cases power with
  | ofNat up =>
    simp only [scaleWord] at scaled
    split at scaled
    · split at scaled <;> cases scaled
      exact Floating.narrow_timesPowerOfTen _ up
    split at scaled <;> cases scaled
    exact whole
  | negSucc down =>
    cases scaled
    exact narrow_divideByTen whole 4 (down + 1)

theorem narrow_signed (numeral : Numeral) {value : Floating} (narrow : value.Narrow) :
    (numeral.signed value).Narrow := by
  rw [signed]
  split
  · exact narrow.negate
  · exact narrow

theorem narrow_of_map_signed {numeral : Numeral} {word : Nat} {power : Int} {number : Number}
    (read : (scaleWord word power).map numeral.signed = some number) : number.Narrow := by
  obtain ⟨value, scaled, rfl⟩ := Option.map_eq_some_iff.1 read
  exact numeral.narrow_signed (narrow_of_scaleWord scaled)

/-- A numeral is not read as a number with more bits than a double. -/
theorem narrow_of_number? {numeral : Numeral} {number : Number}
    (read : numeral.number? = some number) : number.Narrow := by
  unfold number? at read
  split at read
  · simp only [integral?] at read
    split at read
    · exact narrow_of_map_signed read
    split at read
    · cases read
      trivial
    split at read
    · exact narrow_of_map_signed read
    · cases read
      trivial
  · simp only [fractional?] at read
    split at read
    · exact narrow_of_map_signed read
    split at read
    · split at read <;> cases read
      exact numeral.narrow_signed (Nat.two_pow_pos 53)
    · exact narrow_of_map_signed read

end Numeral

namespace Token

/-- The token holds no number with more bits than a double. -/
def Narrow : Token → Prop
  | .number (some value) => value.Narrow
  | _ => True

theorem narrow_number (numeral : Numeral) : (number numeral.number?).Narrow := by
  cases read : numeral.number? with
  | none => trivial
  | some value => exact Numeral.narrow_of_number? read

theorem narrow_of_next? {text rest : List Char} {token : Token}
    (read : next? text = some (token, rest)) : token.Narrow := by
  unfold next? at read
  split at read
  -- Only strings and numbers take more than the characters that are matched.
  case h_7 =>
    obtain ⟨scanned, -, same⟩ := Option.map_eq_some_iff.1 read
    cases same
    trivial
  case h_11 =>
    obtain ⟨scanned, -, same⟩ := Option.map_eq_some_iff.1 read
    cases same
    exact narrow_number scanned.1
  all_goals
    cases read
    trivial

theorem narrow_of_scan? {limit : Nat} {text : List Char} {tokens : List Token}
    (scanned : scan? limit text = some tokens) : ∀ token ∈ tokens, token.Narrow := by
  induction limit generalizing text tokens with
  | zero =>
    cases text with
    | nil =>
      cases scanned
      exact List.forall_mem_nil _
    | cons c text => cases scanned
  | succ limit induction =>
    cases text with
    | nil =>
      cases scanned
      exact List.forall_mem_nil _
    | cons c text =>
      rw [scan?] at scanned
      split at scanned
      · exact induction scanned
      split at scanned
      · next token after read =>
        obtain ⟨later, scannedLater, rfl⟩ := Option.map_eq_some_iff.1 scanned
        exact List.forall_mem_cons.2 ⟨narrow_of_next? read, induction scannedLater⟩
      · cases scanned

end Token

namespace Document

/-- No number of the document has more bits than a double. -/
inductive Narrow : Document → Prop
  | null : Narrow .null
  | boolean (value : Bool) : Narrow (.boolean value)
  | number {value : Number} (narrow : value.Narrow) : Narrow (.number value)
  | string (value : String) : Narrow (.string value)
  | array {items : List Document} (each : ∀ item ∈ items, Narrow item) : Narrow (.array items)
  | object {members : List (String × Document)} (each : ∀ member ∈ members, Narrow member.2) :
    Narrow (.object members)
  | unreadable : Narrow .unreadable

theorem Narrow.part {document part : Document} (narrow : document.Narrow)
    (isPart : part ∈ document.parts) : part.Narrow := by
  cases narrow with
  | array each => exact each part isPart
  | object each =>
    obtain ⟨member, inMembers, rfl⟩ := List.mem_map.1 isPart
    exact each member inMembers
  | null | boolean | number | string | unreadable => cases isPart

theorem narrow_of_scalar {token : Token} {document : Document} (narrow : token.Narrow)
    (isScalar : Scalar token document) : document.Narrow := by
  cases isScalar with
  | null => exact .null
  | boolean value => exact .boolean value
  | number value => exact .number narrow
  | string value => exact .string value
  | noNumber | noString => exact .unreadable

/-- What the frame holds is narrow. -/
def Frame.Narrow : Frame → Prop
  | .array before => ∀ item ∈ before, item.Narrow
  | .object before _ => ∀ member ∈ before, member.2.Narrow

theorem Frame.Narrow.close {frame : Frame} (narrow : frame.Narrow) (level : Nat) :
    (frame.close level).Narrow := by
  unfold Frame.close
  split
  · exact .unreadable
  cases frame with
  | array before => exact .array fun item member => narrow item (List.mem_reverse.1 member)
  | object before key =>
    simp only
    split
    · next members read =>
      refine .object fun member inMembers => ?_
      obtain ⟨held, inBefore, named⟩ := exists_of_mem_mapM read inMembers
      obtain ⟨key, -, rfl⟩ := Option.map_eq_some_iff.1 named
      exact narrow held (List.mem_reverse.1 inBefore)
    · exact .unreadable

namespace Builder

/-- What is read so far is narrow. -/
def Narrow : Builder → Prop
  | .finished document => document.Narrow
  | .reading frames _ => ∀ frame ∈ frames, frame.Narrow

variable {frames : List Frame}

theorem narrow_deliver {document : Document} (narrow : document.Narrow)
    (framesNarrow : ∀ frame ∈ frames, frame.Narrow) : (deliver document frames).Narrow := by
  cases frames with
  | nil => exact narrow
  | cons frame frames =>
    obtain ⟨held, outer⟩ := List.forall_mem_cons.1 framesNarrow
    cases frame with
    | array before =>
      have more : (Frame.array (document :: before)).Narrow :=
        List.forall_mem_cons.2 ⟨narrow, held⟩
      exact List.forall_mem_cons.2 ⟨more, outer⟩
    | object before key =>
      have more : (Frame.object ((key, document) :: before) none).Narrow :=
        List.forall_mem_cons.2 ⟨narrow, held⟩
      exact List.forall_mem_cons.2 ⟨more, outer⟩

/-- Every move by a narrow token keeps what is read narrow. -/
theorem Narrow.move {token : Token} {next : Builder} (fits : token.Narrow)
    (narrow : ∀ frame ∈ frames, frame.Narrow) (move : Move token frames next) : next.Narrow := by
  cases move with
  | openArray => exact List.forall_mem_cons.2 ⟨List.forall_mem_nil _, narrow⟩
  | openObject => exact List.forall_mem_cons.2 ⟨List.forall_mem_nil _, narrow⟩
  | scalar isScalar => exact narrow_deliver (narrow_of_scalar fits isScalar) narrow
  | close =>
    obtain ⟨held, outer⟩ := List.forall_mem_cons.1 narrow
    exact narrow_deliver (held.close _) outer
  | name =>
    obtain ⟨held, outer⟩ := List.forall_mem_cons.1 narrow
    exact List.forall_mem_cons.2 ⟨held, outer⟩
  | goOn => exact narrow

end Builder

/-- No number of a document that was read has more bits than a double. -/
theorem narrow_of_ofText? {text : List Char} {document : Document}
    (read : ofText? text = some document) : document.Narrow := by
  obtain ⟨tokens, scanned, built⟩ := Option.bind_eq_some_iff.1 read
  have narrow : ∀ token ∈ tokens, token.Narrow := Token.narrow_of_scan? scanned
  unfold ofTokens? at built
  split at built
  · next ran =>
    cases built
    have start : Builder.Narrow (.reading [] .value) := List.forall_mem_nil _
    exact Builder.run_of_moves (fun member => Builder.Narrow.move (narrow _ member)) start ran
  · cases built

/-- Free-form data keeps the numbers of the document. -/
theorem Narrow.numbers {document : Document} (narrow : document.Narrow) {value : Json}
    (read : document.toJson? = some value) : ∀ number ∈ value.numbers, number.Narrow := by
  induction narrow generalizing value with
  | null | boolean | string =>
    cases read
    exact List.forall_mem_nil _
  | number narrow =>
    cases read
    exact List.forall_mem_singleton.2 narrow
  | unreadable => cases read
  | array each induction =>
    obtain ⟨items, readItems, rfl⟩ := Option.map_eq_some_iff.1 read
    rw [itemsToJson?_eq_mapM] at readItems
    refine forall_numbers_array fun item member => ?_
    obtain ⟨held, inItems, readHeld⟩ := exists_of_mem_mapM readItems member
    exact induction held inItems readHeld
  | object each induction =>
    obtain ⟨pairs, readPairs, rfl⟩ := Option.map_eq_some_iff.1 read
    refine forall_numbers_object fun member inFields => ?_
    obtain ⟨held, inMembers, readHeld⟩ := exists_of_mem_ofList readPairs inFields
    exact induction (member.1, held) inMembers readHeld

end Document

end Json

end LlamaGateway
