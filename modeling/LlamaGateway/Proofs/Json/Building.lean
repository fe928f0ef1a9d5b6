import LlamaGateway.Json.Reader
import LlamaGateway.Proofs.Json.Scanning

/-!
# Documents of written values

What one token can do to a document that is being read is told move by move: open a container,
deliver a scalar, close the innermost container, name a member, or leave the frames as they are. The
tokens of a value make a document, which is the value's own if all its numbers read back and it does
not nest too deeply. A document that was read never nests deeper than that: a container beyond the
limit is closed as an unreadable part, so what a frame holds fits the levels that are left below it.
-/

namespace LlamaGateway

namespace Json

namespace Document

/-- What a token that starts no container stands for. -/
inductive Scalar : Token → Document → Prop
  | null : Scalar .null .null
  | boolean (value : Bool) : Scalar (.boolean value) (.boolean value)
  | number (value : Number) : Scalar (.number (some value)) (.number value)
  | string (value : String) : Scalar (.string (some value)) (.string value)
  | noNumber : Scalar (.number none) .unreadable
  | noString : Scalar (.string none) .unreadable

namespace Builder

/-- What one more token makes of the open frames. -/
inductive Move (token : Token) : List Frame → Builder → Prop where
  | openArray {frames : List Frame} : Move token frames (.reading (.array [] :: frames) .itemOrEnd)
  | openObject {frames : List Frame} :
    Move token frames (.reading (.object [] none :: frames) .keyOrEnd)
  | scalar {frames : List Frame} {document : Document} (isScalar : Scalar token document) :
    Move token frames (deliver document frames)
  | close {frame : Frame} {frames : List Frame} :
    Move token (frame :: frames) (deliver (frame.close (frames.length + 1)) frames)
  | name {before : List (Option String × Document)} {held key : Option String}
    {frames : List Frame} :
    Move token (.object before held :: frames) (.reading (.object before key :: frames) .colon)
  | goOn {frames : List Frame} {expectation : Expectation} :
    Move token frames (.reading frames expectation)

variable {frames : List Frame} {token : Token} {state next : Builder}

theorem move_of_startValue? (started : startValue? frames token = some state) :
    Move token frames state := by
  unfold startValue? at started
  split at started <;> cases started
  · exact .openArray
  · exact .openObject
  all_goals exact .scalar (by constructor)

theorem move_of_close? (closed : close? frames token = some state) : Move token frames state := by
  unfold close? at closed
  split at closed <;> cases closed
  · exact .close
  · exact .close

theorem move_of_key? (named : key? frames token = some state) : Move token frames state := by
  unfold key? at named
  split at named <;> cases named
  exact .name

theorem move_of_comma? (separated : comma? frames = some state) : Move token frames state := by
  unfold comma? at separated
  split at separated <;> cases separated
  · exact .goOn
  · exact .goOn

/-- Only a document that is being read takes one more token, and the token makes a move. -/
theorem exists_move_of_step? (stepped : state.step? token = some next) :
    ∃ frames expectation, state = .reading frames expectation ∧ Move token frames next := by
  cases state with
  | finished document => cases stepped
  | reading frames expectation =>
    refine ⟨frames, expectation, rfl, ?_⟩
    cases expectation with
    | value => exact move_of_startValue? stepped
    | itemOrEnd =>
      rw [step?, Option.orElse_eq_or] at stepped
      rcases Option.or_eq_some_iff.1 stepped with closed | ⟨-, started⟩
      · exact move_of_close? closed
      · exact move_of_startValue? started
    | keyOrEnd =>
      rw [step?, Option.orElse_eq_or] at stepped
      rcases Option.or_eq_some_iff.1 stepped with closed | ⟨-, named⟩
      · exact move_of_close? closed
      · exact move_of_key? named
    | key => exact move_of_key? stepped
    | colon =>
      simp only [step?] at stepped
      split at stepped <;> cases stepped
      exact .goOn
    | commaOrEnd =>
      simp only [step?] at stepped
      split at stepped
      · exact move_of_comma? stepped
      · exact move_of_close? stepped

/-- What every move keeps holds at the end of a run. -/
theorem run_of_moves {holds : Builder → Prop} {state final : Builder} {tokens : List Token}
    (moves : ∀ {token frames expectation next}, token ∈ tokens →
      holds (.reading frames expectation) → Move token frames next → holds next)
    (start : holds state) (ran : state.run? tokens = some final) : holds final := by
  induction tokens generalizing state with
  | nil =>
    cases ran
    exact start
  | cons token tokens induction =>
    obtain ⟨next, stepped, rest⟩ := Option.bind_eq_some_iff.1 ran
    obtain ⟨frames, expectation, rfl, move⟩ := exists_move_of_step? stepped
    have after : holds next := moves List.mem_cons_self start move
    exact induction (fun member => moves (List.mem_cons_of_mem token member)) after rest

end Builder

end Document

end Json

/-- Each result comes from an item of the list. -/
theorem exists_of_mem_mapM {α β : Type} {read : α → Option β} {list : List α} {results : List β}
    (all : list.mapM read = some results) {result : β} (member : result ∈ results) :
    ∃ item ∈ list, read item = some result := by
  induction list generalizing results with
  | nil =>
    cases all
    cases member
  | cons item list induction =>
    rw [List.mapM_cons] at all
    obtain ⟨first, readFirst, rest⟩ := Option.bind_eq_some_iff.1 all
    obtain ⟨later, readLater, same⟩ := Option.bind_eq_some_iff.1 rest
    cases same
    rcases List.mem_cons.1 member with rfl | inLater
    · exact ⟨item, List.mem_cons_self, readFirst⟩
    · obtain ⟨found, inList, readFound⟩ := induction readLater inLater
      exact ⟨found, List.mem_cons_of_mem item inList, readFound⟩

theorem mapM_map_eq {α β γ : Type} {read : α → Option β} {write : γ → α} {result : γ → β}
    {list : List γ} (each : ∀ item ∈ list, read (write item) = some (result item)) :
    (list.map write).mapM read = some (list.map result) := by
  induction list with
  | nil => rfl
  | cons item list induction =>
    obtain ⟨first, later⟩ := List.forall_mem_cons.1 each
    rw [List.map_cons, List.mapM_cons, first, induction later]
    rfl

/-- Results that are read from what they are written as are read from the written list. -/
theorem mapM_map_of_forall {α β : Type} {read : α → Option β} {write : β → α} {results : List β}
    (again : ∀ result ∈ results, read (write result) = some result) :
    (results.map write).mapM read = some results := by
  have each : ∀ result ∈ results, read (write result) = some (id result) := again
  rw [mapM_map_eq each, List.map_id]

namespace Json

namespace Document

mutual

/-- How deeply containers are nested. -/
def depth : Document → Nat
  | .null | .boolean _ | .number _ | .string _ | .unreadable => 0
  | .array items => itemsDepth items + 1
  | .object members => membersDepth members + 1

/-- The greatest depth of an item. -/
def itemsDepth : List Document → Nat
  | [] => 0
  | item :: rest => max (depth item) (itemsDepth rest)

/-- The greatest depth of a member's value. -/
def membersDepth : List (String × Document) → Nat
  | [] => 0
  | (_, value) :: rest => max (depth value) (membersDepth rest)

end

theorem itemsDepth_le_iff {items : List Document} {bound : Nat} :
    itemsDepth items ≤ bound ↔ ∀ item ∈ items, item.depth ≤ bound := by
  induction items with
  | nil => simp [itemsDepth]
  | cons item items induction => simp only [itemsDepth, Nat.max_le, induction, List.forall_mem_cons]

theorem membersDepth_le_iff {members : List (String × Document)} {bound : Nat} :
    membersDepth members ≤ bound ↔ ∀ member ∈ members, member.2.depth ≤ bound := by
  induction members with
  | nil => simp [membersDepth]
  | cons member members induction =>
    obtain ⟨key, value⟩ := member
    simp only [membersDepth, Nat.max_le, induction, List.forall_mem_cons]

theorem depth_object_singleton (key : String) (value : Document) :
    (object [(key, value)]).depth = value.depth + 1 := by
  rw [depth, membersDepth, membersDepth, Nat.max_zero]

/-- The items of an array or the values of an object's members. -/
def parts : Document → List Document
  | .array items => items
  | .object members => members.map Prod.snd
  | .null | .boolean _ | .number _ | .string _ | .unreadable => []

theorem depth_lt_of_mem_parts {document part : Document} (member : part ∈ document.parts) :
    part.depth < document.depth := by
  cases document with
  | array items => exact Nat.lt_succ_of_le (itemsDepth_le_iff.1 (Nat.le_refl _) part member)
  | object members =>
    obtain ⟨held, inMembers, rfl⟩ := List.mem_map.1 member
    exact Nat.lt_succ_of_le (membersDepth_le_iff.1 (Nat.le_refl _) held inMembers)
  | null | boolean | number | string | unreadable => cases member

/-- What the frame holds nests at most so deeply. -/
def Frame.Within (bound : Nat) : Frame → Prop
  | .array before => ∀ item ∈ before, item.depth ≤ bound
  | .object before _ => ∀ member ∈ before, member.2.depth ≤ bound

/-- A closed container is one level deeper than what its frame holds, up to the limit. -/
theorem Frame.depth_close {frame : Frame} {level : Nat}
    (within : frame.Within (maxDepth - (level + 1))) :
    (frame.close (level + 1)).depth ≤ maxDepth - level := by
  unfold Frame.close
  split
  · exact Nat.zero_le _
  · next fits =>
    cases frame with
    | array before =>
      have items : itemsDepth before.reverse ≤ maxDepth - (level + 1) :=
        itemsDepth_le_iff.2 fun item member => within item (List.mem_reverse.1 member)
      simp only [depth]
      omega
    | object before key =>
      simp only
      split
      · next members read =>
        have values : membersDepth members ≤ maxDepth - (level + 1) := by
          refine membersDepth_le_iff.2 fun member inMembers => ?_
          obtain ⟨held, inBefore, named⟩ := exists_of_mem_mapM read inMembers
          obtain ⟨key, -, rfl⟩ := Option.map_eq_some_iff.1 named
          exact within held (List.mem_reverse.1 inBefore)
        simp only [depth]
        omega
      · exact Nat.zero_le _

/-- Members as a frame holds them, each key read. -/
def keyed (members : List (String × Document)) : List (Option String × Document) :=
  members.map fun member => (some member.1, member.2)

theorem Frame.close_array (level : Nat) (items : List Document) :
    (Frame.array items.reverse).close level =
      if maxDepth < level then .unreadable else .array items := by
  rw [Frame.close, List.reverse_reverse]

theorem Frame.close_object (level : Nat) (members : List (String × Document))
    (key : Option String) :
    (Frame.object (keyed members).reverse key).close level =
      if maxDepth < level then .unreadable else .object members := by
  have named : ((keyed members).mapM fun member => member.1.map fun key => (key, member.2)) =
      some members := mapM_map_of_forall fun _ _ => rfl
  simp only [Frame.close, List.reverse_reverse]
  rw [named]

end Document

/-- What a written number is read as. -/
def Number.reread (number : Number) : Document :=
  match number.token with
  | .number (some value) => .number value
  | .number none => .unreadable
  | _ => .null

mutual

/-- What a written value is read as inside so many containers. -/
def reread (level : Nat) : Json → Document
  | .null => .null
  | .boolean value => .boolean value
  | .number value => value.reread
  | .string value => .string value
  | .array items =>
    if Document.maxDepth < level + 1 then .unreadable else .array (rereadItems (level + 1) items)
  | .object members =>
    if Document.maxDepth < level + 1 then .unreadable
    else .object (rereadMembers (level + 1) members)

/-- What written items are read as, in order. -/
def rereadItems (level : Nat) : List Json → List Document
  | [] => []
  | item :: rest => reread level item :: rereadItems level rest

/-- What written members are read as, in order. -/
def rereadMembers (level : Nat) : List (String × Json) → List (String × Document)
  | [] => []
  | (key, value) :: rest => (key, reread level value) :: rereadMembers level rest

end

theorem rereadItems_eq_map (level : Nat) (items : List Json) :
    rereadItems level items = items.map (reread level) := by
  induction items with
  | nil => rfl
  | cons item items induction => rw [rereadItems, induction, List.map_cons]

theorem rereadMembers_eq_map (level : Nat) (members : List (String × Json)) :
    rereadMembers level members = members.map fun member => (member.1, member.2.reread level) := by
  induction members with
  | nil => rfl
  | cons member members induction =>
    obtain ⟨key, value⟩ := member
    rw [rereadMembers, induction, List.map_cons]

theorem reread_array {level : Nat} (fits : level < Document.maxDepth) (items : List Json) :
    (array items).reread level = .array (items.map (reread (level + 1))) := by
  rw [reread, if_neg (Nat.not_lt.2 fits), rereadItems_eq_map]

theorem reread_ofPairs {level : Nat} (fits : level < Document.maxDepth)
    (pairs : List (String × Json)) :
    (ofPairs pairs).reread level =
      .object ((Fields.ofList pairs).map fun member =>
        (member.1, member.2.reread (level + 1))) := by
  rw [ofPairs, reread, if_neg (Nat.not_lt.2 fits), rereadMembers_eq_map]

theorem Number.token_eq_number_or_null (number : Number) :
    (∃ value, number.token = .number value) ∨ number.token = .null := by
  rw [token]
  cases Numeral.scan? number.write with
  | none => exact .inr rfl
  | some scanned => exact .inl ⟨scanned.1.number?, rfl⟩

theorem Number.ReadsBack.reread_eq {number : Number} (readsBack : number.ReadsBack) :
    number.reread = .number number := by
  rw [reread, readsBack.token_eq]

mutual

/-- A value whose numbers read back is read as its own document if the levels suffice. -/
theorem reread_eq_toDocument : ∀ (value : Json) (level : Nat),
    (∀ number ∈ value.numbers, number.ReadsBack) →
      value.toDocument.depth + level ≤ Document.maxDepth → value.reread level = value.toDocument
  | .null, _, _, _ | .boolean _, _, _, _ | .string _, _, _, _ => rfl
  | .number value, _, readsBack, _ => (readsBack value (List.mem_singleton.2 rfl)).reread_eq
  | .array items, level, readsBack, shallow => by
    simp only [toDocument, Document.depth] at shallow
    have fits : ¬ Document.maxDepth < level + 1 := by omega
    rw [reread, if_neg fits, toDocument,
      rereadItems_eq_itemsToDocument items (level + 1) readsBack (by omega)]
  | .object members, level, readsBack, shallow => by
    simp only [toDocument, Document.depth] at shallow
    have fits : ¬ Document.maxDepth < level + 1 := by omega
    rw [reread, if_neg fits, toDocument,
      rereadMembers_eq_membersToDocument members (level + 1) readsBack (by omega)]

theorem rereadItems_eq_itemsToDocument : ∀ (items : List Json) (level : Nat),
    (∀ number ∈ itemNumbers items, number.ReadsBack) →
      Document.itemsDepth (itemsToDocument items) + level ≤ Document.maxDepth →
        rereadItems level items = itemsToDocument items
  | [], _, _, _ => rfl
  | item :: items, level, readsBack, shallow => by
    obtain ⟨first, later⟩ := List.forall_mem_append.1 readsBack
    simp only [itemsToDocument, Document.itemsDepth] at shallow
    rw [rereadItems, itemsToDocument, reread_eq_toDocument item level first (by omega),
      rereadItems_eq_itemsToDocument items level later (by omega)]

theorem rereadMembers_eq_membersToDocument : ∀ (members : List (String × Json)) (level : Nat),
    (∀ number ∈ memberNumbers members, number.ReadsBack) →
      Document.membersDepth (membersToDocument members) + level ≤ Document.maxDepth →
        rereadMembers level members = membersToDocument members
  | [], _, _, _ => rfl
  | (key, value) :: members, level, readsBack, shallow => by
    obtain ⟨first, later⟩ := List.forall_mem_append.1 readsBack
    simp only [membersToDocument, Document.membersDepth] at shallow
    rw [rereadMembers, membersToDocument, reread_eq_toDocument value level first (by omega),
      rereadMembers_eq_membersToDocument members level later (by omega)]

end

namespace Document

namespace Builder

variable {frames : List Frame} {more : List Token}

/-- A written number is delivered as what it is read as. -/
theorem startValue?_token (number : Number) :
    startValue? frames number.token = some (deliver number.reread frames) := by
  rw [Number.reread]
  rcases number.token_eq_number_or_null with ⟨_ | value, isToken⟩ | isToken <;>
    rw [isToken] <;> rfl

/-- A token that starts a value does so also where an array might end. -/
theorem run?_itemOrEnd (value : Json) :
    run? (.reading frames .itemOrEnd) (value.tokens ++ more) =
      run? (.reading frames .value) (value.tokens ++ more) := by
  have noEnd (token : Token) (other : token ≠ .closeBracket) (brace : token ≠ .closeBrace) :
      close? frames token = none := by
    rcases frames with _ | ⟨_ | _, frames⟩ <;> cases token <;> simp_all [close?]
  have noEndNumber (number : Number) : close? frames number.token = none := by
    rcases number.token_eq_number_or_null with ⟨value, isToken⟩ | isToken <;>
      exact noEnd _ (by simp [isToken]) (by simp [isToken])
  cases value <;> simp [tokens, run?, step?, noEnd, noEndNumber]

/-- The end of an array delivers its items. -/
theorem run?_closeBracket (items : List Document) :
    run? (.reading (.array items.reverse :: frames) .commaOrEnd) (.closeBracket :: more) =
      run? (deliver (if maxDepth < frames.length + 1 then .unreadable else .array items) frames)
        more := by
  have closed := Frame.close_array (frames.length + 1) items
  simp [run?, step?, close?, closed]

/-- The end of an object delivers its members. -/
theorem run?_closeBrace (members : List (String × Document)) :
    run? (.reading (.object (keyed members).reverse none :: frames) .commaOrEnd)
        (.closeBrace :: more) =
      run? (deliver (if maxDepth < frames.length + 1 then .unreadable else .object members) frames)
        more := by
  have closed := Frame.close_object (frames.length + 1) members none
  simp [run?, step?, close?, closed]

-- By induction on the value, with the innermost frame given by the items or members that are done.
mutual

/-- The tokens of a value deliver what it is read as. -/
theorem run?_tokens : ∀ (value : Json) (frames : List Frame) (more : List Token),
    run? (.reading frames .value) (value.tokens ++ more) =
      run? (deliver (value.reread frames.length) frames) more
  | .null, _, _ | .boolean _, _, _ | .string _, _, _ => rfl
  | .number value, frames, more => by
    have started : startValue? frames value.token = some (deliver value.reread frames) :=
      startValue?_token value
    simp [tokens, reread, run?, step?, started]
  | .array [], frames, more => run?_closeBracket []
  | .array (item :: items), frames, more => by
    have first := run?_tokens item (.array [] :: frames) (moreItemTokens items ++ more)
    have later := run?_moreItemTokens items [item.reread (frames.length + 1)] frames more
    rw [← run?_itemOrEnd] at first
    simpa [tokens, itemTokens, run?, step?, startValue?, reread, rereadItems] using
      first.trans later
  | .object [], frames, more => run?_closeBrace []
  | .object ((key, value) :: members), frames, more => by
    have first := run?_tokens value (.object [] (some key) :: frames)
      (moreMemberTokens members ++ more)
    have later := run?_moreMemberTokens members [(key, value.reread (frames.length + 1))] frames
      more
    simpa [tokens, memberTokens, run?, step?, startValue?, close?, key?, reread,
      rereadMembers] using first.trans later

theorem run?_moreItemTokens : ∀ (items : List Json) (before : List Document) (frames : List Frame)
    (more : List Token),
    run? (.reading (.array before.reverse :: frames) .commaOrEnd) (moreItemTokens items ++ more) =
      run? (deliver (if maxDepth < frames.length + 1 then .unreadable
        else .array (before ++ rereadItems (frames.length + 1) items)) frames) more
  | [], before, frames, more => by
    rw [rereadItems, List.append_nil]
    exact run?_closeBracket before
  | item :: items, before, frames, more => by
    have first := run?_tokens item (.array before.reverse :: frames)
      (moreItemTokens items ++ more)
    have later := run?_moreItemTokens items (before ++ [item.reread (frames.length + 1)]) frames
      more
    rw [List.reverse_append] at later
    simpa [moreItemTokens, run?, step?, comma?, rereadItems] using first.trans later

theorem run?_moreMemberTokens : ∀ (members : List (String × Json))
    (before : List (String × Document)) (frames : List Frame) (more : List Token),
    run? (.reading (.object (keyed before).reverse none :: frames) .commaOrEnd)
        (moreMemberTokens members ++ more) =
      run? (deliver (if maxDepth < frames.length + 1 then .unreadable
        else .object (before ++ rereadMembers (frames.length + 1) members)) frames) more
  | [], before, frames, more => by
    rw [rereadMembers, List.append_nil]
    exact run?_closeBrace before
  | (key, value) :: members, before, frames, more => by
    have first := run?_tokens value (.object (keyed before).reverse (some key) :: frames)
      (moreMemberTokens members ++ more)
    have later := run?_moreMemberTokens members
      (before ++ [(key, value.reread (frames.length + 1))]) frames more
    rw [keyed, List.map_append, List.reverse_append, ← keyed] at later
    simpa [moreMemberTokens, run?, step?, comma?, key?, rereadMembers] using first.trans later

end

/-- What each frame holds fits the levels that are left below it. -/
def FramesWithin : List Frame → Prop
  | [] => True
  | frame :: frames => frame.Within (maxDepth - (frames.length + 1)) ∧ FramesWithin frames

/-- The document so far does not nest beyond the limit. -/
def Shallow : Builder → Prop
  | .finished document => document.depth ≤ maxDepth
  | .reading frames _ => FramesWithin frames

theorem shallow_deliver {document : Document} (fits : document.depth ≤ maxDepth - frames.length)
    (within : FramesWithin frames) : Shallow (deliver document frames) := by
  cases frames with
  | nil => exact fits
  | cons frame frames =>
    obtain ⟨held, outer⟩ := within
    cases frame with
    | array before => exact ⟨List.forall_mem_cons.2 ⟨fits, held⟩, outer⟩
    | object before key => exact ⟨List.forall_mem_cons.2 ⟨fits, held⟩, outer⟩

/-- Every move keeps within the limit. -/
theorem Shallow.move {token : Token} {next : Builder} (within : FramesWithin frames)
    (move : Move token frames next) : Shallow next := by
  cases move with
  | openArray => exact ⟨List.forall_mem_nil _, within⟩
  | openObject => exact ⟨List.forall_mem_nil _, within⟩
  | @scalar _ document isScalar =>
    have flat : document.depth = 0 := by cases isScalar <;> rfl
    exact shallow_deliver (by omega) within
  | close => exact shallow_deliver (Frame.depth_close within.1) within.2
  | name => exact within
  | goOn => exact within

end Builder

/-- A document that was read does not nest beyond the limit. -/
theorem depth_of_ofText? {text : List Char} {document : Document}
    (read : ofText? text = some document) : document.depth ≤ maxDepth := by
  obtain ⟨tokens, -, built⟩ := Option.bind_eq_some_iff.1 read
  unfold ofTokens? at built
  split at built
  · next ran =>
    cases built
    have start : Builder.Shallow (.reading [] .value) := trivial
    exact Builder.run_of_moves (fun _ => Builder.Shallow.move) start ran
  · cases built

/-- The tokens of a value are read as one document. -/
theorem ofTokens?_tokens (value : Json) : ofTokens? value.tokens = some (value.reread 0) := by
  have ran := Builder.run?_tokens value [] []
  rw [List.append_nil] at ran
  rw [ofTokens?, ran]
  rfl

/-- The pretty text of a value is read as one document. -/
theorem ofText?_pretty {value : Json} (legible : ∀ number ∈ value.numbers, number.Legible)
    (level : Nat) : ofText? (value.pretty level) = some (value.reread 0) := by
  rw [ofText?, Json.ofText?_pretty legible, Option.bind_some, ofTokens?_tokens]

/-- So is its compact text. -/
theorem ofText?_compact_of_legible {value : Json}
    (legible : ∀ number ∈ value.numbers, number.Legible) :
    ofText? value.compact = some (value.reread 0) := by
  rw [ofText?, Json.ofText?_compact legible, Option.bind_some, ofTokens?_tokens]

/-- The text of a value that does not nest too deeply is read as the value's document. -/
theorem ofText?_compact {value : Json} (readsBack : ∀ number ∈ value.numbers, number.ReadsBack)
    (shallow : value.toDocument.depth ≤ maxDepth) :
    ofText? value.compact = some value.toDocument := by
  rw [ofText?_compact_of_legible fun number member => (readsBack number member).legible,
    reread_eq_toDocument value 0 readsBack shallow]

end Document

end Json

end LlamaGateway
