import LlamaGateway.Prompt.Dialog
import LlamaGateway.Proofs.Json.NumberText
import LlamaGateway.Proofs.Text.FirstPlace

/-!
# Unambiguous call lists

In a call list strings stand between quotes as they are. Where nothing in them could be taken for
such a quote, the literals are a prefix code: two of them in front of something that is no digit are
equal only as wholes. So the written arguments of a call tell the arguments.
-/

namespace LlamaGateway

open Json.Numeral (NoDigit)

namespace Text

/-- Texts around the first occurrence of a character are told by the whole. -/
theorem append_cons_inj_of_fresh {c : Char} {front front' back back' : List Char}
    (fresh : c ∉ front) (fresh' : c ∉ front') (same : front ++ c :: back = front' ++ c :: back') :
    front = front' ∧ back = back' := by
  have parts : some (front, back) = some (front', back') := by
    rw [← breakOn?_singleton_append fresh, same, breakOn?_singleton_append fresh']
  simpa using parts

variable {α : Type}

/-- No other item is written in the same way, whatever follows that is no digit. -/
def Separable (write : α → List Char) (good : α → Prop) (item : α) : Prop :=
  ∀ other rest behind, good other → NoDigit rest → NoDigit behind →
    write item ++ rest = write other ++ behind → item = other ∧ rest = behind

/-- What stands behind an item of a joined list. -/
def behindItem (write : α → List Char) (ending : List Char) : List α → List Char
  | [] => ending
  | items => ',' :: ' ' :: (joinWith [',', ' '] (items.map write) ++ ending)

variable {write : α → List Char} {good : α → Prop} {ending ending' : List Char}

theorem joinWith_cons_append (item : α) (items : List α) :
    joinWith [',', ' '] ((item :: items).map write) ++ ending =
      write item ++ behindItem write ending items := by
  cases items with
  | nil => rfl
  | cons next items => simp [joinWith, behindItem]

/-- A text that neither starts like an item nor goes on with one ends a joined list. -/
structure Ends (write : α → List Char) (good : α → Prop) (ending : List Char) : Prop where
  /-- No digit follows. -/
  noDigit : NoDigit ending
  /-- No comma follows. -/
  noComma : ending.head? ≠ some ','
  /-- No item follows. -/
  noItem {item : α} (isGood : good item) (rest : List Char) : write item ++ rest ≠ ending

theorem Ends.noDigit_behindItem (ends : Ends write good ending) (items : List α) :
    NoDigit (behindItem write ending items) := by
  cases items with
  | nil => exact ends.noDigit
  | cons item items =>
    intro c first
    cases first
    rfl

/-- Lists of separable items are told by their joined texts. -/
theorem eq_of_joinWith_eq {items others : List α} (ends : Ends write good ending)
    (ends' : Ends write good ending') (isGood : ∀ item ∈ items, good item)
    (isGood' : ∀ other ∈ others, good other)
    (separable : ∀ item ∈ items, Separable write good item)
    (same : joinWith [',', ' '] (items.map write) ++ ending =
      joinWith [',', ' '] (others.map write) ++ ending') :
    items = others ∧ ending = ending' := by
  induction items generalizing others with
  | nil =>
    cases others with
    | nil => exact ⟨rfl, same⟩
    | cons other others =>
      rw [joinWith_cons_append] at same
      exact absurd same.symm (ends.noItem (List.forall_mem_cons.1 isGood').1 _)
  | cons item items induction =>
    obtain ⟨first, later⟩ := List.forall_mem_cons.1 isGood
    obtain ⟨separableFirst, separableLater⟩ := List.forall_mem_cons.1 separable
    cases others with
    | nil =>
      rw [joinWith_cons_append] at same
      exact absurd same (ends'.noItem first _)
    | cons other others =>
      obtain ⟨first', later'⟩ := List.forall_mem_cons.1 isGood'
      rw [joinWith_cons_append, joinWith_cons_append] at same
      obtain ⟨rfl, behind⟩ := separableFirst other _ _ first' (ends.noDigit_behindItem items)
        (ends'.noDigit_behindItem others) same
      -- Both lists end here, or both go on behind a comma.
      cases items with
      | nil =>
        cases others with
        | nil => exact ⟨rfl, behind⟩
        | cons next' others => exact absurd (congrArg List.head? behind) ends.noComma
      | cons next items =>
        cases others with
        | nil => exact absurd (congrArg List.head? behind.symm) ends'.noComma
        | cons next' others =>
          have rest := (List.cons.inj (List.cons.inj behind).2).2
          obtain ⟨same, ended⟩ := induction later later' separableLater rest
          exact ⟨by rw [same], ended⟩

end Text

namespace Json

open Text (Separable Ends joinWith)

/-- Integers are the only numbers of a value, and its strings and keys hold no quote. -/
inductive Plain : Json → Prop
  | null : Plain .null
  | boolean (value : Bool) : Plain (.boolean value)
  | integer (value : Int) : Plain (.number (.integer value))
  | string {text : String} (unquoted : '"' ∉ text.toList) : Plain (.string text)
  | array {items : List Json} (each : ∀ item ∈ items, Plain item) : Plain (.array items)
  | object {members : List (String × Json)}
    (keys : ∀ member ∈ members, '"' ∉ member.1.toList)
    (each : ∀ member ∈ members, Plain member.2) : Plain (.object members)

/-- What the first character of a literal tells. -/
inductive LiteralKind where
  | nothing
  | truth (value : Bool)
  | number
  | text
  | list
  | dictionary

/-- The kind of the literals that start with a character. -/
def LiteralKind.ofStart? (c : Char) : Option LiteralKind :=
  if c = '-' ∨ c.isDigit then some .number
  else
    match c with
    | 'N' => some .nothing
    | 'T' => some (.truth true)
    | 'F' => some (.truth false)
    | '"' => some .text
    | '[' => some .list
    | '{' => some .dictionary
    | _ => none

/-- The kind of a value's literal. -/
def literalKind : Json → LiteralKind
  | .null => .nothing
  | .boolean value => .truth value
  | .number _ => .number
  | .string _ => .text
  | .array _ => .list
  | .object _ => .dictionary

theorem exists_start_writeInteger (value : Int) :
    ∃ c text, writeInteger value = c :: text ∧ LiteralKind.ofStart? c = some .number := by
  rw [writeInteger]
  split
  · exact ⟨'-', _, rfl, rfl⟩
  · obtain ⟨nonempty, isDigit⟩ := Numeral.digits_toDigits value.natAbs
    obtain ⟨c, text, digits⟩ := List.exists_cons_of_ne_nil nonempty
    rw [digits] at isDigit ⊢
    exact ⟨c, text, rfl, if_pos (.inr (List.forall_mem_cons.1 isDigit).1)⟩

theorem Plain.exists_start {value : Json} (plain : value.Plain) : ∃ c text,
    value.callLiteral = c :: text ∧ LiteralKind.ofStart? c = some value.literalKind := by
  cases plain with
  | null => exact ⟨'N', _, rfl, rfl⟩
  | boolean value => cases value <;> exact ⟨_, _, rfl, rfl⟩
  | integer value => exact exists_start_writeInteger value
  | string => exact ⟨'"', _, rfl, rfl⟩
  | array => exact ⟨'[', _, rfl, rfl⟩
  | object => exact ⟨'{', _, rfl, rfl⟩

/-- Literals that start texts alike are of one kind. -/
theorem Plain.literalKind_eq {value other : Json} {rest behind : List Char} (plain : value.Plain)
    (plain' : other.Plain) (same : value.callLiteral ++ rest = other.callLiteral ++ behind) :
    value.literalKind = other.literalKind := by
  obtain ⟨c, text, starts, kind⟩ := plain.exists_start
  obtain ⟨c', text', starts', kind'⟩ := plain'.exists_start
  rw [starts, starts'] at same
  obtain rfl : c = c' := (List.cons.inj same).1
  exact Option.some.inj (kind.symm.trans kind')

theorem callLiteralItems_eq (items : List Json) :
    callLiteralItems items = joinWith [',', ' '] (items.map callLiteral) ++ [']'] := by
  match items with
  | [] => rfl
  | [item] => rfl
  | item :: next :: rest =>
    rw [callLiteralItems, callLiteralItems_eq (next :: rest)]
    · simp [joinWith]
    · nofun

/-- A value behind its key, which ends with a character. -/
def keyedLiteral (lead : List Char) (sign : Char) (gap : List Char) (member : String × Json) :
    List Char :=
  lead ++ member.1.toList ++ sign :: (gap ++ member.2.callLiteral)

theorem callLiteralMembers_eq (members : List (String × Json)) :
    callLiteralMembers members =
      joinWith [',', ' '] (members.map (keyedLiteral ['"'] '"' [':', ' '])) ++ ['}'] := by
  match members with
  | [] => rfl
  | [(key, value)] => simp [callLiteralMembers, joinWith, keyedLiteral]
  | (key, value) :: next :: rest =>
    rw [callLiteralMembers, callLiteralMembers_eq (next :: rest)]
    · simp [joinWith, keyedLiteral]
    · nofun

theorem callLiteral_array_append (items : List Json) (rest : List Char) :
    (array items).callLiteral ++ rest =
      '[' :: (joinWith [',', ' '] (items.map callLiteral) ++ ']' :: rest) := by
  simp [callLiteral, callLiteralItems_eq]

theorem callLiteral_object_append (members : List (String × Json)) (rest : List Char) :
    (object members).callLiteral ++ rest =
      '{' :: (joinWith [',', ' '] (members.map (keyedLiteral ['"'] '"' [':', ' '])) ++
        '}' :: rest) := by
  simp [callLiteral, callLiteralMembers_eq]

theorem separable_string {text : String} (unquoted : '"' ∉ text.toList) :
    Separable callLiteral Plain (.string text) := by
  intro other rest behind plain' _ _ same
  have kind := (Plain.string unquoted).literalKind_eq plain' same
  cases plain' with
  | @string text' unquoted' =>
    have between : text.toList ++ '"' :: rest = text'.toList ++ '"' :: behind := by
      simpa [callLiteral] using same
    obtain ⟨chars, ended⟩ := Text.append_cons_inj_of_fresh unquoted unquoted' between
    exact ⟨congrArg Json.string (String.toList_injective chars), ended⟩
  | null | boolean | integer | array | object => cases kind

/-- The decimal digits of a natural end where no digit follows. -/
theorem toDigits_append_inj {value other : Nat} {rest behind : List Char} (ended : NoDigit rest)
    (ended' : NoDigit behind)
    (same : Nat.toDigits 10 value ++ rest = Nat.toDigits 10 other ++ behind) :
    value = other ∧ rest = behind := by
  have spans : (Nat.toDigits 10 value, rest) = (Nat.toDigits 10 other, behind) := by
    rw [← (Numeral.digits_toDigits value).spanDigits ended, same,
      (Numeral.digits_toDigits other).spanDigits ended']
  obtain ⟨digits, rests⟩ := Prod.mk.inj spans
  have values := congrArg (Nat.ofDigitChars 10 · 0) digits
  simp only [Nat.ofDigitChars_ten_toDigits] at values
  exact ⟨values, rests⟩

theorem toDigits_append_ne_minus (value : Nat) (rest behind : List Char) :
    Nat.toDigits 10 value ++ rest ≠ '-' :: behind := by
  obtain ⟨nonempty, isDigit⟩ := Numeral.digits_toDigits value
  obtain ⟨c, text, digits⟩ := List.exists_cons_of_ne_nil nonempty
  rw [digits] at isDigit ⊢
  intro same
  obtain rfl : c = '-' := (List.cons.inj same).1
  cases isDigit '-' List.mem_cons_self

theorem writeInteger_append_inj {value other : Int} {rest behind : List Char}
    (ended : NoDigit rest) (ended' : NoDigit behind)
    (same : writeInteger value ++ rest = writeInteger other ++ behind) :
    value = other ∧ rest = behind := by
  rw [writeInteger, writeInteger] at same
  by_cases below : value < 0
  · by_cases below' : other < 0
    · rw [if_pos below, if_pos below'] at same
      obtain ⟨absolute, rests⟩ := toDigits_append_inj ended ended' (List.cons.inj same).2
      exact ⟨by omega, rests⟩
    · rw [if_pos below, if_neg below'] at same
      exact absurd same.symm (toDigits_append_ne_minus _ _ _)
  · by_cases below' : other < 0
    · rw [if_neg below, if_pos below'] at same
      exact absurd same (toDigits_append_ne_minus _ _ _)
    · rw [if_neg below, if_neg below'] at same
      obtain ⟨absolute, rests⟩ := toDigits_append_inj ended ended' same
      exact ⟨by omega, rests⟩

theorem separable_integer (value : Int) :
    Separable callLiteral Plain (.number (.integer value)) := by
  intro other rest behind plain' ended ended' same
  have kind := (Plain.integer value).literalKind_eq plain' same
  cases plain' with
  | integer value' =>
    obtain ⟨rfl, rests⟩ := writeInteger_append_inj ended ended' same
    exact ⟨rfl, rests⟩
  | null | boolean | string | array | object => cases kind

/-- The key of a member ends at its sign, and its value is told by what follows. -/
theorem separable_keyedLiteral (lead : List Char) {sign : Char} (gap : List Char)
    {member : String × Json} (fresh : sign ∉ member.1.toList)
    (separable : Separable callLiteral Plain member.2) :
    Separable (keyedLiteral lead sign gap)
      (fun other => sign ∉ other.1.toList ∧ other.2.Plain) member := by
  rintro other rest behind ⟨fresh', plain'⟩ ended ended' same
  simp only [keyedLiteral, List.append_assoc, List.cons_append, List.append_cancel_left_eq] at same
  obtain ⟨keys, values⟩ := Text.append_cons_inj_of_fresh fresh fresh' same
  obtain ⟨value, rests⟩ := separable other.2 rest behind plain' ended ended'
    (List.append_cancel_left values)
  exact ⟨Prod.ext (String.toList_injective keys) value, rests⟩

theorem ends_items (rest : List Char) : Ends callLiteral Plain (']' :: rest) where
  noDigit := by
    rintro c ⟨⟩
    rfl
  noComma := nofun
  noItem plain more same := by
    obtain ⟨c, text, starts, kind⟩ := plain.exists_start
    rw [starts] at same
    obtain rfl : c = ']' := (List.cons.inj same).1
    cases kind

theorem ends_members (good : String × Json → Prop) (rest : List Char) :
    Ends (keyedLiteral ['"'] '"' [':', ' ']) good ('}' :: rest) where
  noDigit := by
    rintro c ⟨⟩
    rfl
  noComma := nofun
  noItem _ _ := nofun

/-- The literal of a plain value is told apart from all others by what follows it. -/
theorem Plain.separable {value : Json} (plain : value.Plain) :
    Separable callLiteral Plain value := by
  induction plain with
  | null =>
    intro other rest behind plain' _ _ same
    have kind := Plain.null.literalKind_eq plain' same
    cases plain' with
    | null => exact ⟨rfl, List.append_cancel_left same⟩
    | boolean | integer | string | array | object => cases kind
  | boolean value =>
    intro other rest behind plain' _ _ same
    have kind := (Plain.boolean value).literalKind_eq plain' same
    cases plain' with
    | boolean value' =>
      obtain rfl : value = value' := by injection kind
      exact ⟨rfl, List.append_cancel_left same⟩
    | null | integer | string | array | object => cases kind
  | integer value => exact separable_integer value
  | string unquoted => exact separable_string unquoted
  | @array items each separable =>
    intro other rest behind plain' _ _ same
    have kind := (Plain.array each).literalKind_eq plain' same
    cases plain' with
    | @array items' each' =>
      rw [callLiteral_array_append, callLiteral_array_append] at same
      obtain ⟨rfl, rests⟩ := Text.eq_of_joinWith_eq (ends_items rest) (ends_items behind) each
        each' separable (List.cons.inj same).2
      exact ⟨rfl, (List.cons.inj rests).2⟩
    | null | boolean | integer | string | object => cases kind
  | @object members keys each separable =>
    intro other rest behind plain' _ _ same
    have kind := (Plain.object keys each).literalKind_eq plain' same
    cases plain' with
    | @object members' keys' each' =>
      rw [callLiteral_object_append, callLiteral_object_append] at same
      have separableMembers : ∀ member ∈ members, Separable (keyedLiteral ['"'] '"' [':', ' '])
          (fun other => '"' ∉ other.1.toList ∧ other.2.Plain) member := fun member inMembers =>
        separable_keyedLiteral ['"'] [':', ' '] (keys member inMembers)
          (separable member inMembers)
      obtain ⟨rfl, rests⟩ := Text.eq_of_joinWith_eq (ends_members _ rest) (ends_members _ behind)
        (fun member inMembers => ⟨keys member inMembers, each member inMembers⟩)
        (fun member inMembers => ⟨keys' member inMembers, each' member inMembers⟩)
        separableMembers (List.cons.inj same).2
      exact ⟨rfl, (List.cons.inj rests).2⟩
    | null | boolean | integer | string | array => cases kind

end Json

/-- Plain values under keys without an equals sign. -/
structure PlainArguments (arguments : Json.Fields) : Prop where
  /-- No key holds the sign that ends it. -/
  keys : ∀ member ∈ arguments, '=' ∉ member.1.toList
  /-- The values are plain. -/
  values : ∀ member ∈ arguments, member.2.Plain

namespace ToolCall

theorem encode_pythonList (callId name : String) (arguments : Json.Fields) :
    encode .pythonList ⟨callId, .custom name, arguments⟩ =
      '[' :: name.toList ++ '(' ::
        (Text.joinWith [',', ' '] (arguments.map (Json.keyedLiteral [] '=' [])) ++ [')', ']']) := by
  have written : (fun member : String × Json => member.1.toList ++ '=' :: member.2.callLiteral) =
      Json.keyedLiteral [] '=' [] := by
    funext member
    rw [Json.keyedLiteral, List.nil_append, List.nil_append]
  have whole : encode .pythonList ⟨callId, .custom name, arguments⟩ =
      '[' :: name.toList ++ '(' :: Text.joinWith [',', ' '] (arguments.map
        fun member => member.1.toList ++ '=' :: member.2.callLiteral) ++ [')', ']'] := rfl
  rw [whole, written, List.append_assoc]
  rfl

theorem ends_arguments (good : String × Json → Prop) :
    Text.Ends (Json.keyedLiteral [] '=' []) good [')', ']'] where
  noDigit := by
    rintro c ⟨⟩
    rfl
  noComma := nofun
  noItem {member} _ more same := by
    have holdsSign : '=' ∈ [')', ']'] := by
      rw [← same]
      simp [Json.keyedLiteral]
    cases holdsSign with
    | tail _ later => cases later with
      | tail _ none => cases none

end ToolCall

/-- A call list tells the arguments of its call, if nothing in them needs an escape. -/
theorem call_list_tells_arguments (callId callId' name : String) {first second : Json.Fields}
    (plain : PlainArguments first) (plain' : PlainArguments second) :
    ToolCall.encode .pythonList ⟨callId, .custom name, first⟩ =
      ToolCall.encode .pythonList ⟨callId', .custom name, second⟩ ↔ first = second := by
  constructor
  · intro same
    rw [ToolCall.encode_pythonList, ToolCall.encode_pythonList] at same
    have joined := (List.cons.inj (List.append_cancel_left same)).2
    have separable : ∀ member ∈ first, Text.Separable (Json.keyedLiteral [] '=' [])
        (fun other => '=' ∉ other.1.toList ∧ other.2.Plain) member := fun member inFirst =>
      Json.separable_keyedLiteral [] [] (plain.keys member inFirst)
        (plain.values member inFirst).separable
    exact (Text.eq_of_joinWith_eq (ToolCall.ends_arguments _) (ToolCall.ends_arguments _)
      (fun member inFirst => ⟨plain.keys member inFirst, plain.values member inFirst⟩)
      (fun member inSecond => ⟨plain'.keys member inSecond, plain'.values member inSecond⟩)
      separable joined).1
  · rintro rfl
    rfl

/-- A quote in a string can be taken for its end. -/
example : ToolCall.encode .pythonList ⟨"", .custom "f", [("a", .string "x\", b=\"y")]⟩ =
    ToolCall.encode .pythonList ⟨"", .custom "f", [("a", .string "x"), ("b", .string "y")]⟩ := rfl

/-- One text with a comma in it. -/
def joinedCities : Json.Fields :=
  [("cities", .array [.string "Oslo, Paris"]), ("limit", .number (.integer (-3)))]

/-- The texts on either side of the comma. -/
def separateCities : Json.Fields :=
  [("cities", .array [.string "Oslo", .string "Paris"]), ("limit", .number (.integer (-3)))]

theorem call_list_tells_arguments_cities :
    PlainArguments joinedCities ∧ PlainArguments separateCities ∧
      ToolCall.encode .pythonList ⟨"first", .custom "visit", joinedCities⟩ ≠
        ToolCall.encode .pythonList ⟨"second", .custom "visit", separateCities⟩ := by
  have joined : PlainArguments joinedCities := by
    refine ⟨by decide, List.forall_mem_cons.2 ⟨.array ?_, List.forall_mem_singleton.2 (.integer _)⟩⟩
    exact List.forall_mem_singleton.2 (.string (by decide))
  have separate : PlainArguments separateCities := by
    refine ⟨by decide, List.forall_mem_cons.2 ⟨.array ?_, List.forall_mem_singleton.2 (.integer _)⟩⟩
    exact List.forall_mem_cons.2 ⟨.string (by decide),
      List.forall_mem_singleton.2 (.string (by decide))⟩
  refine ⟨joined, separate, fun same => ?_⟩
  exact absurd ((call_list_tells_arguments _ _ _ joined separate).1 same) (by decide)

end LlamaGateway
