import LlamaGateway.Json.Printer
import LlamaGateway.Json.Token

/-!
# Scanning written values

The text of a value, compact or pretty, is cut into the tokens of its parts. A written string is
scanned character by character, each with its escape. A written number is a numeral that ends where
a delimiter follows; that the numeral stands for the same number again is a property of the number,
`Json.Number.ReadsBack`.
-/

namespace LlamaGateway

namespace Json

namespace Token

/-- One written character is read as itself. -/
theorem scanString?_escapeChar (c : Char) (before rest : List Char) :
    scanString? ⟨.plain, none, some before⟩ (escapeChar c ++ rest) =
      scanString? ⟨.plain, none, some (c :: before)⟩ rest := by
  have meant {code : Nat} (same : c.toNat = code) : Char.ofNat code = c := by
    rw [← same, Char.ofNat_toNat]
  unfold escapeChar
  split
  · next quote => simp [quote, scanString?, simpleEscape?, StringScan.push]
  split
  · next backslash => simp [backslash, scanString?, simpleEscape?, StringScan.push]
  split
  · next code => simp [← meant code, scanString?, simpleEscape?, StringScan.push]
  split
  · next code => simp [← meant code, scanString?, simpleEscape?, StringScan.push]
  split
  · next code => simp [← meant code, scanString?, simpleEscape?, StringScan.push]
  split
  · next code => simp [← meant code, scanString?, simpleEscape?, StringScan.push]
  split
  · next code => simp [← meant code, scanString?, simpleEscape?, StringScan.push]
  split
  · next control =>
    have high := Text.hexValue?_hexDigit (c.toNat / 16) (by omega)
    have low := Text.hexValue?_hexDigit (c.toNat % 16) (by omega)
    have whole : c.toNat / 16 * 16 + c.toNat % 16 = c.toNat := by omega
    have notHigh : isHighSurrogate c.toNat = false := by
      simp [isHighSurrogate]
      omega
    have notLow : isLowSurrogate c.toNat = false := by
      simp [isLowSurrogate]
      omega
    have zero : Text.hexValue? '0' = some 0 := by decide
    simp [scanString?, zero, high, low, whole, StringScan.pushUnit, notHigh, notLow]
  · next notQuote notBackslash _ _ _ _ _ notControl =>
    simp [scanString?, notQuote, notBackslash, notControl, StringScan.push]

theorem scanString?_escaped (chars before rest : List Char) :
    scanString? ⟨.plain, none, some before⟩ (chars.flatMap escapeChar ++ '"' :: rest) =
      some (some (String.ofList (before.reverse ++ chars)), rest) := by
  induction chars generalizing before with
  | nil => simp [scanString?, StringScan.finish]
  | cons c chars induction =>
    rw [List.flatMap_cons, List.append_assoc, scanString?_escapeChar, induction]
    simp

/-- A text between quotes is read as one token. -/
theorem next?_quote (text : String) (rest : List Char) :
    next? (quote text ++ rest) = some (.string (some text), rest) := by
  have scanned := scanString?_escaped text.toList [] rest
  simp only [List.reverse_nil, List.nil_append, String.ofList_toList] at scanned
  simp [quote, next?, StringScan.start, scanned]

end Token

/-- The text is at its end or goes on with a comma, a closing bracket or brace or a line break. -/
def Delimited (rest : List Char) : Prop :=
  ∀ c ∈ rest.head?, c = ',' ∨ c = ']' ∨ c = '}' ∨ c = '\n'

namespace Numeral

/-- The text does not go on with a digit. -/
def NoDigit (rest : List Char) : Prop :=
  ∀ c ∈ rest.head?, c.isDigit = false

variable {rest : List Char}

theorem noDigit_of_delimited (delimited : Delimited rest) : NoDigit rest := by
  intro c first
  rcases delimited c first with rfl | rfl | rfl | rfl <;> rfl

theorem spanDigits_append (ended : NoDigit rest) (text : List Char) :
    spanDigits (text ++ rest) = Prod.map id (· ++ rest) (spanDigits text) := by
  induction text with
  | nil =>
    cases rest with
    | nil => rfl
    | cons c rest => simp [spanDigits, ended c rfl]
  | cons c text induction =>
    rw [List.cons_append, spanDigits, spanDigits, induction]
    split <;> rfl

theorem scanWhole?_append (delimited : Delimited rest) (text : List Char) :
    scanWhole? (text ++ rest) = (scanWhole? text).map (Prod.map id (· ++ rest)) := by
  rw [scanWhole?, scanWhole?, spanDigits_append (noDigit_of_delimited delimited)]
  obtain ⟨digits, after⟩ := spanDigits text
  rcases digits with _ | ⟨first, digits⟩
  · rfl
  · cases digits <;> by_cases zero : first = '0' <;> simp [zero]

theorem scanFraction?_append (delimited : Delimited rest) (text : List Char) :
    scanFraction? (text ++ rest) = (scanFraction? text).map (Prod.map id (· ++ rest)) := by
  cases text with
  | nil =>
    cases rest with
    | nil => rfl
    | cons c rest => rcases delimited c rfl with rfl | rfl | rfl | rfl <;> rfl
  | cons c text =>
    by_cases point : c = '.'
    · subst point
      rw [List.cons_append, scanFraction?, scanFraction?,
        spanDigits_append (noDigit_of_delimited delimited)]
      obtain ⟨digits, after⟩ := spanDigits text
      cases digits <;> rfl
    · simp [scanFraction?, point]

theorem scanExponentDigits?_append (delimited : Delimited rest) (negative : Bool)
    (text : List Char) :
    scanExponentDigits? negative (text ++ rest) =
      (scanExponentDigits? negative text).map (Prod.map id (· ++ rest)) := by
  rw [scanExponentDigits?, scanExponentDigits?, spanDigits_append (noDigit_of_delimited delimited)]
  obtain ⟨digits, after⟩ := spanDigits text
  cases digits <;> rfl

theorem scanExponent?_append (delimited : Delimited rest) (text : List Char) :
    scanExponent? (text ++ rest) = (scanExponent? text).map (Prod.map id (· ++ rest)) := by
  cases text with
  | nil =>
    cases rest with
    | nil => rfl
    | cons c rest => rcases delimited c rfl with rfl | rfl | rfl | rfl <;> rfl
  | cons c text =>
    change (if _ then _ else _) = Option.map _ (if _ then _ else _)
    by_cases letter : c = 'e' ∨ c = 'E'
    · rw [if_pos letter, if_pos letter]
      rcases text with _ | ⟨sign, text⟩
      · rcases rest with _ | ⟨c, rest⟩
        · rfl
        · rcases delimited c rfl with rfl | rfl | rfl | rfl <;> rfl
      · by_cases plus : sign = '+'
        · subst plus
          exact scanExponentDigits?_append delimited false text
        · by_cases minus : sign = '-'
          · subst minus
            exact scanExponentDigits?_append delimited true text
          · have unsigned := scanExponentDigits?_append delimited false (sign :: text)
            simpa [plus, minus] using unsigned
    · rw [if_neg letter, if_neg letter]
      rfl

theorem scanUnsigned?_append (delimited : Delimited rest) (negative : Bool) (text : List Char) :
    scanUnsigned? negative (text ++ rest) =
      (scanUnsigned? negative text).map (Prod.map id (· ++ rest)) := by
  rw [scanUnsigned?, scanUnsigned?, scanWhole?_append delimited]
  cases scanWhole? text with
  | none => rfl
  | some whole =>
    simp only [Option.map_some, Option.bind_eq_bind, Option.bind_some, Prod.map,
      scanFraction?_append delimited]
    cases scanFraction? whole.2 with
    | none => rfl
    | some fraction =>
      simp only [Option.map_some, Option.bind_some, Prod.map, scanExponent?_append delimited]
      cases scanExponent? fraction.2 <;> rfl

/-- What stands before a delimiter is scanned as if it stood alone. -/
theorem scan?_append (delimited : Delimited rest) (text : List Char) :
    scan? (text ++ rest) = (scan? text).map (Prod.map id (· ++ rest)) := by
  cases text with
  | nil =>
    cases rest with
    | nil => rfl
    | cons c rest => rcases delimited c rfl with rfl | rfl | rfl | rfl <;> rfl
  | cons c text =>
    by_cases minus : c = '-'
    · subst minus
      exact scanUnsigned?_append delimited true text
    · have unsigned := scanUnsigned?_append delimited false (c :: text)
      simpa [scan?, minus] using unsigned

/-- A numeral starts with a minus sign or a digit. -/
theorem start_of_scan? {text : List Char} {result : Numeral × List Char}
    (scanned : scan? text = some result) :
    ∃ c tail, text = c :: tail ∧ (c = '-' ∨ c.isDigit = true) := by
  cases text with
  | nil => cases scanned
  | cons c tail =>
    refine ⟨c, tail, rfl, Decidable.byContradiction fun other => ?_⟩
    obtain ⟨minus, noDigit⟩ := not_or.1 other
    simp [scan?, minus, scanUnsigned?, scanWhole?, spanDigits, noDigit] at scanned

end Numeral

namespace Number

/-- The written number is a numeral that stands for the number again. -/
def ReadsBack (number : Number) : Prop :=
  ∃ numeral, Numeral.scan? number.write = some (numeral, []) ∧ numeral.number? = some number

/-- The written number is a numeral, or the word that stands for a number that is not finite. -/
def Legible (number : Number) : Prop :=
  (∃ numeral, Numeral.scan? number.write = some (numeral, [])) ∨
    number.write = ['n', 'u', 'l', 'l']

/-- The token that a written number is. -/
def token (number : Number) : Token :=
  match Numeral.scan? number.write with
  | some (numeral, _) => .number numeral.number?
  | none => .null

theorem ReadsBack.legible {number : Number} (readsBack : number.ReadsBack) : number.Legible := by
  obtain ⟨numeral, scanned, -⟩ := readsBack
  exact .inl ⟨numeral, scanned⟩

theorem ReadsBack.token_eq {number : Number} (readsBack : number.ReadsBack) :
    number.token = .number (some number) := by
  obtain ⟨numeral, scanned, value⟩ := readsBack
  rw [token, scanned]
  exact congrArg Token.number value

end Number

namespace Token

theorem next?_numeral {c : Char} {tail : List Char} (start : c = '-' ∨ c.isDigit = true) :
    next? (c :: tail) =
      (Numeral.scan? (c :: tail)).map fun (numeral, rest) => (.number numeral.number?, rest) := by
  unfold next?
  split <;> simp_all

theorem isSpace_numeral {c : Char} (start : c = '-' ∨ c.isDigit = true) : isSpace c = false := by
  refine Bool.eq_false_iff.2 fun space => ?_
  simp only [isSpace, Bool.or_eq_true, decide_eq_true_eq, or_assoc] at space
  rcases space with rfl | rfl | rfl | rfl <;> revert start <;> decide

/-- A written number is read as its token. -/
theorem next?_write {number : Number} (legible : number.Legible) {rest : List Char}
    (delimited : Delimited rest) :
    ∃ c tail, number.write ++ rest = c :: tail ∧ isSpace c = false ∧
      next? (c :: tail) = some (number.token, rest) := by
  rcases legible with ⟨numeral, scanned⟩ | word
  · obtain ⟨c, tail, write_eq, start⟩ := Numeral.start_of_scan? scanned
    have isToken : number.token = .number numeral.number? := by rw [Number.token, scanned]
    refine ⟨c, tail ++ rest, by rw [write_eq, List.cons_append], isSpace_numeral start, ?_⟩
    rw [next?_numeral start, ← List.cons_append, ← write_eq, Numeral.scan?_append delimited,
      scanned, isToken]
    rfl
  · have isToken : number.token = .null := by
      rw [Number.token, word]
      rfl
    rw [word, isToken]
    exact ⟨'n', 'u' :: 'l' :: 'l' :: rest, rfl, rfl, rfl⟩

end Token

mutual

/-- The numbers in a value. -/
def numbers : Json → List Number
  | .null | .boolean _ | .string _ => []
  | .number value => [value]
  | .array items => itemNumbers items
  | .object members => memberNumbers members

/-- The numbers in items. -/
def itemNumbers : List Json → List Number
  | [] => []
  | item :: rest => numbers item ++ itemNumbers rest

/-- The numbers in members. -/
def memberNumbers : List (String × Json) → List Number
  | [] => []
  | (_, value) :: rest => numbers value ++ memberNumbers rest

end

mutual

/-- The tokens of a value as it is written. -/
def tokens : Json → List Token
  | .null => [.null]
  | .boolean value => [.boolean value]
  | .number value => [value.token]
  | .string value => [.string (some value)]
  | .array items => .openBracket :: itemTokens items
  | .object members => .openBrace :: memberTokens members

/-- The tokens of items and the closing bracket. -/
def itemTokens : List Json → List Token
  | [] => [.closeBracket]
  | item :: rest => tokens item ++ moreItemTokens rest

/-- The tokens of the items after the first one and the closing bracket. -/
def moreItemTokens : List Json → List Token
  | [] => [.closeBracket]
  | item :: rest => .comma :: (tokens item ++ moreItemTokens rest)

/-- The tokens of members and the closing brace. -/
def memberTokens : List (String × Json) → List Token
  | [] => [.closeBrace]
  | (key, value) :: rest =>
    .string (some key) :: .colon :: (tokens value ++ moreMemberTokens rest)

/-- The tokens of the members after the first one and the closing brace. -/
def moreMemberTokens : List (String × Json) → List Token
  | [] => [.closeBrace]
  | (key, value) :: rest =>
    .comma :: .string (some key) :: .colon :: (tokens value ++ moreMemberTokens rest)

end

/-- The text is cut into the tokens, within any limit that its length allows. -/
def Scans (text : List Char) (tokens : List Token) : Prop :=
  ∀ limit, text.length ≤ limit → Token.scan? limit text = some tokens

namespace Scans

variable {text rest after : List Char} {tokens : List Token}

theorem nil : Scans [] [] := by
  intro limit _
  cases limit <;> rfl

theorem ofText? (scans : Scans text tokens) : Token.ofText? text = some tokens :=
  scans text.length (Nat.le_refl _)

theorem cons {c : Char} {token : Token} (noSpace : Token.isSpace c = false)
    (read : Token.next? (c :: rest) = some (token, after)) (shorter : after.length ≤ rest.length)
    (scans : Scans after tokens) : Scans (c :: rest) (token :: tokens) := by
  intro limit bound
  cases limit with
  | zero => cases bound
  | succ limit =>
    have within : after.length ≤ limit := by
      rw [List.length_cons] at bound
      omega
    simp [Token.scan?, noSpace, read, scans limit within]

theorem quote (key : String) (scans : Scans rest tokens) :
    Scans (Json.quote key ++ rest) (.string (some key) :: tokens) := by
  have shorter (front : List Char) : rest.length ≤ (front ++ rest).length := by
    rw [List.length_append]
    omega
  exact cons rfl (Token.next?_quote key rest) (shorter _) scans

theorem number {value : Number} (legible : value.Legible) (delimited : Delimited rest)
    (scans : Scans rest tokens) : Scans (value.write ++ rest) (value.token :: tokens) := by
  obtain ⟨c, tail, text_eq, noSpace, read⟩ := Token.next?_write legible delimited
  rw [text_eq]
  refine cons noSpace read ?_ scans
  have lengths := congrArg List.length text_eq
  have written : value.write ≠ [] := by
    intro empty
    rcases legible with ⟨numeral, scanned⟩ | word
    · rw [empty] at scanned
      cases scanned
    · rw [empty] at word
      cases word
  have positive := List.length_pos_iff.2 written
  rw [List.length_append, List.length_cons] at lengths
  omega

/-- A character that is a token by itself. -/
theorem mark {c : Char} {token : Token} (noSpace : Token.isSpace c = false)
    (read : Token.next? (c :: rest) = some (token, rest)) (scans : Scans rest tokens) :
    Scans (c :: rest) (token :: tokens) :=
  cons noSpace read (Nat.le_refl _) scans

/-- White space is no part of any token. -/
theorem space {c : Char} (isSpace : Token.isSpace c = true) (scans : Scans rest tokens) :
    Scans (c :: rest) tokens := by
  intro limit bound
  cases limit with
  | zero => cases bound
  | succ limit => rw [Token.scan?, if_pos isSpace, scans limit (Nat.le_of_succ_le_succ bound)]

theorem newline (level : Nat) (scans : Scans rest tokens) :
    Scans (Json.newline level ++ rest) tokens := by
  have blanks (count : Nat) : Scans (List.replicate count ' ' ++ rest) tokens := by
    induction count with
    | zero => exact scans
    | succ count induction => exact space rfl induction
  exact space rfl (blanks (2 * level))

/-- More items are items after a comma. -/
theorem moreItems {items : List Json}
    (scans : Scans (compactItems items ++ rest) (itemTokens items ++ tokens)) :
    Scans (compactMoreItems items ++ rest) (moreItemTokens items ++ tokens) := by
  cases items with
  | nil => exact scans
  | cons item items => exact mark rfl rfl scans

/-- More members are members after a comma. -/
theorem moreMembers {members : List (String × Json)}
    (scans : Scans (compactMembers members ++ rest) (memberTokens members ++ tokens)) :
    Scans (compactMoreMembers members ++ rest) (moreMemberTokens members ++ tokens) := by
  cases members with
  | nil => exact scans
  | cons member members => exact mark rfl rfl scans

end Scans

theorem delimited_compactMoreItems (items : List Json) (rest : List Char) :
    Delimited (compactMoreItems items ++ rest) := by
  intro c first
  cases items <;> cases first <;> simp

theorem delimited_compactMoreMembers (members : List (String × Json)) (rest : List Char) :
    Delimited (compactMoreMembers members ++ rest) := by
  intro c first
  cases members <;> cases first <;> simp

-- What follows a value is scanned already, so the induction goes from the last part to the first.
mutual

/-- A value before a delimiter is cut into its tokens. -/
theorem scans_compact {rest : List Char} {tokens : List Token} (delimited : Delimited rest)
    (scans : Scans rest tokens) : ∀ value : Json, (∀ number ∈ value.numbers, number.Legible) →
      Scans (value.compact ++ rest) (value.tokens ++ tokens)
  | .null, _ => .cons rfl rfl (Nat.le_add_right _ 3) scans
  | .boolean true, _ => .cons rfl rfl (Nat.le_add_right _ 3) scans
  | .boolean false, _ => .cons rfl rfl (Nat.le_add_right _ 4) scans
  | .number value, legible =>
    .number (legible value (List.mem_singleton.2 rfl)) delimited scans
  | .string value, _ => .quote value scans
  | .array items, legible => .mark rfl rfl (scans_compactItems scans items legible)
  | .object members, legible => .mark rfl rfl (scans_compactMembers scans members legible)

theorem scans_compactItems {rest : List Char} {tokens : List Token} (scans : Scans rest tokens) :
    ∀ items : List Json, (∀ number ∈ itemNumbers items, number.Legible) →
      Scans (compactItems items ++ rest) (itemTokens items ++ tokens)
  | [], _ => .mark rfl rfl scans
  | item :: items, legible => by
    have later := (scans_compactItems scans items fun number member =>
      legible number (List.mem_append_right _ member)).moreItems
    have first := scans_compact (delimited_compactMoreItems items rest) later item
      fun number member => legible number (List.mem_append_left _ member)
    simpa [compactItems, itemTokens] using first

theorem scans_compactMembers {rest : List Char} {tokens : List Token} (scans : Scans rest tokens) :
    ∀ members : List (String × Json), (∀ number ∈ memberNumbers members, number.Legible) →
      Scans (compactMembers members ++ rest) (memberTokens members ++ tokens)
  | [], _ => .mark rfl rfl scans
  | (key, value) :: members, legible => by
    have later := (scans_compactMembers scans members fun number member =>
      legible number (List.mem_append_right _ member)).moreMembers
    have first := scans_compact (delimited_compactMoreMembers members rest) later value
      fun number member => legible number (List.mem_append_left _ member)
    have keyed := Scans.quote key (.mark (c := ':') rfl rfl first)
    simpa [compactMembers, memberTokens] using keyed

end

theorem delimited_prettyItems (level : Nat) (items : List Json) (rest : List Char) :
    Delimited (prettyItems level items ++ rest) := by
  intro c first
  cases items <;> cases first <;> simp

theorem delimited_prettyMembers (level : Nat) (members : List (String × Json))
    (rest : List Char) : Delimited (prettyMembers level members ++ rest) := by
  intro c first
  cases members <;> cases first <;> simp

mutual

/-- A value before a delimiter is cut into the same tokens if it stands on lines of its own. -/
theorem scans_pretty {rest : List Char} {tokens : List Token} (delimited : Delimited rest)
    (scans : Scans rest tokens) (level : Nat) :
    ∀ value : Json, (∀ number ∈ value.numbers, number.Legible) →
      Scans (value.pretty level ++ rest) (value.tokens ++ tokens)
  | .null, _ => .cons rfl rfl (Nat.le_add_right _ 3) scans
  | .boolean true, _ => .cons rfl rfl (Nat.le_add_right _ 3) scans
  | .boolean false, _ => .cons rfl rfl (Nat.le_add_right _ 4) scans
  | .number value, legible =>
    .number (legible value (List.mem_singleton.2 rfl)) delimited scans
  | .string value, _ => .quote value scans
  | .array [], _ => .mark rfl rfl (.mark rfl rfl scans)
  | .array (item :: items), legible => by
    have later := scans_prettyItems scans level items fun number member =>
      legible number (List.mem_append_right _ member)
    have first := scans_pretty (delimited_prettyItems level items rest) later (level + 1) item
      fun number member => legible number (List.mem_append_left _ member)
    have opened := Scans.mark (c := '[') rfl rfl (first.newline (level + 1))
    simpa [pretty, Json.tokens, itemTokens] using opened
  | .object [], _ => .mark rfl rfl (.mark rfl rfl scans)
  | .object ((key, value) :: members), legible => by
    have later := scans_prettyMembers scans level members fun number member =>
      legible number (List.mem_append_right _ member)
    have first := scans_pretty (delimited_prettyMembers level members rest) later (level + 1)
      value fun number member => legible number (List.mem_append_left _ member)
    have keyed := Scans.quote key (.mark (c := ':') rfl rfl (.space (c := ' ') rfl first))
    have opened := Scans.mark (c := '{') rfl rfl (keyed.newline (level + 1))
    simpa [pretty, Json.tokens, memberTokens] using opened

theorem scans_prettyItems {rest : List Char} {tokens : List Token} (scans : Scans rest tokens)
    (level : Nat) : ∀ items : List Json, (∀ number ∈ itemNumbers items, number.Legible) →
      Scans (prettyItems level items ++ rest) (moreItemTokens items ++ tokens)
  | [], _ => by
    have closed := (Scans.mark (c := ']') rfl rfl scans).newline level
    simpa [prettyItems, moreItemTokens] using closed
  | item :: items, legible => by
    have later := scans_prettyItems scans level items fun number member =>
      legible number (List.mem_append_right _ member)
    have first := scans_pretty (delimited_prettyItems level items rest) later (level + 1) item
      fun number member => legible number (List.mem_append_left _ member)
    have separated := Scans.mark (c := ',') rfl rfl (first.newline (level + 1))
    simpa [prettyItems, moreItemTokens] using separated

theorem scans_prettyMembers {rest : List Char} {tokens : List Token} (scans : Scans rest tokens)
    (level : Nat) :
    ∀ members : List (String × Json), (∀ number ∈ memberNumbers members, number.Legible) →
      Scans (prettyMembers level members ++ rest) (moreMemberTokens members ++ tokens)
  | [], _ => by
    have closed := (Scans.mark (c := '}') rfl rfl scans).newline level
    simpa [prettyMembers, moreMemberTokens] using closed
  | (key, value) :: members, legible => by
    have later := scans_prettyMembers scans level members fun number member =>
      legible number (List.mem_append_right _ member)
    have first := scans_pretty (delimited_prettyMembers level members rest) later (level + 1)
      value fun number member => legible number (List.mem_append_left _ member)
    have keyed := Scans.quote key (.mark (c := ':') rfl rfl (.space (c := ' ') rfl first))
    have separated := Scans.mark (c := ',') rfl rfl (keyed.newline (level + 1))
    simpa [prettyMembers, moreMemberTokens] using separated

end

theorem delimited_nil : Delimited [] := by
  intro c first
  cases first

/-- The text of a value is cut into the value's tokens. -/
theorem ofText?_compact {value : Json} (legible : ∀ number ∈ value.numbers, number.Legible) :
    Token.ofText? value.compact = some value.tokens := by
  have scans := scans_compact delimited_nil .nil value legible
  rw [List.append_nil, List.append_nil] at scans
  exact scans.ofText?

/-- So is its pretty text. -/
theorem ofText?_pretty {value : Json} (legible : ∀ number ∈ value.numbers, number.Legible)
    (level : Nat) : Token.ofText? (value.pretty level) = some value.tokens := by
  have scans := scans_pretty delimited_nil .nil level value legible
  rw [List.append_nil, List.append_nil] at scans
  exact scans.ofText?

end Json

end LlamaGateway
