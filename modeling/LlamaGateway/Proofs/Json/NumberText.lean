import LlamaGateway.Proofs.Floating.Rounding
import LlamaGateway.Proofs.Json.Fields
import LlamaGateway.Proofs.Json.Scanning

/-!
# Written numbers

A written number is a numeral: digits without needless zeros in front, then a fraction and an
exponent if there are any. Only a number with more bits than a double has could be written with
nothing but zeros.
-/

namespace LlamaGateway

namespace Json

namespace Numeral

/-- One or more digits. -/
structure Digits (text : List Char) : Prop where
  nonempty : text ≠ []
  isDigit : ∀ c ∈ text, c.isDigit = true

/-- The digits before the point: a single zero, or digits that do not start with zero. -/
structure WholeDigits (text : List Char) : Prop extends Digits text where
  unpadded : text = ['0'] ∨ text.head? ≠ some '0'

/-- Nothing, or a point and digits. -/
inductive FractionText : List Char → Prop
  | absent : FractionText []
  | point {digits : List Char} (after : Digits digits) : FractionText ('.' :: digits)

/-- Nothing, or a signed exponent. -/
inductive ExponentText : List Char → Prop
  | absent : ExponentText []
  | signed {sign : Char} {digits : List Char} (isSign : sign = '+' ∨ sign = '-')
    (after : Digits digits) : ExponentText ('e' :: sign :: digits)

/-- A numeral without sign. -/
inductive UnsignedText : List Char → Prop
  | parts {whole fraction exponent : List Char} (before : WholeDigits whole)
    (behind : FractionText fraction) (scale : ExponentText exponent) :
    UnsignedText (whole ++ (fraction ++ exponent))

theorem spanDigits_of_digits {digits : List Char} (isDigit : ∀ c ∈ digits, c.isDigit = true) :
    spanDigits digits = (digits, []) := by
  induction digits with
  | nil => rfl
  | cons c digits induction =>
    obtain ⟨first, later⟩ := List.forall_mem_cons.1 isDigit
    simp [spanDigits, first, induction later]

theorem Digits.spanDigits {digits : List Char} (are : Digits digits) {rest : List Char}
    (ended : NoDigit rest) : Numeral.spanDigits (digits ++ rest) = (digits, rest) := by
  rw [spanDigits_append ended, spanDigits_of_digits are.isDigit]
  rfl

theorem WholeDigits.scanWhole? {whole : List Char} (are : WholeDigits whole) {rest : List Char}
    (ended : NoDigit rest) : Numeral.scanWhole? (whole ++ rest) = some (whole, rest) := by
  rw [Numeral.scanWhole?, are.toDigits.spanDigits ended]
  obtain ⟨⟨nonempty, -⟩, unpadded⟩ := are
  rcases whole with _ | ⟨first, _ | ⟨second, whole⟩⟩
  · exact absurd rfl nonempty
  · simp
  · have notZero : first ≠ '0' := by simpa using unpadded
    simp [notZero]

theorem ExponentText.noDigit {exponent : List Char} (isExponent : ExponentText exponent) :
    NoDigit exponent := by
  intro c first
  cases isExponent with
  | absent => cases first
  | signed =>
    cases first
    rfl

theorem ExponentText.scanExponent? {exponent : List Char} (isExponent : ExponentText exponent) :
    ∃ read, Numeral.scanExponent? exponent = some (read, []) := by
  cases isExponent with
  | absent => exact ⟨none, rfl⟩
  | @signed sign digits isSign after =>
    have scanned (negative : Bool) :
        scanExponentDigits? negative digits = some (some (negative, digits), []) := by
      have ended : NoDigit [] := by
        intro c first
        cases first
      have span := after.spanDigits ended
      rw [List.append_nil] at span
      rw [scanExponentDigits?, span]
      obtain ⟨nonempty, -⟩ := after
      cases digits with
      | nil => exact absurd rfl nonempty
      | cons first digits => rfl
    rcases isSign with rfl | rfl
    · exact ⟨_, scanned false⟩
    · exact ⟨_, scanned true⟩

theorem FractionText.noDigit {fraction exponent : List Char} (isFraction : FractionText fraction)
    (isExponent : ExponentText exponent) : NoDigit (fraction ++ exponent) := by
  cases isFraction with
  | absent => exact isExponent.noDigit
  | point =>
    intro c first
    cases first
    rfl

theorem FractionText.scanFraction? {fraction exponent : List Char}
    (isFraction : FractionText fraction) (isExponent : ExponentText exponent) :
    ∃ read, Numeral.scanFraction? (fraction ++ exponent) = some (read, exponent) := by
  cases isFraction with
  | absent =>
    cases isExponent with
    | absent => exact ⟨[], rfl⟩
    | signed => exact ⟨[], rfl⟩
  | @point digits after =>
    refine ⟨digits, ?_⟩
    rw [List.cons_append, Numeral.scanFraction?, after.spanDigits isExponent.noDigit]
    obtain ⟨nonempty, -⟩ := after
    cases digits with
    | nil => exact absurd rfl nonempty
    | cons first digits => rfl

theorem UnsignedText.scanUnsigned? {text : List Char} (isUnsigned : UnsignedText text)
    (negative : Bool) : ∃ numeral, Numeral.scanUnsigned? negative text = some (numeral, []) := by
  obtain ⟨before, behind, scale⟩ := isUnsigned
  obtain ⟨fraction, readFraction⟩ := behind.scanFraction? scale
  obtain ⟨exponent, readExponent⟩ := scale.scanExponent?
  rw [Numeral.scanUnsigned?, before.scanWhole? (behind.noDigit scale)]
  simp only [Option.bind_eq_bind, Option.bind_some, readFraction, readExponent]
  exact ⟨_, rfl⟩

/-- A numeral is scanned to its end, with and without a minus sign. -/
theorem UnsignedText.scan? {text : List Char} (isUnsigned : UnsignedText text) (negative : Bool) :
    ∃ numeral, Numeral.scan? ((if negative then ['-'] else []) ++ text) = some (numeral, []) := by
  obtain ⟨numeral, scanned⟩ := isUnsigned.scanUnsigned? negative
  refine ⟨numeral, ?_⟩
  cases negative with
  | true => exact scanned
  | false =>
    cases isUnsigned with
    | @parts whole fraction exponent before =>
      obtain ⟨⟨nonempty, isDigit⟩, -⟩ := before
      cases whole with
      | nil => exact absurd rfl nonempty
      | cons first whole =>
        have notMinus : first ≠ '-' := by
          rintro rfl
          exact absurd (isDigit '-' List.mem_cons_self) (by decide)
        simpa [Numeral.scan?, notMinus] using scanned

theorem digits_zero : Digits ['0'] :=
  ⟨List.cons_ne_nil _ _, List.forall_mem_singleton.2 rfl⟩

theorem wholeDigits_zero : WholeDigits ['0'] :=
  ⟨digits_zero, .inl rfl⟩

theorem digits_toDigits (value : Nat) : Digits (Nat.toDigits 10 value) where
  nonempty := Nat.toDigits_ne_nil
  isDigit _ member := Nat.isDigit_of_mem_toDigits (by decide) (by decide) member

/-- The digits of a positive number do not start with zero. -/
theorem head?_toDigits_ne_zero {value : Nat} (positive : value ≠ 0) :
    (Nat.toDigits 10 value).head? ≠ some '0' := by
  induction value using Nat.strong_induction_on with
  | _ value induction =>
    rw [Nat.toDigits_eq_if (by decide)]
    split
    · next single => simp [Nat.digitChar_eq_zero, positive]
    · next more =>
      have first := induction (value / 10) (by omega) (by omega)
      intro padded
      rw [List.head?_append, Option.or_eq_some_iff] at padded
      rcases padded with isFirst | ⟨empty, -⟩
      · exact first isFirst
      · exact absurd (List.head?_eq_none_iff.1 empty) Nat.toDigits_ne_nil

theorem wholeDigits_toDigits (value : Nat) : WholeDigits (Nat.toDigits 10 value) where
  toDigits := digits_toDigits value
  unpadded := by
    by_cases zero : value = 0
    · exact .inl (by rw [zero, Nat.toDigits_zero])
    · exact .inr (head?_toDigits_ne_zero zero)

theorem Digits.append {left right : List Char} (first : Digits left)
    (later : ∀ c ∈ right, c.isDigit = true) : Digits (left ++ right) where
  nonempty := List.append_ne_nil_of_left_ne_nil first.nonempty right
  isDigit := List.forall_mem_append.2 ⟨first.isDigit, later⟩

theorem isDigit_zeros (count : Nat) : ∀ c ∈ List.replicate count '0', c.isDigit = true := by
  intro c member
  rw [(List.mem_replicate.1 member).2]
  rfl

end Numeral

end Json

namespace Floating

open Json.Numeral

/-- The decimal is not a zero that would be written with zeros behind it. -/
def Decimal.Unpadded (decimal : Decimal) : Prop :=
  decimal.digits = 0 → decimal.exponent ≤ 0

theorem Decimal.unsignedText_positional {decimal : Decimal} (unpadded : decimal.Unpadded) :
    UnsignedText decimal.positional := by
  have whole : WholeDigits decimal.digitChars := wholeDigits_toDigits decimal.digits
  rw [positional]
  split
  · next up =>
    have padded : WholeDigits
        (decimal.digitChars ++ List.replicate decimal.exponent.toNat '0') := by
      refine ⟨whole.toDigits.append (isDigit_zeros _), ?_⟩
      by_cases zero : decimal.digits = 0
      · have last : decimal.exponent = 0 := Int.le_antisymm (unpadded zero) up
        left
        rw [last, digitChars, zero]
        rfl
      · right
        rw [List.head?_append, digitChars, Ne, Option.or_eq_some_iff]
        rintro (isFirst | ⟨empty, -⟩)
        · exact head?_toDigits_ne_zero zero isFirst
        · exact absurd (List.head?_eq_none_iff.1 empty) Nat.toDigits_ne_nil
    simpa using UnsignedText.parts padded (.point digits_zero) .absent
  split
  · next down inside =>
    have shorter : (decimal.leadingExponent + 1).toNat < decimal.digitChars.length := by
      rw [leadingExponent] at inside ⊢
      omega
    have front : WholeDigits (decimal.digitChars.take (decimal.leadingExponent + 1).toNat) := by
      refine ⟨⟨?_, fun c member => whole.isDigit c (List.mem_of_mem_take member)⟩, .inr ?_⟩
      · rw [Ne, List.take_eq_nil_iff]
        rintro (nothing | empty)
        · omega
        · exact whole.nonempty empty
      · rw [List.head?_take, if_neg (by omega)]
        rcases whole.unpadded with zero | unpadded
        · rw [zero, List.length_singleton] at shorter
          omega
        · exact unpadded
    have back : Digits (decimal.digitChars.drop (decimal.leadingExponent + 1).toNat) := by
      refine ⟨fun empty => ?_, fun c member => whole.isDigit c (List.mem_of_mem_drop member)⟩
      have lengths := List.drop_eq_nil_iff.1 empty
      omega
    simpa using UnsignedText.parts front (.point back) .absent
  · have behind : Digits (List.replicate (-(decimal.leadingExponent + 1)).toNat '0' ++
        decimal.digitChars) := by
      refine ⟨List.append_ne_nil_of_right_ne_nil _ whole.nonempty, ?_⟩
      exact List.forall_mem_append.2 ⟨isDigit_zeros _, whole.isDigit⟩
    simpa using UnsignedText.parts wholeDigits_zero (.point behind) .absent

theorem Decimal.unsignedText_scientific (decimal : Decimal) :
    UnsignedText decimal.scientific := by
  have whole : WholeDigits decimal.digitChars := wholeDigits_toDigits decimal.digits
  have isSign : (if decimal.leadingExponent < 0 then '-' else '+') = '+' ∨
      (if decimal.leadingExponent < 0 then '-' else '+') = '-' := by
    split
    · exact .inr rfl
    · exact .inl rfl
  have scale := ExponentText.signed isSign (digits_toDigits decimal.leadingExponent.natAbs)
  have single {first : Char} (isDigit : first.isDigit = true) : WholeDigits [first] := by
    refine ⟨⟨List.cons_ne_nil _ _, List.forall_mem_singleton.2 isDigit⟩, ?_⟩
    by_cases zero : first = '0'
    · exact .inl (by rw [zero])
    · exact .inr (by simpa using zero)
  rw [scientific]
  rcases digits : decimal.digitChars with _ | ⟨first, _ | ⟨second, rest⟩⟩
  · exact absurd digits whole.nonempty
  · rw [digits] at whole
    have isDigit := List.forall_mem_singleton.1 whole.isDigit
    simpa using UnsignedText.parts (single isDigit) .absent scale
  · rw [digits] at whole
    obtain ⟨isDigit, later⟩ := List.forall_mem_cons.1 whole.isDigit
    have behind : Digits (second :: rest) := ⟨List.cons_ne_nil _ _, later⟩
    simpa using UnsignedText.parts (single isDigit) (.point behind) scale

/-- A decimal is written as a numeral, unless it is a zero padded with zeros. -/
theorem DecimalLayout.unsignedText_write (layout : DecimalLayout) {decimal : Decimal}
    (unpadded : decimal.exponent ≤ layout.maxPositional → decimal.Unpadded) :
    UnsignedText (layout.write decimal) := by
  simp only [write]
  split
  · next positional =>
    refine Decimal.unsignedText_positional fun zero => ?_
    have single : decimal.digitChars.length = 1 := by
      rw [Decimal.digitChars, zero]
      rfl
    simp only [Bool.and_eq_true, decide_eq_true_eq, Decimal.leadingExponent, single] at positional
    exact unpadded (by omega) zero
  · exact decimal.unsignedText_scientific

end Floating

namespace Json

theorem exists_scan?_writeInteger (value : Int) :
    ∃ numeral, Numeral.scan? (writeInteger value) = some (numeral, []) := by
  have isUnsigned : Numeral.UnsignedText (Nat.toDigits 10 value.natAbs) := by
    simpa using Numeral.UnsignedText.parts (Numeral.wholeDigits_toDigits value.natAbs) .absent
      .absent
  have scanned := isUnsigned.scan? (decide (value < 0))
  by_cases below : value < 0 <;> simpa [writeInteger, below] using scanned

/-- A floating-point value with no more bits than a double is written as a numeral or as no number
at all. -/
theorem exists_scan?_writeFloating (format : Floating.Format) (layout : Floating.DecimalLayout)
    (least : layout.maxPositional ≤ 15) {value : Floating} (narrow : value.Narrow) :
    (∃ numeral, Numeral.scan? (writeFloating format layout value) = some (numeral, [])) ∨
      writeFloating format layout value = ['n', 'u', 'l', 'l'] := by
  cases value with
  | infinite | nan => exact .inr rfl
  | finite negative significand exponent =>
    left
    by_cases zero : significand = 0
    · have isUnsigned := Numeral.UnsignedText.parts Numeral.wholeDigits_zero
        (.point Numeral.digits_zero) .absent
      have scanned := isUnsigned.scan? negative
      simpa [writeFloating, zero] using scanned
    · have isUnsigned : Numeral.UnsignedText
          (layout.write (Floating.shortest format significand exponent)) := by
        refine layout.unsignedText_write fun small lost => ?_
        by_contra positive
        exact Floating.digits_shortest_ne_zero format zero narrow (Int.not_le.1 positive)
          (Int.le_trans small least) lost
      simpa [writeFloating, zero] using isUnsigned.scan? negative

namespace Number

/-- The number has no more bits than a double. -/
def Narrow : Number → Prop
  | .integer _ => True
  | .floating value | .single value => value.Narrow

/-- A number with no more bits than a double is legible. -/
theorem Narrow.legible {number : Number} (narrow : number.Narrow) : number.Legible := by
  cases number with
  | integer value => exact .inl (exists_scan?_writeInteger value)
  | floating value => exact exists_scan?_writeFloating .double doubleLayout (by decide) narrow
  | single value => exact exists_scan?_writeFloating .single singleLayout (by decide) narrow

end Number

/-- What holds of the numbers in every item holds of those in the array. -/
theorem forall_numbers_array {holds : Number → Prop} {items : List Json}
    (each : ∀ item ∈ items, ∀ number ∈ item.numbers, holds number) :
    ∀ number ∈ (array items).numbers, holds number := by
  rw [numbers]
  induction items with
  | nil => exact List.forall_mem_nil _
  | cons item items induction =>
    obtain ⟨first, later⟩ := List.forall_mem_cons.1 each
    exact List.forall_mem_append.2 ⟨first, induction later⟩

theorem forall_numbers_object {holds : Number → Prop} {members : List (String × Json)}
    (each : ∀ member ∈ members, ∀ number ∈ member.2.numbers, holds number) :
    ∀ number ∈ (object members).numbers, holds number := by
  rw [numbers]
  induction members with
  | nil => exact List.forall_mem_nil _
  | cons member members induction =>
    obtain ⟨first, later⟩ := List.forall_mem_cons.1 each
    exact List.forall_mem_append.2 ⟨first, induction later⟩

/-- All numbers of a value are legible. -/
def Legible (value : Json) : Prop :=
  ∀ number ∈ value.numbers, number.Legible

@[simp] theorem legible_string (text : String) : (string text).Legible :=
  List.forall_mem_nil _

@[simp] theorem legible_boolean (value : Bool) : (boolean value).Legible :=
  List.forall_mem_nil _

theorem legible_array {items : List Json} (each : ∀ item ∈ items, item.Legible) :
    (array items).Legible :=
  forall_numbers_array each

theorem legible_object {members : List (String × Json)}
    (each : ∀ member ∈ members, member.2.Legible) : (object members).Legible :=
  forall_numbers_object each

theorem legible_ofPairs {pairs : List (String × Json)} (each : ∀ pair ∈ pairs, pair.2.Legible) :
    (ofPairs pairs).Legible :=
  legible_object fun member inObject => each member (Fields.mem_of_mem_ofList inObject)

end Json

end LlamaGateway
