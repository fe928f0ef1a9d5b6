import LlamaGateway.Text.Basic
import Mathlib.Data.List.DropRight

/-!
# Trimmed texts

Trimming drops the characters of a class at both ends. What remains starts and ends outside the
class, and a part that does so itself can be appended before or after trimming. Joined lines with
something on them are trimmed of line breaks.
-/

namespace LlamaGateway

namespace Text

variable {inClass : Char → Bool}

/-- A text is kept from its first character outside the class on. -/
theorem dropWhile_cons_append {first : Char} (outside : inClass first = false)
    (text tail : List Char) :
    (text ++ first :: tail).dropWhile inClass = text.dropWhile inClass ++ first :: tail := by
  rw [List.dropWhile_append]
  split
  · next empty =>
    rw [List.isEmpty_iff.1 empty]
    simp [outside]
  · rfl

/-- Dropping a class in front of a longer text drops it in front of the shorter one as well. -/
theorem dropWhile_prefix_dropWhile {short long : List Char} (shorter : short <+: long) :
    short.dropWhile inClass <+: long.dropWhile inClass := by
  obtain ⟨rest, rfl⟩ := shorter
  rw [List.dropWhile_append]
  split
  · next empty =>
    rw [List.isEmpty_iff.1 empty]
    exact List.nil_prefix
  · exact List.prefix_append _ rest

/-- Trimming the end keeps a suffix a suffix. -/
theorem trimEnd_suffix_trimEnd {short long : List Char} (shorter : short <:+ long) :
    trimEnd inClass short <:+ trimEnd inClass long := by
  have reversed : short.reverse.dropWhile inClass <+: long.reverse.dropWhile inClass :=
    dropWhile_prefix_dropWhile (List.reverse_prefix.2 shorter)
  exact List.reverse_suffix.2 reversed

/-- A text that does not end in the class is kept. -/
theorem trimEnd_append_singleton {last : Char} (outside : inClass last = false)
    (text : List Char) : trimEnd inClass (text ++ [last]) = text ++ [last] := by
  simp [trimEnd, outside]

/-- Nothing is trimmed from a text that does not end in the class. -/
theorem trimEnd_eq_self {text : List Char}
    (ends : ∀ last, text.getLast? = some last → inClass last = false) :
    trimEnd inClass text = text := by
  rcases List.eq_nil_or_concat text with rfl | ⟨front, last, rfl⟩
  · rfl
  · rw [List.concat_eq_append] at ends ⊢
    exact trimEnd_append_singleton (ends last (by simp)) front

/-- Behind a character outside the class, only what follows it is trimmed. -/
theorem trimEnd_append_cons {last : Char} (outside : inClass last = false)
    (text tail : List Char) :
    trimEnd inClass (text ++ last :: tail) = text ++ last :: trimEnd inClass tail := by
  have reversed : (text ++ last :: tail).reverse = tail.reverse ++ last :: text.reverse := by simp
  rw [trimEnd, reversed, dropWhile_cons_append outside]
  simp [trimEnd]

/-- A character in front is trimmed only with all that follows it. -/
theorem trimEnd_cons (first : Char) (text : List Char) :
    trimEnd inClass (first :: text) =
      if trimEnd inClass text = [] then trimEnd inClass [first]
      else first :: trimEnd inClass text := by
  rw [trimEnd, List.reverse_cons, List.dropWhile_append]
  by_cases empty : text.reverse.dropWhile inClass = []
  · simp [trimEnd, empty]
  · simp [trimEnd, empty]

/-- A text whose end is trimmed does not end in the class. -/
theorem getLast?_trimEnd {text : List Char} {last : Char}
    (ends : (trimEnd inClass text).getLast? = some last) : inClass last = false := by
  have outside := List.head?_dropWhile_not inClass text.reverse
  rw [trimEnd, List.getLast?_reverse] at ends
  rw [ends] at outside
  exact outside

theorem trimEnd_prefix (text : List Char) : trimEnd inClass text <+: text :=
  List.rdropWhile_prefix inClass text

theorem trim_eq_trimEnd (text : List Char) :
    trim inClass text = trimEnd inClass (text.dropWhile inClass) :=
  rfl

/-- Whatever a trimmed text ends with, the text ends with once its end is trimmed. -/
theorem trim_suffix_trimEnd (text : List Char) : trim inClass text <:+ trimEnd inClass text :=
  trimEnd_suffix_trimEnd (List.dropWhile_suffix inClass)

/-- A trimmed text does not start in the class. -/
theorem head?_trim {text : List Char} {first : Char}
    (starts : (trim inClass text).head? = some first) : inClass first = false := by
  have shorter : trim inClass text <+: text.dropWhile inClass :=
    List.rdropWhile_prefix inClass (l := text.dropWhile inClass)
  obtain ⟨rest, trimmed⟩ := List.head?_eq_some_iff.1 starts
  obtain ⟨tail, whole⟩ := shorter
  have outside := List.head?_dropWhile_not inClass text
  rw [← whole, trimmed] at outside
  exact outside

/-- A part that starts and ends outside the class can be appended after trimming the text in
front of it, of which only the start is trimmed. -/
theorem trim_append {first last : Char} {tail : List Char} (starts : inClass first = false)
    (ends : inClass last = false) (text : List Char) :
    trim inClass (text ++ first :: (tail ++ [last])) =
      text.dropWhile inClass ++ first :: (tail ++ [last]) := by
  rw [trim_eq_trimEnd, dropWhile_cons_append starts, ← List.cons_append, ← List.append_assoc,
    trimEnd_append_singleton ends]

/-- A part that starts and ends outside the class is kept, and so is what follows it up to the end
that is trimmed. -/
theorem trim_append_append {first last : Char} {lead : List Char}
    (leading : ∀ c ∈ lead, inClass c = true) (starts : inClass first = false)
    (ends : inClass last = false) (middle rest : List Char) :
    trim inClass (lead ++ first :: (middle ++ last :: rest)) =
      first :: (middle ++ last :: trimEnd inClass rest) := by
  have kept : (lead ++ first :: (middle ++ last :: rest)).dropWhile inClass =
      (first :: middle) ++ last :: rest := by
    rw [List.dropWhile_append_of_pos leading]
    simp [starts]
  rw [trim_eq_trimEnd, kept, trimEnd_append_cons ends, List.cons_append]

/-- A text that starts and ends outside the class is kept. -/
theorem trim_eq_self {first last : Char} {middle : List Char} (starts : inClass first = false)
    (ends : inClass last = false) :
    trim inClass (first :: (middle ++ [last])) = first :: (middle ++ [last]) :=
  trim_append starts ends []

/-- Only the start of a text is trimmed if it does not end in the class. -/
theorem trim_eq_dropWhile {text : List Char}
    (ends : ∀ last, text.getLast? = some last → inClass last = false) :
    trim inClass text = text.dropWhile inClass := by
  rw [trim_eq_trimEnd]
  apply trimEnd_eq_self
  intro last isLast
  obtain ⟨dropped, whole⟩ := List.dropWhile_suffix inClass (l := text)
  apply ends last
  rw [← whole, List.getLast?_append, isLast, Option.some_or]

/-- A text neither starts nor ends in a class. -/
structure Trimmed (inClass : Char → Bool) (text : List Char) : Prop where
  /-- The first character is outside the class. -/
  starts : ∀ first, text.head? = some first → inClass first = false
  /-- The last character is outside the class. -/
  ends : ∀ last, text.getLast? = some last → inClass last = false

theorem trimmed_trim (inClass : Char → Bool) (text : List Char) :
    Trimmed inClass (trim inClass text) where
  starts _ := head?_trim
  ends _ := getLast?_trimEnd

/-- What is trimmed off at both ends makes up the text with what remains. -/
theorem exists_eq_append_trim_append (inClass : Char → Bool) (text : List Char) : ∃ front back,
    text = front ++ trim inClass text ++ back ∧ (∀ c ∈ front, inClass c = true) ∧
      ∀ c ∈ back, inClass c = true := by
  refine ⟨text.takeWhile inClass, (text.dropWhile inClass).rtakeWhile inClass, ?_,
    fun c => List.mem_takeWhile_imp, fun c => List.mem_rtakeWhile_imp⟩
  have ending : trim inClass text ++ (text.dropWhile inClass).rtakeWhile inClass =
      text.dropWhile inClass := List.rdropWhile_append_rtakeWhile
  rw [List.append_assoc, ending, List.takeWhile_append_dropWhile]

theorem trim_infix (text : List Char) : trim inClass text <:+: text := by
  obtain ⟨front, back, whole, -⟩ := exists_eq_append_trim_append inClass text
  exact ⟨front, back, whole.symm⟩

/-- Around a part that starts and ends outside the class, each end is trimmed on its own. -/
theorem Trimmed.trim_append_append {part : List Char} (trimmed : Trimmed inClass part)
    (nonempty : part ≠ []) (front back : List Char) :
    trim inClass (front ++ part ++ back) =
      front.dropWhile inClass ++ part ++ trimEnd inClass back := by
  obtain ⟨first, tail, rfl⟩ := List.exists_cons_of_ne_nil nonempty
  have atStart : (front ++ (first :: tail) ++ back).dropWhile inClass =
      front.dropWhile inClass ++ (first :: tail) ++ back := by
    rw [List.append_assoc, List.cons_append, dropWhile_cons_append (trimmed.starts first rfl),
      List.append_assoc, List.cons_append]
  rw [trim_eq_trimEnd, atStart]
  rcases List.eq_nil_or_concat (first :: tail) with empty | ⟨body, last, whole⟩
  · exact absurd empty nonempty
  · rw [List.concat_eq_append] at whole
    rw [whole] at trimmed ⊢
    have outside := trimmed.ends last (by simp)
    simpa using trimEnd_append_cons outside (front.dropWhile inClass ++ body) back

/-- Trimming takes off what was put around a trimmed part. -/
theorem Trimmed.trim_eq {part : List Char} (trimmed : Trimmed inClass part)
    {front back : List Char} (atStart : ∀ c ∈ front, inClass c = true)
    (atEnd : ∀ c ∈ back, inClass c = true) : trim inClass (front ++ part ++ back) = part := by
  have noEnd : trimEnd inClass back = [] := List.rdropWhile_eq_nil_iff.2 atEnd
  by_cases empty : part = []
  · subst empty
    have noStart : (front ++ [] ++ back).dropWhile inClass = [] := by
      rw [List.dropWhile_eq_nil_iff]
      simpa [or_imp, forall_and] using ⟨atStart, atEnd⟩
    rw [trim_eq_trimEnd, noStart]
    rfl
  · rw [trimmed.trim_append_append empty, List.dropWhile_eq_nil_iff.2 atStart, noEnd,
      List.nil_append, List.append_nil]

/-- A trimmed part that occurs in a text occurs in it still when the text is trimmed. -/
theorem Trimmed.infix_trim {part text : List Char} (trimmed : Trimmed inClass part)
    (occurs : part <:+: text) : part <:+: trim inClass text := by
  by_cases empty : part = []
  · rw [empty]
    exact List.nil_infix
  · obtain ⟨front, back, rfl⟩ := occurs
    rw [trimmed.trim_append_append empty]
    exact ⟨_, _, rfl⟩

/-- The text is a line with something on it. -/
def IsLine (text : String) : Prop :=
  text.toList ≠ [] ∧ '\n' ∉ text.toList

theorem not_mem_intercalate {c : Char} {separator : String} {texts : List String}
    (apart : c ∉ separator.toList) (each : ∀ text ∈ texts, c ∉ text.toList) :
    c ∉ (separator.intercalate texts).toList := by
  induction texts with
  | nil => simp
  | cons text texts induction =>
    obtain ⟨first, later⟩ := List.forall_mem_cons.1 each
    by_cases last : texts = []
    · simpa [last] using first
    · rw [String.intercalate_cons_of_ne_nil last, String.toList_append, String.toList_append,
        List.mem_append, List.mem_append]
      rintro ((inFirst | inSeparator) | inLater)
      · exact first inFirst
      · exact apart inSeparator
      · exact induction later inLater

/-- Joined texts are not empty if one of them is not. -/
theorem isEmpty_intercalate {texts : List String} {text : String} (member : text ∈ texts)
    (nonempty : text.toList ≠ []) : ¬ ("\n".intercalate texts).isEmpty = true := by
  rw [String.isEmpty_iff, ← String.toList_inj]
  cases texts with
  | nil => cases member
  | cons first rest =>
    by_cases last : rest = []
    · rw [last] at member ⊢
      rwa [String.intercalate_singleton, ← List.mem_singleton.1 member]
    · rw [String.intercalate_cons_of_ne_nil last, String.toList_append, String.toList_append]
      simp

/-- Lines start and end with what is on them. -/
theorem trimmed_intercalate {lines : List String} (present : lines ≠ [])
    (each : ∀ line ∈ lines, IsLine line) :
    ("\n".intercalate lines).toList ≠ [] ∧
      Trimmed (· = '\n') ("\n".intercalate lines).toList := by
  induction lines with
  | nil => exact absurd rfl present
  | cons line lines induction =>
    obtain ⟨⟨nonempty, unbroken⟩, later⟩ := List.forall_mem_cons.1 each
    have inside (c : Char) (member : c ∈ line.toList) : decide (c = '\n') = false := by
      rw [decide_eq_false_iff_not]
      rintro rfl
      exact unbroken member
    by_cases last : lines = []
    · rw [last, String.intercalate_singleton]
      exact ⟨nonempty, fun first isFirst => inside first (List.mem_of_head? isFirst),
        fun final isFinal => inside final (List.mem_of_getLast? isFinal)⟩
    · obtain ⟨restNonempty, rest⟩ := induction last later
      rw [String.intercalate_cons_of_ne_nil last, String.toList_append, String.toList_append]
      refine ⟨by simp [nonempty], fun first isFirst => ?_, fun final isFinal => ?_⟩
      · rw [List.append_assoc, List.head?_append_of_ne_nil _ nonempty] at isFirst
        exact inside first (List.mem_of_head? isFirst)
      · rw [List.getLast?_append_of_ne_nil _ restNonempty] at isFinal
        exact rest.ends final isFinal

end Text

end LlamaGateway
