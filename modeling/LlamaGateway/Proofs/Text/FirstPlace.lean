import LlamaGateway.Text.Basic
import Mathlib.Data.List.Infix

/-!
# First places

A search along a text stops at the first place where something stands. What stands at a place is
told from the text in front of it and the text from it on, so a search can ask for both. The first
place of a longer text is that of its tail if nothing stands at its start.

In a text that was put together from parts a marker cannot lie across a seam if none of its ends
starts the part that follows; first occurrences are then decided inside one part.
-/

namespace LlamaGateway

namespace Text

/-- Only the empty end of `lead` starts `tail`, so `lead` cannot run into `tail`. -/
def Apart (lead tail : List Char) : Prop :=
  ∀ ending, ending <:+ lead → ending <+: tail → ending = []

instance (lead tail : List Char) : Decidable (Apart lead tail) :=
  decidable_of_iff (∀ ending ∈ lead.tails, ending <+: tail → ending = []) (by
    simp only [List.mem_tails, Apart])

/-- An unbordered text has no proper end that it starts with, so two occurrences of it never
overlap. -/
def Unbordered (needle : List Char) : Prop :=
  Apart needle.tail needle

instance (needle : List Char) : Decidable (Unbordered needle) :=
  inferInstanceAs (Decidable (Apart needle.tail needle))

theorem dropPrefix?_eq_none_iff {lead text : List Char} :
    dropPrefix? lead text = none ↔ ¬ lead <+: text := by
  rw [Option.eq_none_iff_forall_ne_some]
  constructor
  · rintro absent ⟨rest, whole⟩
    exact absent rest (dropPrefix?_eq_some_iff.2 whole.symm)
  · intro absent rest found
    exact absent ⟨rest, (eq_append_of_dropPrefix? found).symm⟩

/-- A lead that cannot run into the tail starts the whole exactly if it starts the text. -/
theorem dropPrefix?_append_of_apart {lead tail : List Char} (apart : Apart lead tail)
    (text : List Char) :
    dropPrefix? lead (text ++ tail) = (dropPrefix? lead text).map (· ++ tail) := by
  cases inText : dropPrefix? lead text with
  | some rest =>
    have whole := eq_append_of_dropPrefix? inText
    simp [whole, List.append_assoc]
  | none =>
    rw [Option.map_none, dropPrefix?_eq_none_iff]
    rintro ⟨rest, whole⟩
    have absent := dropPrefix?_eq_none_iff.1 inText
    rcases List.append_eq_append_iff.1 whole with
      ⟨overlap, text_eq, -⟩ | ⟨overlap, lead_eq, tail_eq⟩
    · exact absent ⟨overlap, text_eq.symm⟩
    · -- The lead ends inside the tail with `overlap`, which is therefore empty.
      have empty : overlap = [] := apart overlap ⟨text, lead_eq.symm⟩ ⟨rest, tail_eq.symm⟩
      subst empty
      exact absent ⟨[], by simpa using lead_eq⟩

/-- A break comes before the first occurrence if no earlier place starts one. -/
theorem breakOn?_append {needle before after : List Char} (nonempty : needle ≠ [])
    (first : ∀ part, part <:+ before → part ≠ [] → ¬ needle <+: part ++ needle ++ after) :
    breakOn? needle (before ++ needle ++ after) = some (before, after) := by
  induction before with
  | nil =>
    obtain ⟨c, rest, rfl⟩ := List.exists_cons_of_ne_nil nonempty
    have here := dropPrefix?_append (c :: rest) after
    simp only [List.cons_append] at here
    simp [breakOn?, here]
  | cons c before induction =>
    have notHere : dropPrefix? needle (c :: (before ++ needle ++ after)) = none :=
      dropPrefix?_eq_none_iff.2 (first (c :: before) (List.suffix_refl _) (by simp))
    have later := induction fun part ending =>
      first part (ending.trans (List.suffix_cons c before))
    rw [List.cons_append, List.cons_append, breakOn?, notHere, later]
    rfl

/-- The first occurrence of a single character. -/
theorem breakOn?_singleton_append {c : Char} {before : List Char} (fresh : c ∉ before)
    (after : List Char) : breakOn? [c] (before ++ c :: after) = some (before, after) := by
  have first : ∀ part, part <:+ before → part ≠ [] → ¬ [c] <+: part ++ [c] ++ after := by
    intro part ending nonempty here
    obtain ⟨d, rest, rfl⟩ := List.exists_cons_of_ne_nil nonempty
    have same : c = d := (List.cons_prefix_cons.1 here).1
    exact fresh (ending.subset (by simp [same]))
  simpa using breakOn?_append (by simp) first

/-- A needle cannot start in front of a delimiter that is as long as itself, if it is not found
there as a whole and none of its proper ends starts the delimiter. -/
theorem not_prefix_append_of_apart {needle part delimiter : List Char}
    (apart : Apart needle.tail delimiter) (fits : needle.length ≤ delimiter.length)
    (nonempty : part ≠ []) (fresh : ¬ needle <:+: part) (after : List Char) :
    ¬ needle <+: part ++ delimiter ++ after := by
  rintro ⟨rest, whole⟩
  rw [List.append_assoc] at whole
  rcases List.append_eq_append_iff.1 whole with
    ⟨overlap, part_eq, -⟩ | ⟨overlap, needle_eq, rest_eq⟩
  · -- The needle ends inside `part`.
    exact fresh (part_eq ▸ (List.prefix_append needle overlap).isInfix)
  · -- The needle starts in `part` and ends with `overlap`, which also starts the delimiter.
    obtain ⟨first, part, rfl⟩ := List.exists_cons_of_ne_nil nonempty
    have shorter : overlap.length ≤ delimiter.length := by
      have lengths := congrArg List.length needle_eq
      simp only [List.length_append, List.length_cons] at lengths
      omega
    have starts : overlap <+: delimiter :=
      List.prefix_of_prefix_length_le ⟨rest, rest_eq.symm⟩ (List.prefix_append delimiter after)
        shorter
    have ends : overlap <:+ needle.tail := ⟨part, by simp [needle_eq]⟩
    have empty : overlap = [] := apart overlap ends starts
    subst empty
    exact fresh (by simp [needle_eq])

/-- An unbordered needle that is not in the text before it occurs first where it was put. -/
theorem breakOn?_append_of_unbordered {needle before : List Char} (unbordered : Unbordered needle)
    (fresh : ¬ needle <:+: before) (after : List Char) :
    breakOn? needle (before ++ needle ++ after) = some (before, after) := by
  have nonempty : needle ≠ [] := fun empty => fresh (by simp [empty])
  refine breakOn?_append nonempty fun part ending partNonempty => ?_
  have freshPart : ¬ needle <:+: part := fun occurs => fresh (occurs.trans ending.isInfix)
  exact not_prefix_append_of_apart unbordered le_rfl partNonempty freshPart after

/-- A needle is absent from a whole if it is absent from both parts and neither of its ends reaches
over the seam: its first character is not in the left part, or its last one not in the right. -/
theorem not_infix_append {needle left right : List Char} (inLeft : ¬ needle <:+: left)
    (inRight : ¬ needle <:+: right)
    (seam : (∃ c ∈ needle.head?, c ∉ left) ∨ ∃ c ∈ right.head?, c ∉ needle) :
    ¬ needle <:+: left ++ right := by
  rw [List.infix_append_iff_ne_nil]
  rintro (occurs | occurs | ⟨start, rest, startNonempty, restNonempty, rfl, ending, leading⟩)
  · exact inLeft occurs
  · exact inRight occurs
  · obtain ⟨first, start, rfl⟩ := List.exists_cons_of_ne_nil startNonempty
    obtain ⟨next, rest, rfl⟩ := List.exists_cons_of_ne_nil restNonempty
    rcases seam with ⟨c, isFirst, absent⟩ | ⟨c, isNext, absent⟩
    · simp at isFirst
      exact absent (ending.subset (by simp [isFirst]))
    · obtain ⟨tail, right_eq⟩ := leading
      simp [← right_eq] at isNext
      exact absent (by simp [isNext])

/-- The first place of a text at which something stands. -/
structure FirstPlace (stands : List Char → List Char → Prop) (text before rest : List Char) :
    Prop where
  /-- The place divides the text. -/
  whole : text = before ++ rest
  /-- It stands there. -/
  here : stands before rest
  /-- It stands at no place farther left. -/
  leftmost : ∀ earlier later, text = earlier ++ later → stands earlier later →
    before.length ≤ earlier.length

/-- There is no place of a text at which something stands. -/
def Nowhere (stands : List Char → List Char → Prop) (text : List Char) : Prop :=
  ∀ before rest, text = before ++ rest → ¬ stands before rest

section

variable {stands later : List Char → List Char → Prop} {c : Char}
  {text before rest before' rest' : List Char}

theorem FirstPlace.unique (one : FirstPlace stands text before rest)
    (other : FirstPlace stands text before' rest') : before = before' ∧ rest = rest' := by
  have parts : before ++ rest = before' ++ rest' := one.whole.symm.trans other.whole
  have lengths : before.length = before'.length :=
    le_antisymm (one.leftmost before' rest' other.whole other.here)
      (other.leftmost before rest one.whole one.here)
  exact List.append_inj parts lengths

theorem FirstPlace.not_nowhere (first : FirstPlace stands text before rest) :
    ¬ Nowhere stands text :=
  fun nowhere => nowhere before rest first.whole first.here

theorem FirstPlace.start (here : stands [] text) : FirstPlace stands text [] text :=
  ⟨rfl, here, fun _ _ _ _ => Nat.zero_le _⟩

/-- What does not stand at the start of a text stands in its tail. -/
theorem stands_in_tail (absent : ¬ stands [] (c :: text))
    (shift : ∀ before rest, text = before ++ rest →
      (stands (c :: before) rest ↔ later before rest))
    (parts : c :: text = before ++ rest) (here : stands before rest) :
    ∃ tail, before = c :: tail ∧ text = tail ++ rest ∧ later tail rest := by
  cases before with
  | nil =>
    obtain rfl : c :: text = rest := parts
    exact absurd here absent
  | cons head tail =>
    obtain ⟨rfl, tailParts⟩ := List.cons.inj parts
    exact ⟨tail, rfl, tailParts, (shift tail rest tailParts).1 here⟩

/-- The first place of a tail is that of the whole, if it does not stand at the start. -/
theorem FirstPlace.cons (absent : ¬ stands [] (c :: text))
    (shift : ∀ before rest, text = before ++ rest →
      (stands (c :: before) rest ↔ later before rest))
    (first : FirstPlace later text before rest) :
    FirstPlace stands (c :: text) (c :: before) rest where
  whole := by rw [first.whole, List.cons_append]
  here := (shift before rest first.whole).2 first.here
  leftmost := by
    intro earlier last parts here
    obtain ⟨tail, rfl, tailParts, inTail⟩ := stands_in_tail absent shift parts here
    simpa using first.leftmost tail last tailParts inTail

/-- What stands neither at the start nor in the tail stands nowhere. -/
theorem Nowhere.cons (absent : ¬ stands [] (c :: text))
    (shift : ∀ before rest, text = before ++ rest →
      (stands (c :: before) rest ↔ later before rest))
    (nowhere : Nowhere later text) : Nowhere stands (c :: text) := by
  intro before rest parts here
  obtain ⟨tail, -, tailParts, inTail⟩ := stands_in_tail absent shift parts here
  exact nowhere tail rest tailParts inTail

theorem Nowhere.nil (absent : ¬ stands [] []) : Nowhere stands [] := by
  intro before rest parts
  obtain ⟨rfl, rfl⟩ := List.append_eq_nil_iff.1 parts.symm
  exact absent

/-- The first place of a text is that of its tail, if it is not the start. -/
theorem FirstPlace.of_cons
    (shift : ∀ before rest, text = before ++ rest → later before rest → stands (c :: before) rest)
    (here : later before rest) (first : FirstPlace stands (c :: text) (c :: before) rest) :
    FirstPlace later text before rest where
  whole := (List.cons.inj first.whole).2
  here := here
  leftmost := by
    intro earlier last parts stood
    have inWhole := first.leftmost (c :: earlier) last (congrArg (c :: ·) parts)
      (shift earlier last parts stood)
    simpa using inWhole

/-- If it stands anywhere, there is a first place. -/
theorem exists_firstPlace_or_nowhere (stands : List Char → List Char → Prop) (text : List Char) :
    (∃ before rest, FirstPlace stands text before rest) ∨ Nowhere stands text := by
  induction text generalizing stands with
  | nil =>
    by_cases here : stands [] []
    · exact .inl ⟨[], [], .start here⟩
    · exact .inr (.nil here)
  | cons c text induction =>
    by_cases here : stands [] (c :: text)
    · exact .inl ⟨[], c :: text, .start here⟩
    · rcases induction fun before => stands (c :: before) with ⟨before, rest, first⟩ | nowhere
      · exact .inl ⟨c :: before, rest, .cons here (fun _ _ _ => Iff.rfl) first⟩
      · exact .inr (.cons here (fun _ _ _ => Iff.rfl) nowhere)

/-- What a search finds in a text: what is read at the first place at which something stands, or
nothing if it stands nowhere. -/
inductive Finds {α : Type} (stands : List Char → List Char → Prop)
    (reads : List Char → List Char → α → Prop) (text : List Char) : Option α → Prop
  | first {before rest : List Char} {value : α} (place : FirstPlace stands text before rest)
      (read : reads before rest value) : Finds stands reads text (some value)
  | nothing (nowhere : Nowhere stands text) : Finds stands reads text none

namespace Finds

variable {α : Type} {reads laterReads : List Char → List Char → α → Prop} {found : Option α}

/-- What is found in a tail is found in the whole, if nothing stands at its start. -/
theorem cons (absent : ¬ stands [] (c :: text))
    (shift : ∀ before rest, text = before ++ rest →
      (stands (c :: before) rest ↔ later before rest))
    (keeps : ∀ before rest value, later before rest → laterReads before rest value →
      reads (c :: before) rest value)
    (inTail : Finds later laterReads text found) : Finds stands reads (c :: text) found := by
  cases inTail with
  | first place read => exact .first (.cons absent shift place) (keeps _ _ _ place.here read)
  | nothing nowhere => exact .nothing (.cons absent shift nowhere)

/-- A search finds something exactly if it is read at the first place, provided that one thing at
most is read at a place. -/
theorem eq_some_iff (finds : Finds stands reads text found)
    (functional : ∀ before rest value other, reads before rest value → reads before rest other →
      value = other) {value : α} :
    found = some value ↔
      ∃ before rest, FirstPlace stands text before rest ∧ reads before rest value := by
  cases finds with
  | @first before rest held place read =>
    rw [Option.some.injEq]
    constructor
    · rintro rfl
      exact ⟨before, rest, place, read⟩
    · rintro ⟨before', rest', place', read'⟩
      obtain ⟨rfl, rfl⟩ := place.unique place'
      exact functional before rest held value read read'
  | nothing nowhere =>
    refine ⟨nofun, ?_⟩
    rintro ⟨before, rest, place, -⟩
    exact absurd nowhere place.not_nowhere

theorem eq_none_iff (finds : Finds stands reads text found) :
    found = none ↔ Nowhere stands text := by
  cases finds with
  | first place read => simp [place.not_nowhere]
  | nothing nowhere => simp [nowhere]

end Finds

end

/-- A needle starts at a place. -/
def StartsAt (needle : List Char) (_before rest : List Char) : Prop :=
  needle <+: rest

theorem nowhere_startsAt_iff {needle text : List Char} :
    Nowhere (StartsAt needle) text ↔ ¬ needle <:+: text := by
  constructor
  · rintro nowhere ⟨before, after, whole⟩
    exact nowhere before (needle ++ after) (by rw [← whole, List.append_assoc])
      (List.prefix_append needle after)
  · rintro absent before rest rfl starts
    exact absent (starts.isInfix.trans (List.suffix_append before rest).isInfix)

/-- The parts of a text around a needle that starts at a place. -/
def Around (needle before rest : List Char) (parts : List Char × List Char) : Prop :=
  parts.1 = before ∧ rest = needle ++ parts.2

/-- A text is broken around the first place where the needle starts. -/
theorem finds_breakOn? (needle text : List Char) :
    Finds (StartsAt needle) (Around needle) text (breakOn? needle text) := by
  induction text with
  | nil =>
    by_cases empty : needle = []
    · subst empty
      exact .first (.start List.prefix_rfl) ⟨rfl, rfl⟩
    · rw [breakOn?, if_neg empty]
      exact .nothing (.nil fun starts => empty (List.prefix_nil.1 starts))
  | cons c text induction =>
    rw [breakOn?]
    cases here : dropPrefix? needle (c :: text) with
    | some after =>
      have whole := eq_append_of_dropPrefix? here
      exact .first (.start ⟨after, whole.symm⟩) ⟨rfl, whole⟩
    | none =>
      have absent : ¬ StartsAt needle [] (c :: text) := dropPrefix?_eq_none_iff.1 here
      generalize breakOn? needle text = parts at induction
      cases induction with
      | first place around =>
        exact .first (.cons absent (fun _ _ _ => Iff.rfl) place)
          ⟨congrArg (c :: ·) around.1, around.2⟩
      | nothing nowhere => exact .nothing (.cons absent (fun _ _ _ => Iff.rfl) nowhere)

theorem breakOn?_eq_some_iff {needle text before after : List Char} :
    breakOn? needle text = some (before, after) ↔
      FirstPlace (StartsAt needle) text before (needle ++ after) := by
  rw [(finds_breakOn? needle text).eq_some_iff]
  · constructor
    · rintro ⟨_, _, place, rfl, rfl⟩
      exact place
    · exact fun place => ⟨before, needle ++ after, place, rfl, rfl⟩
  · rintro _ _ parts other ⟨front, behind⟩ ⟨front', behind'⟩
    exact Prod.ext (front.trans front'.symm) (List.append_cancel_left (behind.symm.trans behind'))

theorem breakOn?_eq_none_iff {needle text : List Char} :
    breakOn? needle text = none ↔ ¬ needle <:+: text :=
  (finds_breakOn? needle text).eq_none_iff.trans nowhere_startsAt_iff

/-- A text is broken at the first occurrence of a character. -/
theorem breakOn?_singleton_eq_some_iff {c : Char} {text before after : List Char} :
    breakOn? [c] text = some (before, after) ↔ text = before ++ c :: after ∧ c ∉ before := by
  constructor
  · intro found
    have whole : text = before ++ c :: after := by simpa using eq_append_of_breakOn? found
    refine ⟨whole, fun inside => ?_⟩
    -- Breaking at the occurrence inside would have been earlier.
    obtain ⟨left, right, rfl⟩ := List.mem_iff_append.1 inside
    have first := breakOn?_eq_some_iff.1 found
    have earlier := first.leftmost left (c :: right ++ c :: after) (by simpa using whole)
      ⟨right ++ c :: after, by simp⟩
    simp only [List.length_append, List.length_cons] at earlier
    omega
  · rintro ⟨rfl, fresh⟩
    exact breakOn?_singleton_append fresh after

end Text

end LlamaGateway
