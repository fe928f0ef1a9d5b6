import LlamaGateway.Config.Placeholder
import LlamaGateway.Proofs.Text.FirstPlace
import Mathlib.Data.List.DropRight

/-!
# Written placeholders

The written form of a placeholder is told here by its parts. What starts a text is read as a
placeholder exactly if it has that form, and a text has it in one way at most.
-/

namespace LlamaGateway

namespace Placeholder

/-- White space only. -/
def Blank (text : List Char) : Prop :=
  ∀ c ∈ text, Text.isBlank c = true

/-- The written form of a default. A missing default is not written at all. -/
inductive WrittenDefault : Option (List Char) → List Char → Prop
  | missing : WrittenDefault none []
  | given {blanks default : List Char} (blank : Blank blanks) (unquoted : '"' ∉ default) :
      WrittenDefault (some default)
        ('|' :: (blanks ++ ("default(\"".toList ++ (default ++ ['"', ')']))))

/-- The written form of a placeholder: its key and its default between double braces. -/
inductive Written : Placeholder → List Char → Prop
  | braced {key group front middle back : List Char} {default : Option (List Char)}
      (frontBlank : Blank front) (named : key ≠ []) (keyChars : ∀ c ∈ key, isKeyChar c = true)
      (middleBlank : Blank middle) (grouped : WrittenDefault default group)
      (backBlank : Blank back) :
      Written ⟨key, default⟩
        ('\x7b' :: '\x7b' ::
          (front ++ (key ++ (middle ++ (group ++ (back ++ ['\x7d', '\x7d']))))))

/-- A placeholder starts at a place. -/
def Opens (_before rest : List Char) : Prop :=
  ∃ placeholder form after, Written placeholder form ∧ rest = form ++ after

theorem Written.length_pos {placeholder : Placeholder} {form : List Char}
    (written : Written placeholder form) : 0 < form.length := by
  cases written
  simp

/-- What follows a placeholder is shorter. -/
theorem Written.length_lt {placeholder : Placeholder} {form : List Char}
    (written : Written placeholder form) (after : List Char) :
    after.length < (form ++ after).length := by
  rw [List.length_append]
  exact Nat.lt_add_of_pos_left written.length_pos

theorem toNat_of_isKeyChar {c : Char} (key : isKeyChar c = true) :
    32 < c.toNat ∧ c.toNat < 128 := by
  change (((decide (65 ≤ c.val ∧ c.val ≤ 90) || (97 ≤ c.val && c.val ≤ 122)) ||
    (48 ≤ c.val && c.val ≤ 57)) || c = '_' || c = '.') = true at key
  simp only [Bool.or_eq_true, Bool.and_eq_true, decide_eq_true_eq, UInt32.le_iff_toNat_le] at key
  change ((((65 ≤ c.toNat ∧ c.toNat ≤ 90) ∨ (97 ≤ c.toNat ∧ c.toNat ≤ 122)) ∨
    (48 ≤ c.toNat ∧ c.toNat ≤ 57)) ∨ c = '_') ∨ c = '.' at key
  rcases key with (((upper | lower) | digit) | rfl) | rfl
  · omega
  · omega
  · omega
  · decide
  · decide

theorem toNat_of_isBlank {c : Char} (blank : Text.isBlank c = true) :
    c.toNat ≤ 32 ∨ 128 ≤ c.toNat := by
  simp only [Text.isBlank, Bool.or_eq_true, Bool.and_eq_true, decide_eq_true_eq] at blank
  omega

/-- White space may not stand in a key. -/
theorem isKeyChar_of_isBlank {c : Char} (blank : Text.isBlank c = true) :
    isKeyChar c = false := by
  by_contra key
  have code := toNat_of_isKeyChar (by simpa using key)
  have outside := toNat_of_isBlank blank
  omega

/-- A key does not start with white space. -/
theorem isBlank_of_isKeyChar {c : Char} (key : isKeyChar c = true) : Text.isBlank c = false := by
  by_contra blank
  rw [isKeyChar_of_isBlank (by simpa using blank)] at key
  cases key

theorem dropBlank_append {blanks : List Char} (blank : Blank blanks) (text : List Char) :
    dropBlank (blanks ++ text) = dropBlank text :=
  List.dropWhile_append_of_pos blank

theorem dropBlank_cons {c : Char} (solid : Text.isBlank c = false) (text : List Char) :
    dropBlank (c :: text) = c :: text := by
  simp [dropBlank, solid]

/-- White space in front of a text and what is left of it make up the text. -/
theorem exists_eq_append_dropBlank (text : List Char) :
    ∃ blanks, Blank blanks ∧ text = blanks ++ dropBlank text :=
  ⟨text.takeWhile Text.isBlank, fun _ => List.mem_takeWhile_imp,
    List.takeWhile_append_dropWhile.symm⟩

/-- The text does not start with a character of a key. -/
def Apart (text : List Char) : Prop :=
  ∀ c ∈ text.head?, isKeyChar c = false

theorem Apart.of_blank {blanks text : List Char} (blank : Blank blanks) (apart : Apart text) :
    Apart (blanks ++ text) := by
  cases blanks with
  | nil => exact apart
  | cons c blanks =>
    intro head isHead
    obtain rfl : c = head := Option.some.inj isHead
    exact isKeyChar_of_isBlank (blank c List.mem_cons_self)

theorem WrittenDefault.apart {default : Option (List Char)} {group text : List Char}
    (written : WrittenDefault default group) (apart : Apart text) : Apart (group ++ text) := by
  cases written with
  | missing => exact apart
  | given blank unquoted =>
    intro head isHead
    obtain rfl : '|' = head := Option.some.inj isHead
    decide

/-- A key is read up to the first other character. -/
theorem takeWhile_key {key tail : List Char} (keyChars : ∀ c ∈ key, isKeyChar c = true)
    (apart : Apart tail) :
    (key ++ tail).takeWhile isKeyChar = key ∧ (key ++ tail).dropWhile isKeyChar = tail := by
  rw [List.takeWhile_append_of_pos keyChars, List.dropWhile_append_of_pos keyChars]
  cases tail with
  | nil => simp
  | cons c tail => simp [apart c rfl]

theorem close?_eq_some_iff {text after : List Char} :
    close? text = some after ↔
      ∃ back, Blank back ∧ text = back ++ ('\x7d' :: '\x7d' :: after) := by
  constructor
  · intro closed
    obtain ⟨back, blank, whole⟩ := exists_eq_append_dropBlank text
    have braces := Text.eq_append_of_dropPrefix? closed
    exact ⟨back, blank, by rw [whole, braces]; rfl⟩
  · rintro ⟨back, blank, rfl⟩
    rw [close?, dropBlank_append blank, dropBlank_cons (by decide)]
    exact Text.dropPrefix?_append ['\x7d', '\x7d'] after

theorem default?_eq_some_iff {text default after : List Char} :
    default? text = some (default, after) ↔
      ∃ group, WrittenDefault (some default) group ∧ text = group ++ after := by
  constructor
  · intro found
    simp only [default?, Option.bind_eq_bind, Option.bind_eq_some_iff, Option.pure_def,
      Option.some.injEq, Prod.mk.injEq, Prod.exists] at found
    obtain ⟨behindBar, bar, behindName, name, quoted, behindQuote, broken, behind, bracket, rfl,
      rfl⟩ := found
    obtain ⟨blanks, blank, whole⟩ := exists_eq_append_dropBlank behindBar
    obtain ⟨inside, unquoted⟩ := Text.breakOn?_singleton_eq_some_iff.1 broken
    refine ⟨_, .given blank unquoted, ?_⟩
    rw [Text.eq_append_of_dropPrefix? bar, whole, Text.eq_append_of_dropPrefix? name, inside,
      Text.eq_append_of_dropPrefix? bracket]
    simp
  · rintro ⟨group, written, rfl⟩
    cases written with
    | @given blanks default blank unquoted =>
      have bar : ∀ rest, Text.dropPrefix? ['|'] ('|' :: rest) = some rest :=
        Text.dropPrefix?_append ['|']
      have name : ∀ rest, dropBlank (blanks ++ ("default(\"".toList ++ rest)) =
          "default(\"".toList ++ rest := by
        intro rest
        rw [dropBlank_append blank]
        exact dropBlank_cons (by decide) _
      have quoted : Text.breakOn? ['"'] (default ++ '"' :: ')' :: after) =
          some (default, ')' :: after) :=
        Text.breakOn?_singleton_append unquoted _
      have bracket : Text.dropPrefix? [')'] (')' :: after) = some after :=
        Text.dropPrefix?_append [')'] after
      simp only [default?, List.cons_append, List.append_assoc, List.nil_append, bar, name,
        Text.dropPrefix?_append, quoted, bracket, Option.bind_eq_bind, Option.bind_some,
        Option.pure_def]

/-- A default and closing braces behind a key, and what follows them. -/
def ending? (key text : List Char) : Option (Placeholder × List Char) :=
  match default? text with
  | some (default, rest) => (close? rest).map fun rest => (⟨key, some default⟩, rest)
  | none => (close? text).map fun rest => (⟨key, none⟩, rest)

theorem ending?_eq_some_iff {key text after : List Char} {placeholder : Placeholder} :
    ending? key (dropBlank text) = some (placeholder, after) ↔
      ∃ default group middle back, placeholder = ⟨key, default⟩ ∧ Blank middle ∧
        WrittenDefault default group ∧ Blank back ∧
        text = middle ++ (group ++ (back ++ '\x7d' :: '\x7d' :: after)) := by
  constructor
  · intro found
    obtain ⟨middle, middleBlank, whole⟩ := exists_eq_append_dropBlank text
    rw [ending?] at found
    cases grouped : default? (dropBlank text) with
    | some parts =>
      obtain ⟨default, rest⟩ := parts
      simp only [grouped, Option.map_eq_some_iff, Prod.mk.injEq] at found
      obtain ⟨_, closed, rfl, rfl⟩ := found
      obtain ⟨group, written, inside⟩ := default?_eq_some_iff.1 grouped
      obtain ⟨back, backBlank, braces⟩ := close?_eq_some_iff.1 closed
      exact ⟨some default, group, middle, back, rfl, middleBlank, written, backBlank,
        by rw [whole, inside, braces]⟩
    | none =>
      simp only [grouped, Option.map_eq_some_iff, Prod.mk.injEq] at found
      obtain ⟨_, closed, rfl, rfl⟩ := found
      obtain ⟨back, backBlank, braces⟩ := close?_eq_some_iff.1 closed
      exact ⟨none, [], middle, back, rfl, middleBlank, .missing, backBlank,
        by rw [whole, braces]; rfl⟩
  · rintro ⟨default, group, middle, back, rfl, middleBlank, written, backBlank, rfl⟩
    rw [ending?, dropBlank_append middleBlank]
    cases written with
    | missing =>
      have braces : dropBlank (back ++ '\x7d' :: '\x7d' :: after) =
          '\x7d' :: '\x7d' :: after := by
        rw [dropBlank_append backBlank, dropBlank_cons (by decide)]
      have ungrouped : default? ('\x7d' :: '\x7d' :: after) = none := rfl
      have closed : close? ('\x7d' :: '\x7d' :: after) = some after :=
        close?_eq_some_iff.2 ⟨[], nofun, rfl⟩
      rw [List.nil_append, braces, ungrouped]
      change (close? ('\x7d' :: '\x7d' :: after)).map _ = _
      rw [closed]
      rfl
    | @given blanks value blank unquoted =>
      have closed : close? (back ++ '\x7d' :: '\x7d' :: after) = some after :=
        close?_eq_some_iff.2 ⟨back, backBlank, rfl⟩
      have grouped := default?_eq_some_iff.2 ⟨_, .given blank unquoted,
        Eq.refl (_ ++ (back ++ '\x7d' :: '\x7d' :: after))⟩
      rw [List.cons_append, dropBlank_cons (by decide), ← List.cons_append, grouped]
      change (close? (back ++ _)).map _ = _
      rw [closed]
      rfl

/-- Behind the opening braces and the key, the default and the closing braces are read. -/
theorem start?_of_key {front key tail : List Char} (frontBlank : Blank front) (named : key ≠ [])
    (keyChars : ∀ c ∈ key, isKeyChar c = true) (apart : Apart tail) :
    start? ('\x7b' :: '\x7b' :: (front ++ (key ++ tail))) = ending? key (dropBlank tail) := by
  have braces : ∀ rest, Text.dropPrefix? ['\x7b', '\x7b'] ('\x7b' :: '\x7b' :: rest) =
      some rest :=
    Text.dropPrefix?_append ['\x7b', '\x7b']
  have solid : dropBlank (key ++ tail) = key ++ tail := by
    cases key with
    | nil => exact absurd rfl named
    | cons c key =>
      exact dropBlank_cons (isBlank_of_isKeyChar (keyChars c List.mem_cons_self)) _
  obtain ⟨taken, left⟩ := takeWhile_key keyChars apart
  simp only [start?, braces, dropBlank_append frontBlank, solid, taken, left, List.isEmpty_iff,
    named, Option.bind_eq_bind, Option.bind_some]
  rfl

/-- Reading a placeholder reads its written form. -/
theorem start?_eq_some_iff {text after : List Char} {placeholder : Placeholder} :
    start? text = some (placeholder, after) ↔
      ∃ form, Written placeholder form ∧ text = form ++ after := by
  constructor
  · intro found
    simp only [start?, Option.bind_eq_bind, Option.bind_eq_some_iff] at found
    obtain ⟨rest, braces, found⟩ := found
    obtain ⟨front, frontBlank, whole⟩ := exists_eq_append_dropBlank rest
    generalize dropBlank rest = body at whole found
    subst whole
    split at found
    · cases found
    · next named =>
      obtain ⟨default, group, middle, back, rfl, middleBlank, grouped, backBlank, tail⟩ :=
        ending?_eq_some_iff.1 found
      refine ⟨_, .braced frontBlank (by simpa using named) (fun _ => List.mem_takeWhile_imp)
        middleBlank grouped backBlank, ?_⟩
      have divided : body = body.takeWhile isKeyChar ++ _ :=
        (List.takeWhile_append_dropWhile (p := isKeyChar)).symm.trans (congrArg _ tail)
      rw [Text.eq_append_of_dropPrefix? braces, congrArg (front ++ ·) divided]
      simp
  · rintro ⟨form, written, rfl⟩
    cases written with
    | @braced key group front middle back default frontBlank named keyChars middleBlank grouped
        backBlank =>
      have apart : Apart (middle ++ (group ++ (back ++ '\x7d' :: '\x7d' :: after))) :=
        .of_blank middleBlank (grouped.apart (.of_blank backBlank (by simp [Apart]; decide)))
      have ended := ending?_eq_some_iff.2 ⟨default, group, middle, back,
        Eq.refl (Placeholder.mk key default), middleBlank, grouped, backBlank,
        Eq.refl (middle ++ (group ++ (back ++ _ :: _ :: after)))⟩
      have started := (start?_of_key frontBlank named keyChars apart).trans ended
      simpa using started

theorem start?_eq_none_iff {before text : List Char} :
    start? text = none ↔ ¬ Opens before text := by
  rw [Option.eq_none_iff_forall_ne_some]
  constructor
  · rintro absent ⟨placeholder, form, after, written, whole⟩
    exact absent (placeholder, after) (start?_eq_some_iff.2 ⟨form, written, whole⟩)
  · rintro closed ⟨placeholder, after⟩ found
    obtain ⟨form, written, whole⟩ := start?_eq_some_iff.1 found
    exact closed ⟨placeholder, form, after, written, whole⟩

/-- A text starts with the written form of one placeholder at most, and with one form of it. -/
theorem Written.unique {placeholder other : Placeholder} {form form' after after' : List Char}
    (written : Written placeholder form) (written' : Written other form')
    (same : form ++ after = form' ++ after') :
    placeholder = other ∧ form = form' ∧ after = after' := by
  have one := start?_eq_some_iff.2 ⟨form, written, Eq.refl (form ++ after)⟩
  have two := start?_eq_some_iff.2 ⟨form', written', same⟩
  obtain ⟨rfl, rfl⟩ := Prod.mk.inj (Option.some.inj (one.symm.trans two))
  exact ⟨rfl, List.append_cancel_right same, rfl⟩

end Placeholder

end LlamaGateway
