import LlamaGateway.Proofs.Config.PlaceholderForm

/-!
# Expanded lines

A line is divided from left to right into texts without a placeholder and the placeholders that end
them. Its expansion keeps the texts and puts a value in the place of each placeholder, which is not
read again. The first placeholder that has no value is reported, and no variable counts but those
that are named.
-/

namespace LlamaGateway

namespace Placeholder

/-- A line is divided into texts that end at a placeholder, each with that placeholder, and the text
behind the last one. The leftmost placeholder is taken, and the next one is looked for behind it. -/
inductive Divides : List Char → List (List Char × Placeholder) → List Char → Prop
  | last {line : List Char} (none : Text.Nowhere Opens line) : Divides line [] line
  | next {line before form after tail : List Char} {placeholder : Placeholder}
      {parts : List (List Char × Placeholder)} (written : Written placeholder form)
      (first : Text.FirstPlace Opens line before (form ++ after))
      (rest : Divides after parts tail) : Divides line ((before, placeholder) :: parts) tail

section

variable {line before form after tail : List Char} {placeholder : Placeholder}
  {parts : List (List Char × Placeholder)}

theorem Divides.unique {parts' : List (List Char × Placeholder)} {tail' : List Char}
    (divides : Divides line parts tail) (divides' : Divides line parts' tail') :
    parts = parts' ∧ tail = tail' := by
  induction divides generalizing parts' tail' with
  | last nowhere =>
    cases divides' with
    | last nowhere' => exact ⟨rfl, rfl⟩
    | next written' first' rest' => exact absurd nowhere first'.not_nowhere
  | next written first rest induction =>
    cases divides' with
    | last nowhere' => exact absurd nowhere' first.not_nowhere
    | next written' first' rest' =>
      obtain ⟨rfl, same⟩ := first.unique first'
      obtain ⟨rfl, rfl, rfl⟩ := written.unique written' same
      obtain ⟨rfl, rfl⟩ := induction rest'
      exact ⟨rfl, rfl⟩

theorem exists_divides (line : List Char) : ∃ parts tail, Divides line parts tail := by
  induction size : line.length using Nat.strong_induction_on generalizing line with
  | h size' shorter =>
    subst size
    rcases Text.exists_firstPlace_or_nowhere Opens line with ⟨before, rest, first⟩ | nowhere
    · obtain ⟨placeholder, form, after, written, rfl⟩ := first.here
      have less : after.length < line.length := by
        rw [first.whole, List.length_append]
        exact (written.length_lt after).trans_le (Nat.le_add_left _ _)
      obtain ⟨parts, tail, rest⟩ := shorter after.length less after rfl
      exact ⟨(before, placeholder) :: parts, tail, .next written first rest⟩
    · exact ⟨[], line, .last nowhere⟩

/-- More steps than there are characters change nothing. -/
theorem piecesFrom_eq_pieces {steps : Nat} (enough : line.length ≤ steps) :
    piecesFrom steps line = pieces line := by
  suffices agree : ∀ (one other : Nat) (line : List Char), line.length ≤ one →
      line.length ≤ other → piecesFrom one line = piecesFrom other line from
    agree steps line.length line enough le_rfl
  intro one
  induction one with
  | zero =>
    intro other line short _
    obtain rfl := List.length_eq_zero_iff.1 (Nat.le_zero.1 short)
    cases other <;> rfl
  | succ one induction =>
    intro other line short short'
    cases line with
    | nil => cases other <;> rfl
    | cons c rest =>
      obtain ⟨other, rfl⟩ := Nat.exists_eq_succ_of_ne_zero (Nat.ne_zero_of_lt short')
      have tail : rest.length ≤ one ∧ rest.length ≤ other :=
        ⟨Nat.le_of_succ_le_succ short, Nat.le_of_succ_le_succ short'⟩
      rw [piecesFrom, piecesFrom]
      cases found : start? (c :: rest) with
      | none => rw [induction other rest tail.1 tail.2]
      | some parts =>
        obtain ⟨placeholder, after⟩ := parts
        obtain ⟨form, written, whole⟩ := start?_eq_some_iff.1 found
        have less : after.length < (c :: rest).length := whole ▸ written.length_lt after
        have behind : after.length ≤ rest.length := Nat.le_of_lt_succ less
        dsimp only
        rw [induction other after (behind.trans tail.1) (behind.trans tail.2)]

theorem pieces_cons {c : Char} (absent : ¬ Opens [] (c :: line)) :
    pieces (c :: line) = .plain c :: pieces line := by
  rw [pieces, List.length_cons, piecesFrom, start?_eq_none_iff.2 absent]
  rfl

theorem pieces_append (written : Written placeholder form) :
    pieces (form ++ after) = .reference placeholder :: pieces after := by
  have found := start?_eq_some_iff.2 ⟨form, written, Eq.refl (form ++ after)⟩
  have formed := written.length_pos
  cases form with
  | nil => cases formed
  | cons c form =>
    rw [List.cons_append] at found ⊢
    rw [pieces, List.length_cons, piecesFrom, found]
    dsimp only
    rw [piecesFrom_eq_pieces (by simp)]

theorem pieces_of_nowhere (nowhere : Text.Nowhere Opens line) : pieces line = line.map .plain := by
  induction line with
  | nil => rfl
  | cons c line induction =>
    have inTail : Text.Nowhere Opens line := fun before rest whole =>
      nowhere (c :: before) rest (congrArg (c :: ·) whole)
    rw [pieces_cons (nowhere [] (c :: line) rfl), induction inTail, List.map_cons]

theorem pieces_of_first (written : Written placeholder form)
    (first : Text.FirstPlace Opens line before (form ++ after)) :
    pieces line = before.map .plain ++ .reference placeholder :: pieces after := by
  induction before generalizing line with
  | nil =>
    rw [first.whole]
    exact pieces_append written
  | cons c before induction =>
    obtain rfl := first.whole
    have absent : ¬ Opens [] (c :: (before ++ (form ++ after))) := fun opens => by
      simpa using first.leftmost [] (c :: (before ++ (form ++ after))) rfl opens
    have inTail : Text.FirstPlace Opens (before ++ (form ++ after)) before (form ++ after) :=
      .of_cons (fun _ _ _ opens => opens) first.here first
    rw [List.cons_append, pieces_cons absent, induction inTail]
    rfl

variable {environment : Environment} {number : Nat}

theorem expandPieces_plain (text : List Char) (rest : List Piece) :
    expandPieces environment number (text.map .plain ++ rest) =
      (expandPieces environment number rest).map (text ++ ·) := by
  induction text with
  | nil =>
    rw [List.map_nil, List.nil_append]
    cases expandPieces environment number rest <;> rfl
  | cons c text induction =>
    rw [List.map_cons, List.cons_append, expandPieces, induction]
    cases expandPieces environment number rest <;> rfl

theorem expandLine_of_nowhere (nowhere : Text.Nowhere Opens line) :
    expandLine environment number line = .ok line := by
  rw [expandLine, pieces_of_nowhere nowhere, ← List.append_nil (line.map _), expandPieces_plain]
  simp [expandPieces, Except.map]

/-- What stands before the first placeholder is kept, its value is put in its place, and what stands
behind it is expanded by itself. -/
theorem expandLine_of_first (written : Written placeholder form)
    (first : Text.FirstPlace Opens line before (form ++ after)) :
    expandLine environment number line =
      (do
        let value ← placeholder.resolve environment number
        let more ← expandLine environment number after
        return before ++ (value ++ more)) := by
  rw [expandLine, pieces_of_first written first, expandPieces_plain, expandPieces, Piece.expand]
  cases placeholder.resolve environment number with
  | error failure => rfl
  | ok value =>
    change Except.map _ (do let more ← expandLine environment number after; _) = _
    cases expandLine environment number after <;> rfl

theorem expandLine_of_first_eq_ok_iff (written : Written placeholder form)
    (first : Text.FirstPlace Opens line before (form ++ after)) {result : List Char} :
    expandLine environment number line = .ok result ↔
      ∃ value more, placeholder.resolve environment number = .ok value ∧
        expandLine environment number after = .ok more ∧ result = before ++ (value ++ more) := by
  rw [expandLine_of_first written first]
  cases placeholder.resolve environment number with
  | error failure => exact ⟨nofun, nofun⟩
  | ok value =>
    cases expandLine environment number after with
    | error failure => exact ⟨nofun, nofun⟩
    | ok more =>
      constructor
      · rintro ⟨⟩
        exact ⟨value, more, rfl, rfl, rfl⟩
      · rintro ⟨_, _, ⟨⟩, ⟨⟩, rfl⟩
        rfl

theorem expandLine_of_first_eq_error_iff (written : Written placeholder form)
    (first : Text.FirstPlace Opens line before (form ++ after)) {failure : PlaceholderError} :
    expandLine environment number line = .error failure ↔
      placeholder.resolve environment number = .error failure ∨
        (∃ value, placeholder.resolve environment number = .ok value) ∧
          expandLine environment number after = .error failure := by
  rw [expandLine_of_first written first]
  cases placeholder.resolve environment number with
  | error refusal =>
    constructor
    · exact .inl
    · rintro (refused | ⟨⟨_, resolved⟩, -⟩)
      · exact refused
      · cases resolved
  | ok value =>
    cases expandLine environment number after with
    | error refusal =>
      constructor
      · exact fun refused => .inr ⟨⟨value, rfl⟩, refused⟩
      · rintro (resolved | ⟨-, refused⟩)
        · cases resolved
        · exact refused
    | ok more =>
      refine ⟨nofun, ?_⟩
      rintro (resolved | ⟨-, expanded⟩)
      · cases resolved
      · cases expanded

end

/-- The key of a placeholder names a variable. -/
structure Names (placeholder : Placeholder) (name : List Char) : Prop where
  /-- The key is the scope and the name. -/
  key : placeholder.key = "env.".toList ++ name
  /-- The name has no dot. -/
  dotless : '.' ∉ name

/-- What a placeholder is replaced by: the value of its variable, also if that is empty, or else
its default. -/
inductive Replaces (environment : Environment) (placeholder : Placeholder) : List Char → Prop
  | variable {name value : List Char} (names : placeholder.Names name)
      (set : environment.text? (String.ofList name) = some value) :
      Replaces environment placeholder value
  | default {name value : List Char} (names : placeholder.Names name)
      (unset : environment.text? (String.ofList name) = none)
      (given : placeholder.default = some value) : Replaces environment placeholder value

/-- Why a placeholder cannot be replaced. -/
inductive Fails (environment : Environment) (number : Nat) (placeholder : Placeholder) :
    PlaceholderError → Prop
  | foreignKey (unnamed : ∀ name, ¬ placeholder.Names name) :
      Fails environment number placeholder (.foreignKey number (String.ofList placeholder.key))
  | unset {name : List Char} (names : placeholder.Names name)
      (unset : environment.text? (String.ofList name) = none)
      (missing : placeholder.default = none) :
      Fails environment number placeholder (.unset number (String.ofList name))

/-- A placeholder names a variable, and that is set or there is a default. -/
def Answered (environment : Environment) (placeholder : Placeholder) : Prop :=
  ∃ name, placeholder.Names name ∧
    ((∃ value, environment.text? (String.ofList name) = some value) ∨
      ∃ default, placeholder.default = some default)

section

variable {environment : Environment} {number : Nat} {placeholder : Placeholder}
  {name value : List Char}

theorem variableName?_eq_some_iff :
    placeholder.variableName? = some name ↔ placeholder.Names name := by
  rw [variableName?, Option.filter_eq_some_iff, Text.dropPrefix?_eq_some_iff]
  constructor
  · rintro ⟨key, dotless⟩
    exact ⟨key, by simpa using dotless⟩
  · rintro ⟨key, dotless⟩
    exact ⟨key, by simpa using dotless⟩

theorem variableName?_eq_none_iff :
    placeholder.variableName? = none ↔ ∀ name, ¬ placeholder.Names name := by
  simp only [Option.eq_none_iff_forall_ne_some, ne_eq, variableName?_eq_some_iff]

theorem resolve_of_set (names : placeholder.Names name)
    (set : environment.text? (String.ofList name) = some value) :
    placeholder.resolve environment number = .ok value := by
  simp only [resolve, variableName?_eq_some_iff.2 names, set]

theorem resolve_of_default (names : placeholder.Names name)
    (unset : environment.text? (String.ofList name) = none)
    (given : placeholder.default = some value) :
    placeholder.resolve environment number = .ok value := by
  simp only [resolve, variableName?_eq_some_iff.2 names, unset, given]

theorem resolve_of_unset (names : placeholder.Names name)
    (unset : environment.text? (String.ofList name) = none)
    (missing : placeholder.default = none) :
    placeholder.resolve environment number = .error (.unset number (String.ofList name)) := by
  simp only [resolve, variableName?_eq_some_iff.2 names, unset, missing]

theorem resolve_of_unnamed (unnamed : ∀ name, ¬ placeholder.Names name) :
    placeholder.resolve environment number =
      .error (.foreignKey number (String.ofList placeholder.key)) := by
  rw [resolve, variableName?_eq_none_iff.2 unnamed]

/-- A placeholder is replaced by a value or fails. -/
theorem replaces_or_fails (environment : Environment) (number : Nat) (placeholder : Placeholder) :
    (∃ value, Replaces environment placeholder value ∧
      placeholder.resolve environment number = .ok value) ∨
    ∃ failure, Fails environment number placeholder failure ∧
      placeholder.resolve environment number = .error failure := by
  by_cases named : ∃ name, placeholder.Names name
  · obtain ⟨name, names⟩ := named
    cases set : environment.text? (String.ofList name) with
    | some value => exact .inl ⟨value, .variable names set, resolve_of_set names set⟩
    | none =>
      cases given : placeholder.default with
      | some value =>
        exact .inl ⟨value, .default names set given, resolve_of_default names set given⟩
      | none => exact .inr ⟨_, .unset names set given, resolve_of_unset names set given⟩
  · have unnamed := not_exists.1 named
    exact .inr ⟨_, .foreignKey unnamed, resolve_of_unnamed unnamed⟩

theorem resolve_eq_ok_iff :
    placeholder.resolve environment number = .ok value ↔
      Replaces environment placeholder value := by
  constructor
  · intro resolved
    rcases replaces_or_fails environment number placeholder with
      ⟨value', replaces, resolved'⟩ | ⟨failure, -, refused⟩
    · obtain rfl := Except.ok.inj (resolved.symm.trans resolved')
      exact replaces
    · cases resolved.symm.trans refused
  · intro replaces
    cases replaces with
    | «variable» names set => exact resolve_of_set names set
    | default names unset given => exact resolve_of_default names unset given

theorem resolve_eq_error_iff {failure : PlaceholderError} :
    placeholder.resolve environment number = .error failure ↔
      Fails environment number placeholder failure := by
  constructor
  · intro refused
    rcases replaces_or_fails environment number placeholder with
      ⟨value, -, resolved⟩ | ⟨failure', fails, refused'⟩
    · cases resolved.symm.trans refused
    · obtain rfl := Except.error.inj (refused.symm.trans refused')
      exact fails
  · intro fails
    cases fails with
    | foreignKey unnamed => exact resolve_of_unnamed unnamed
    | unset names unset missing => exact resolve_of_unset names unset missing

theorem answered_iff :
    placeholder.Answered environment ↔ ∃ value, Replaces environment placeholder value := by
  constructor
  · rintro ⟨name, names, answer⟩
    cases set : environment.text? (String.ofList name) with
    | some value => exact ⟨value, .variable names set⟩
    | none =>
      rcases answer with ⟨value, set'⟩ | ⟨default, given⟩
      · cases set.symm.trans set'
      · exact ⟨default, .default names set given⟩
  · rintro ⟨value, replaces⟩
    cases replaces with
    | «variable» names set => exact ⟨_, names, .inl ⟨value, set⟩⟩
    | default names unset given => exact ⟨_, names, .inr ⟨value, given⟩⟩

/-- Only the variable that a placeholder names counts for its value. -/
theorem resolve_congr {other : Environment}
    (agree : ∀ name, placeholder.Names name →
      other.text? (String.ofList name) = environment.text? (String.ofList name)) :
    placeholder.resolve other number = placeholder.resolve environment number := by
  rw [resolve, resolve]
  cases named : placeholder.variableName? with
  | none => rfl
  | some name => simp only [agree name (variableName?_eq_some_iff.1 named)]

end

/-- A divided line with its placeholders replaced. -/
inductive Expanded (environment : Environment) :
    List (List Char × Placeholder) → List Char → List Char → Prop
  | last {tail : List Char} : Expanded environment [] tail tail
  | next {before value tail more : List Char} {placeholder : Placeholder}
      {parts : List (List Char × Placeholder)} (replaces : Replaces environment placeholder value)
      (rest : Expanded environment parts tail more) :
      Expanded environment ((before, placeholder) :: parts) tail (before ++ (value ++ more))

/-- What the expansion of a divided line gives. -/
structure ExpandsBy (environment : Environment) (number : Nat) (line : List Char)
    (parts : List (List Char × Placeholder)) (tail : List Char) : Prop where
  /-- It succeeds exactly if every placeholder is answered. -/
  succeeds : (∃ result, expandLine environment number line = .ok result) ↔
    ∀ part ∈ parts, part.2.Answered environment
  /-- Its result is the line with every placeholder replaced. -/
  replaced : ∀ result, expandLine environment number line = .ok result ↔
    Expanded environment parts tail result
  /-- Its failure is that of the first placeholder that is not answered. -/
  refused : ∀ failure, expandLine environment number line = .error failure ↔
    ∃ earlier before placeholder later, parts = earlier ++ (before, placeholder) :: later ∧
      (∀ part ∈ earlier, part.2.Answered environment) ∧
        Fails environment number placeholder failure
  /-- No variable counts that no placeholder names. -/
  named : ∀ other : Environment,
    (∀ part ∈ parts, ∀ name, part.2.Names name →
      other.text? (String.ofList name) = environment.text? (String.ofList name)) →
    expandLine other number line = expandLine environment number line

section

variable {environment : Environment} {number : Nat} {line tail : List Char}
  {parts : List (List Char × Placeholder)}

theorem exists_expanded_iff :
    (∃ result, Expanded environment parts tail result) ↔
      ∀ part ∈ parts, part.2.Answered environment := by
  induction parts with
  | nil => exact ⟨fun _ => nofun, fun _ => ⟨tail, .last⟩⟩
  | cons part parts induction =>
    obtain ⟨before, placeholder⟩ := part
    rw [List.forall_mem_cons, ← induction, answered_iff]
    constructor
    · rintro ⟨_, _ | ⟨replaces, rest⟩⟩
      exact ⟨⟨_, replaces⟩, _, rest⟩
    · rintro ⟨⟨value, replaces⟩, more, rest⟩
      exact ⟨before ++ (value ++ more), .next replaces rest⟩

theorem Divides.expandLine_eq_ok_iff (divides : Divides line parts tail) {result : List Char} :
    expandLine environment number line = .ok result ↔ Expanded environment parts tail result := by
  induction divides generalizing result with
  | last nowhere =>
    rw [expandLine_of_nowhere nowhere]
    constructor
    · rintro ⟨⟩
      exact .last
    · rintro ⟨⟩
      rfl
  | next written first _ induction =>
    simp only [expandLine_of_first_eq_ok_iff written first, resolve_eq_ok_iff, induction]
    constructor
    · rintro ⟨value, more, replaces, rest, rfl⟩
      exact .next replaces rest
    · rintro (_ | ⟨replaces, rest⟩)
      exact ⟨_, _, replaces, rest, rfl⟩

theorem Divides.expandLine_eq_error_iff (divides : Divides line parts tail)
    {failure : PlaceholderError} :
    expandLine environment number line = .error failure ↔
      ∃ earlier before placeholder later, parts = earlier ++ (before, placeholder) :: later ∧
        (∀ part ∈ earlier, part.2.Answered environment) ∧
          Fails environment number placeholder failure := by
  induction divides with
  | last nowhere =>
    rw [expandLine_of_nowhere nowhere]
    refine ⟨nofun, ?_⟩
    rintro ⟨earlier, _, _, _, whole, -⟩
    cases earlier <;> cases whole
  | @next _ before _ _ _ placeholder parts written first _ induction =>
    rw [expandLine_of_first_eq_error_iff written first, resolve_eq_error_iff, induction]
    simp only [resolve_eq_ok_iff, ← answered_iff]
    constructor
    · rintro (fails | ⟨answered, earlier, before', refused, later, rfl, allAnswered, fails⟩)
      · exact ⟨[], before, placeholder, parts, rfl, nofun, fails⟩
      · exact ⟨(before, placeholder) :: earlier, before', refused, later, rfl,
          List.forall_mem_cons.2 ⟨answered, allAnswered⟩, fails⟩
    · rintro ⟨earlier, before', refused, later, whole, allAnswered, fails⟩
      cases earlier with
      | nil =>
        obtain ⟨⟨⟩, -⟩ := List.cons.inj whole
        exact .inl fails
      | cons part earlier =>
        obtain ⟨rfl, rfl⟩ := List.cons.inj whole
        obtain ⟨answered, allAnswered⟩ := List.forall_mem_cons.1 allAnswered
        exact .inr ⟨answered, earlier, before', refused, later, rfl, allAnswered, fails⟩

theorem Divides.expandLine_congr (divides : Divides line parts tail) {other : Environment}
    (agree : ∀ part ∈ parts, ∀ name, part.2.Names name →
      other.text? (String.ofList name) = environment.text? (String.ofList name)) :
    expandLine other number line = expandLine environment number line := by
  induction divides with
  | last nowhere => rw [expandLine_of_nowhere nowhere, expandLine_of_nowhere nowhere]
  | next written first _ induction =>
    obtain ⟨here, behind⟩ := List.forall_mem_cons.1 agree
    rw [expandLine_of_first written first, expandLine_of_first written first, resolve_congr here,
      induction behind]

theorem Divides.expandsBy (divides : Divides line parts tail) (environment : Environment)
    (number : Nat) : ExpandsBy environment number line parts tail where
  succeeds := by
    simp only [divides.expandLine_eq_ok_iff]
    exact exists_expanded_iff
  replaced _ := divides.expandLine_eq_ok_iff
  refused _ := divides.expandLine_eq_error_iff
  named _ := divides.expandLine_congr

end

end Placeholder

/-- Every line is divided in one way by its placeholders, and its expansion replaces them, each by
itself, and keeps everything else. -/
theorem expansion_replaces_placeholders (environment : Environment) (number : Nat)
    (line : List Char) :
    (∃! division : List (List Char × Placeholder) × List Char,
        Placeholder.Divides line division.1 division.2) ∧
      ∀ parts tail, Placeholder.Divides line parts tail →
        Placeholder.ExpandsBy environment number line parts tail := by
  constructor
  · obtain ⟨parts, tail, divides⟩ := Placeholder.exists_divides line
    refine ⟨(parts, tail), divides, ?_⟩
    rintro ⟨parts', tail'⟩ divides'
    obtain ⟨rfl, rfl⟩ := divides'.unique divides
    rfl
  · exact fun parts tail divides => divides.expandsBy environment number

-- A value that looks like a placeholder is not read again.
example : Placeholder.expandLine ⟨[("A", "\x7b\x7benv.B\x7d\x7d".toByteArray.toList)]⟩ 1
    "-\x7b\x7b env.A \x7d\x7d-".toList = .ok "-\x7b\x7benv.B\x7d\x7d-".toList := by
  decide +kernel

end LlamaGateway
