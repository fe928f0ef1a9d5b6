import LlamaGateway.Proofs.Config.PlaceholderForm

/-!
# Expanded texts

The texts on either side of a line feed are expanded each by itself. An error in the second one is
told with its line in the whole. So line feeds at the end of a text stay, and a comment stands in
the result as it is, whatever is set.
-/

namespace LlamaGateway

namespace Text

variable {separator : Char}

theorem exists_splitOn_eq_cons (separator : Char) (text : List Char) :
    ∃ piece pieces, splitOn separator text = piece :: pieces := by
  cases text with
  | nil => exact ⟨[], [], rfl⟩
  | cons c rest =>
    rw [splitOn]
    split
    · exact ⟨[], _, rfl⟩
    · split
      · exact ⟨[c], [], rfl⟩
      · exact ⟨_, _, rfl⟩

/-- The pieces on either side of an occurrence are those of either side. -/
theorem splitOn_append_cons (front back : List Char) :
    splitOn separator (front ++ separator :: back) =
      splitOn separator front ++ splitOn separator back := by
  induction front with
  | nil => simp [splitOn]
  | cons c front induction =>
    rw [List.cons_append, splitOn, splitOn, induction]
    obtain ⟨piece, pieces, split_eq⟩ := exists_splitOn_eq_cons separator front
    rw [split_eq]
    split <;> rfl

theorem splitOn_of_not_mem {text : List Char} (absent : separator ∉ text) :
    splitOn separator text = [text] := by
  induction text with
  | nil => rfl
  | cons c rest induction =>
    obtain ⟨other, later⟩ := List.ne_and_not_mem_of_not_mem_cons absent
    rw [splitOn, if_neg (Ne.symm other), induction later]

theorem length_splitOn (text : List Char) :
    (splitOn separator text).length = text.count separator + 1 := by
  induction text with
  | nil => rfl
  | cons c rest induction =>
    rw [splitOn]
    by_cases same : c = separator
    · rw [if_pos same, same, List.count_cons_self, List.length_cons, induction]
    · obtain ⟨piece, pieces, split_eq⟩ := exists_splitOn_eq_cons separator rest
      rw [if_neg same, List.count_cons_of_ne same, ← induction, split_eq]
      rfl

end Text

namespace PlaceholderError

/-- The error a number of lines further down. -/
def below (lines : Nat) : PlaceholderError → PlaceholderError
  | .unset line name => .unset (lines + line) name
  | .foreignKey line key => .foreignKey (lines + line) key

end PlaceholderError

namespace Placeholder

/-- The last line of a text is all of it or stands behind a line feed. -/
theorem splitLines_cases (text : List Char) :
    '\n' ∉ text ∧ splitLines text = ([], text) ∨
      ∃ front last, text = front ++ '\n' :: last ∧
        splitLines text = (Text.splitOn '\n' front, last) := by
  by_cases fed : '\n' ∈ text
  · obtain ⟨reversed, later, whole, absent⟩ :=
      List.eq_append_cons_of_mem (List.mem_reverse.2 fed)
    have text_eq : text = later.reverse ++ '\n' :: reversed.reverse := by
      simpa using congrArg List.reverse whole
    have last : Text.splitOn '\n' reversed.reverse = [reversed.reverse] :=
      Text.splitOn_of_not_mem fun member => absent (List.mem_reverse.1 member)
    refine .inr ⟨later.reverse, reversed.reverse, text_eq, ?_⟩
    rw [splitLines, text_eq, Text.splitOn_append_cons, last]
    simp
  · refine .inl ⟨fed, ?_⟩
    rw [splitLines, Text.splitOn_of_not_mem fed]
    rfl

theorem splitLines_append_cons (front back : List Char) :
    splitLines (front ++ '\n' :: back) =
      ((splitLines front).1 ++ (splitLines front).2 :: (splitLines back).1,
        (splitLines back).2) := by
  obtain ⟨piece, pieces, front_eq⟩ := Text.exists_splitOn_eq_cons '\n' front
  obtain ⟨piece', pieces', back_eq⟩ := Text.exists_splitOn_eq_cons '\n' back
  have last : (piece :: pieces).getLast? = some ((piece :: pieces).getLast (by simp)) :=
    List.getLast?_eq_getLast_of_ne_nil _
  simp only [splitLines, Text.splitOn_append_cons, front_eq, back_eq, last, Option.getD_some]
  rw [List.dropLast_append_cons, List.getLast?_append_cons, List.append_cons,
    List.dropLast_append_getLast]

theorem length_splitLines (text : List Char) :
    (splitLines text).1.length = text.count '\n' := by
  simp [splitLines, Text.length_splitOn]

theorem dropReturn_of_getLast?_ne {line : List Char} (unreturned : line.getLast? ≠ some '\r') :
    dropReturn line = line := by
  cases dropped : Text.dropSuffix? ['\r'] line with
  | none => rw [dropReturn, dropped, Option.getD_none]
  | some rest =>
    have whole := Text.dropSuffix?_eq_some_iff.1 dropped
    exact absurd (by simp [whole]) unreturned

/-- The last line of a text ends like the text. -/
theorem dropReturn_splitLines {text : List Char} (unreturned : text.getLast? ≠ some '\r') :
    dropReturn (splitLines text).2 = (splitLines text).2 := by
  refine dropReturn_of_getLast?_ne fun returned => unreturned ?_
  rcases splitLines_cases text with ⟨-, lines⟩ | ⟨front, last, rfl, lines⟩
  · simpa [lines] using returned
  · rw [lines] at returned
    obtain ⟨line, rfl⟩ := List.getLast?_eq_some_iff.1 returned
    rw [← List.cons_append, ← List.append_assoc, List.getLast?_concat]

section

variable {α β : Type} {environment : Environment} {number : Nat}

theorem mapError_bind (step : Except PlaceholderError α) (next : α → Except PlaceholderError β)
    (change : PlaceholderError → PlaceholderError) :
    (step >>= next).mapError change =
      step.mapError change >>= fun value => (next value).mapError change := by
  cases step <;> rfl

theorem resolve_below (lines : Nat) (placeholder : Placeholder) :
    placeholder.resolve environment (lines + number) =
      (placeholder.resolve environment number).mapError (.below lines) := by
  rw [resolve, resolve]
  split
  · rfl
  · split <;> rfl

theorem expandPieces_below (lines : Nat) (pieces : List Piece) :
    expandPieces environment (lines + number) pieces =
      (expandPieces environment number pieces).mapError (.below lines) := by
  induction pieces with
  | nil => rfl
  | cons piece pieces induction =>
    have first : piece.expand environment (lines + number) =
        (piece.expand environment number).mapError (.below lines) := by
      cases piece with
      | plain c => rfl
      | reference placeholder => exact resolve_below lines placeholder
    rw [expandPieces, expandPieces, first, induction, mapError_bind]
    cases piece.expand environment number with
    | error failure => rfl
    | ok text => cases expandPieces environment number pieces <;> rfl

/-- The number of a line counts only for the error that tells it. -/
theorem expandUnlessComment_below (lines : Nat) (text : List Char) :
    expandUnlessComment environment (lines + number) text =
      (expandUnlessComment environment number text).mapError (.below lines) := by
  rw [expandUnlessComment, expandUnlessComment]
  split
  · rfl
  · exact expandPieces_below lines (pieces text)

theorem expandFinished_below (lines : Nat) (finished : List (List Char)) :
    expandFinished environment (lines + number) finished =
      (expandFinished environment number finished).mapError (.below lines) := by
  induction finished generalizing number with
  | nil => rfl
  | cons line finished induction =>
    rw [expandFinished, expandFinished, expandUnlessComment_below, Nat.add_assoc, induction,
      mapError_bind]
    cases expandUnlessComment environment number (dropReturn line) with
    | error failure => rfl
    | ok text => cases expandFinished environment (number + 1) finished <;> rfl

theorem expandFinished_append (front back : List (List Char)) :
    expandFinished environment number (front ++ back) =
      (do
        let before ← expandFinished environment number front
        let after ← expandFinished environment (number + front.length) back
        return before ++ after) := by
  induction front generalizing number with
  | nil =>
    change expandFinished environment number back = _
    change _ = (expandFinished environment number back >>= fun after => pure ([] ++ after))
    cases expandFinished environment number back <;> rfl
  | cons line front induction =>
    have numbers : number + (front.length + 1) = number + 1 + front.length := by omega
    rw [List.cons_append, expandFinished, expandFinished, induction, List.length_cons, numbers]
    cases expandUnlessComment environment number (dropReturn line) with
    | error failure => rfl
    | ok text =>
      cases expandFinished environment (number + 1) front with
      | error failure => rfl
      | ok before =>
        cases expandFinished environment (number + 1 + front.length) back with
        | error failure => rfl
        | ok after =>
          change Except.ok _ = Except.ok _
          simp

/-- Either side of a line feed is expanded by itself, the second one with its own line numbers. -/
theorem expand_append_cons {front : List Char} (unreturned : front.getLast? ≠ some '\r')
    (back : List Char) :
    expand environment (front ++ '\n' :: back) =
      (do
        let before ← expand environment front
        let after ← (expand environment back).mapError (.below (front.count '\n' + 1))
        return before ++ '\n' :: after) := by
  obtain ⟨finished, last, front_eq⟩ : ∃ finished last, splitLines front = (finished, last) :=
    ⟨_, _, rfl⟩
  obtain ⟨finished', last', back_eq⟩ : ∃ finished last, splitLines back = (finished, last) :=
    ⟨_, _, rfl⟩
  have kept : dropReturn last = last := by
    simpa [front_eq] using dropReturn_splitLines unreturned
  have lines : finished.length = front.count '\n' := by
    simpa [front_eq] using length_splitLines front
  have between : expandFinished environment (1 + finished.length + 1) finished' =
      (expandFinished environment 1 finished').mapError (.below (finished.length + 1)) := by
    rw [← expandFinished_below]
    congr 1
    omega
  have behind : expandUnlessComment environment
      ((finished ++ last :: finished').length + 1) last' =
      (expandUnlessComment environment (finished'.length + 1) last').mapError
        (.below (finished.length + 1)) := by
    rw [← expandUnlessComment_below]
    congr 1
    simp only [List.length_append, List.length_cons]
    omega
  simp only [expand, splitLines_append_cons, front_eq, back_eq]
  rw [expandFinished_append, expandFinished, kept, between, behind, ← lines,
    Nat.add_comm 1 finished.length]
  cases expandFinished environment 1 finished with
  | error failure => rfl
  | ok before =>
    cases expandUnlessComment environment (finished.length + 1) last with
    | error failure => rfl
    | ok line =>
      cases expandFinished environment 1 finished' with
      | error failure => rfl
      | ok after =>
        cases expandUnlessComment environment (finished'.length + 1) last' with
        | error failure => rfl
        | ok line' =>
          change Except.ok _ = Except.ok _
          simp

theorem expand_of_single {line : List Char} (single : '\n' ∉ line) :
    expand environment line = expandUnlessComment environment 1 line := by
  have lines : splitLines line = ([], line) := by
    rw [splitLines, Text.splitOn_of_not_mem single]
    rfl
  simp only [expand, lines]
  change (expandUnlessComment environment 1 line >>= fun after => pure ([] ++ after)) = _
  cases expandUnlessComment environment 1 line <;> rfl

end

/-- A line whose first character that is not white space is a number sign, and that no carriage
return ends. -/
structure CommentLine (line : List Char) : Prop where
  /-- It is one line. -/
  single : '\n' ∉ line
  /-- A number sign comes first. -/
  marked : ∃ blanks rest, line = blanks ++ '#' :: rest ∧ ∀ c ∈ blanks, Text.isBlank c = true
  /-- It does not end with a carriage return. -/
  unreturned : line.getLast? ≠ some '\r'

theorem CommentLine.expand_eq {line : List Char} (comment : CommentLine line)
    (environment : Environment) : expand environment line = .ok line := by
  have isComment : isComment line = true := by
    obtain ⟨blanks, rest, rfl, blank⟩ := comment.marked
    rw [Placeholder.isComment, dropBlank_append blank, dropBlank_cons (by decide)]
    rfl
  rw [expand_of_single comment.single, expandUnlessComment, if_pos isComment]

/-- How the expansion of a text follows from those of the texts on either side of a line feed. -/
structure JoinsExpansions (environment : Environment) (front back : List Char) : Prop where
  /-- An error in front counts first. -/
  refusedBefore : ∀ failure, expand environment front = .error failure →
    expand environment (front ++ '\n' :: back) = .error failure
  /-- An error behind is told with the lines in front counted. -/
  refusedBehind : ∀ before failure, expand environment front = .ok before →
    expand environment back = .error failure →
      expand environment (front ++ '\n' :: back) =
        .error (failure.below (front.count '\n' + 1))
  /-- Otherwise the line feed stands between the expansions. -/
  expanded : ∀ before after, expand environment front = .ok before →
    expand environment back = .ok after →
      expand environment (front ++ '\n' :: back) = .ok (before ++ '\n' :: after)
  /-- Line feeds at the end are those of the text. -/
  trailing : ∀ count, expand environment (front ++ List.replicate count '\n') =
    (expand environment front).map (· ++ List.replicate count '\n')
  /-- A comment is copied, alone and between other lines. -/
  comment : ∀ line, CommentLine line → expand environment line = .ok line ∧
    expand environment (front ++ '\n' :: (line ++ '\n' :: back)) =
      (do
        let before ← expand environment front
        let after ← (expand environment back).mapError (.below (front.count '\n' + 2))
        return before ++ '\n' :: (line ++ '\n' :: after))

section

variable {environment : Environment} {front : List Char}

theorem expand_append_replicate (unreturned : front.getLast? ≠ some '\r') (count : Nat) :
    expand environment (front ++ List.replicate count '\n') =
      (expand environment front).map (· ++ List.replicate count '\n') := by
  induction count with
  | zero =>
    rw [List.replicate_zero, List.append_nil]
    cases expand environment front <;> simp [Except.map]
  | succ count induction =>
    have fed : (front ++ List.replicate count '\n').getLast? ≠ some '\r' := by
      cases count with
      | zero => simpa using unreturned
      | succ count => simp [List.replicate_succ']
    have one_more : front ++ List.replicate (count + 1) '\n' =
        (front ++ List.replicate count '\n') ++ '\n' :: [] := by
      rw [List.replicate_succ', List.append_assoc]
    have nothing : expand environment [] = .ok [] := rfl
    rw [one_more, expand_append_cons fed, induction, nothing]
    cases expand environment front with
    | error failure => rfl
    | ok before =>
      change Except.ok _ = Except.ok _
      rw [List.replicate_succ', List.append_assoc]

theorem CommentLine.expand_between {line : List Char} (comment : CommentLine line)
    (unreturned : front.getLast? ≠ some '\r') (back : List Char) :
    expand environment (front ++ '\n' :: (line ++ '\n' :: back)) =
      (do
        let before ← expand environment front
        let after ← (expand environment back).mapError (.below (front.count '\n' + 2))
        return before ++ '\n' :: (line ++ '\n' :: after)) := by
  have noFeed : line.count '\n' = 0 := List.count_eq_zero.2 comment.single
  rw [expand_append_cons unreturned, expand_append_cons comment.unreturned,
    comment.expand_eq, noFeed]
  cases expand environment front with
  | error failure => rfl
  | ok before =>
    cases expand environment back with
    | ok after => rfl
    | error failure =>
      have lines (line : Nat) : front.count '\n' + 1 + (0 + 1 + line) =
          front.count '\n' + 2 + line := by omega
      cases failure <;> simp [bind, Except.bind, Except.mapError, PlaceholderError.below, lines]

end

end Placeholder

/-- A text is expanded line by line, across line feeds and errors. -/
theorem text_expands_line_by_line {front : List Char} (unreturned : front.getLast? ≠ some '\r')
    (environment : Environment) (back : List Char) :
    Placeholder.JoinsExpansions environment front back where
  refusedBefore failure refused := by
    rw [Placeholder.expand_append_cons unreturned, refused]
    rfl
  refusedBehind before failure expanded refused := by
    rw [Placeholder.expand_append_cons unreturned, expanded, refused]
    rfl
  expanded before after expanded expanded' := by
    rw [Placeholder.expand_append_cons unreturned, expanded, expanded']
    rfl
  trailing := Placeholder.expand_append_replicate unreturned
  comment line comment :=
    ⟨comment.expand_eq environment, comment.expand_between unreturned back⟩

/-- An unset variable behind a setting, a comment that names one and an empty line is told with its
line in the whole. -/
theorem text_expands_line_by_line_unsetKey :
    let front := "a = 1\n # \x7b\x7b env.A \x7d\x7d\n".toList
    let back := "\r\nb = 2\nkey = \x7b\x7b env.KEY \x7d\x7d".toList
    front.getLast? ≠ some '\r' ∧
      Placeholder.expand ⟨[]⟩ (front ++ '\n' :: back) = .error (.unset 6 "KEY") := by
  intro front back
  have unreturned : front.getLast? ≠ some '\r' := by decide
  have expanded : Placeholder.expand ⟨[]⟩ front = .ok front := by decide +kernel
  have refused : Placeholder.expand ⟨[]⟩ back = .error (.unset 3 "KEY") := by decide +kernel
  have joins := text_expands_line_by_line unreturned ⟨[]⟩ back
  exact ⟨unreturned, joins.refusedBehind front _ expanded refused⟩

end LlamaGateway
