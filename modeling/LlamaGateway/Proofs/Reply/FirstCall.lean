import LlamaGateway.Proofs.Text.FirstPlace
import LlamaGateway.Reply.Decoding
import Mathlib.Data.List.DropRight

/-!
# First calls

The searches for a function tag and for a method call stop at the first place that has the written
form. The written forms are told here by their parts, and each search is shown to find the parts at
the first place that has them, or to find nothing in a text that has none.
-/

namespace LlamaGateway

namespace FunctionTag

theorem closing_unbordered : Text.Unbordered closing := by decide

theorem open?_tag {name : List Char} (nonempty : name ≠ []) (closed : '>' ∉ name)
    (after : List Char) : open? (opening ++ (name ++ '>' :: after)) = some (name, after) := by
  obtain ⟨first, rest, rfl⟩ := List.exists_cons_of_ne_nil nonempty
  rw [open?, Text.dropPrefix?_append, Option.bind_some,
    Text.breakOn?_singleton_append closed after]

/-- The arguments of a tag end where its closing tag was put, if they hold none themselves. -/
theorem untilClosing_append {arguments : List Char} (fresh : ¬ closing <:+: arguments)
    (after : List Char) : untilClosing (arguments ++ closing ++ after) = arguments := by
  rw [untilClosing, Text.breakOn?_append_of_unbordered closing_unbordered fresh after]

/-- A whole tag at the start of a text is the first one. -/
theorem find?_tag {name arguments : List Char} (nonempty : name ≠ []) (closed : '>' ∉ name)
    (fresh : ¬ closing <:+: arguments) (after : List Char) :
    find? (opening ++ (name ++ '>' :: (arguments ++ closing ++ after))) =
      some (name, arguments) := by
  have here := open?_tag nonempty closed (arguments ++ closing ++ after)
  obtain ⟨c, rest, text_eq⟩ : ∃ c rest,
      opening ++ (name ++ '>' :: (arguments ++ closing ++ after)) = c :: rest := ⟨_, _, rfl⟩
  rw [text_eq] at here ⊢
  rw [find?, here]
  dsimp only
  rw [untilClosing_append fresh]

end FunctionTag

namespace QueryCall

/-- Without the method and its parameter, there is no opening of a query. -/
theorem opening_not_infix {text : List Char} (uncalled : ¬ ".call(query=".toList <:+: text) :
    ¬ opening <:+: text := by
  have starts : ".call(query=".toList <+: opening := ⟨['"'], rfl⟩
  exact fun occurs => uncalled (starts.isInfix.trans occurs)

theorem spanWord_append {word : List Char} (wordChars : ∀ c ∈ word, Text.isWordChar c = true)
    {next : Char} (boundary : Text.isWordChar next = false) (rest : List Char) :
    spanWord (word ++ next :: rest) = (word, next :: rest) := by
  rw [spanWord, List.takeWhile_append_of_pos wordChars, List.dropWhile_append_of_pos wordChars]
  simp [boundary]

/-- A whole method call at the start of a text is the first one. -/
theorem find?_call {word query : List Char} (nonempty : word ≠ [])
    (wordChars : ∀ c ∈ word, Text.isWordChar c = true) (unquoted : '"' ∉ query)
    (after : List Char) :
    find? false (word ++ (opening ++ (query ++ '"' :: ')' :: after))) = some (word, query) := by
  have boundary : Text.isWordChar '.' = false := by decide
  obtain ⟨dots, opening_eq⟩ : ∃ dots, opening = '.' :: dots := ⟨opening.tail, by decide⟩
  have span : spanWord (word ++ (opening ++ (query ++ '"' :: ')' :: after))) =
      (word, opening ++ (query ++ '"' :: ')' :: after)) := by
    rw [opening_eq]
    exact spanWord_append wordChars boundary _
  have here : start? (word ++ (opening ++ (query ++ '"' :: ')' :: after))) =
      some (word, query) := by
    simp only [start?, span, Text.dropPrefix?_append, Option.bind_some,
      Text.breakOn?_singleton_append unquoted]
  obtain ⟨c, rest, rfl⟩ := List.exists_cons_of_ne_nil nonempty
  rw [List.cons_append] at here ⊢
  simp [find?, here, wordChars c (by simp)]

end QueryCall

namespace FunctionTag

/-- A text starts with a tag of some name, and something follows the tag. -/
structure Opens (text name after : List Char) : Prop where
  /-- The tag. -/
  whole : text = opening ++ (name ++ '>' :: after)
  /-- There is a name. -/
  named : name ≠ []
  /-- The name ends at the first closing bracket. -/
  closed : '>' ∉ name

/-- A tag starts at a place. -/
def StartsAt (_before rest : List Char) : Prop :=
  ∃ name after, Opens rest name after

/-- The argument text of a tag: what follows the tag, up to the first closing tag if there is
one. -/
inductive ArgumentText (after : List Char) : List Char → Prop
  | closed {arguments rest : List Char}
      (first : Text.FirstPlace (Text.StartsAt closing) after arguments rest) :
      ArgumentText after arguments
  | unclosed (absent : ¬ closing <:+: after) : ArgumentText after after

/-- The name and the argument text of a tag that starts at a place. -/
def Reads (_before rest : List Char) (parts : List Char × List Char) : Prop :=
  ∃ after, Opens rest parts.1 after ∧ ArgumentText after parts.2

/-- Name and argument text of the first tag of a text. -/
def IsFirst (text name arguments : List Char) : Prop :=
  ∃ before rest, Text.FirstPlace StartsAt text before rest ∧ Reads before rest (name, arguments)

/-- An argument text is that of an object, as it is or with double quotes in place of single
ones. -/
inductive IsObject (arguments : List Char) (fields : Json.Fields) : Prop
  | plain
      (parsed : Json.parseFields? (String.ofList (Text.trimBlank arguments)) = some fields)
  | requoted
      (broken : Json.parseFields? (String.ofList (Text.trimBlank arguments)) = none)
      (parsed : Json.parseFields?
        (String.ofList (Text.replaceChar '\'' '"' (Text.trimBlank arguments))) = some fields)

theorem opening_ne_nil : opening ≠ [] := by decide

theorem open?_eq_some_iff {text name after : List Char} :
    open? text = some (name, after) ↔ Opens text name after := by
  constructor
  · intro found
    unfold open? at found
    split at found
    · next first rest behind parts =>
      simp only [Option.some.injEq, Prod.mk.injEq] at found
      obtain ⟨rfl, rfl⟩ := found
      obtain ⟨inside, lead, broken⟩ := Option.bind_eq_some_iff.1 parts
      obtain ⟨inside_eq, closed⟩ := Text.breakOn?_singleton_eq_some_iff.1 broken
      refine ⟨?_, by simp, closed⟩
      rw [Text.eq_append_of_dropPrefix? lead, inside_eq]
    · cases found
  · rintro ⟨rfl, named, closed⟩
    exact open?_tag named closed after

theorem open?_eq_none_iff {text : List Char} : open? text = none ↔ ¬ StartsAt [] text := by
  rw [Option.eq_none_iff_forall_ne_some]
  constructor
  · rintro missing ⟨name, after, opens⟩
    exact missing (name, after) (open?_eq_some_iff.2 opens)
  · rintro absent ⟨name, after⟩ found
    exact absent ⟨name, after, open?_eq_some_iff.1 found⟩

theorem untilClosing_eq_iff {after arguments : List Char} :
    untilClosing after = arguments ↔ ArgumentText after arguments := by
  unfold untilClosing
  split
  · next before rest broken =>
    have first := Text.breakOn?_eq_some_iff.1 broken
    constructor
    · rintro rfl
      exact .closed first
    · intro upTo
      cases upTo with
      | closed other => exact (first.unique other).1
      | unclosed absent => exact absurd (Text.nowhere_startsAt_iff.2 absent) first.not_nowhere
  · next missing =>
    have absent := Text.breakOn?_eq_none_iff.1 missing
    constructor
    · rintro rfl
      exact .unclosed absent
    · intro upTo
      cases upTo with
      | closed first => exact absurd (Text.nowhere_startsAt_iff.2 absent) first.not_nowhere
      | unclosed => rfl

/-- The search finds name and argument text of the first tag. -/
theorem finds_find? (text : List Char) : Text.Finds StartsAt Reads text (find? text) := by
  induction text with
  | nil =>
    refine .nothing (.nil ?_)
    rintro ⟨name, after, opens⟩
    exact opening_ne_nil (List.append_eq_nil_iff.1 opens.whole.symm).1
  | cons c text induction =>
    rw [find?]
    cases here : open? (c :: text) with
    | some parts =>
      have opens := open?_eq_some_iff.1 here
      exact .first (.start ⟨_, _, opens⟩) ⟨_, opens, untilClosing_eq_iff.1 rfl⟩
    | none =>
      exact .cons (open?_eq_none_iff.1 here) (fun _ _ _ => Iff.rfl) (fun _ _ _ _ read => read)
        induction

theorem Reads.functional {before rest : List Char} {parts other : List Char × List Char}
    (read : Reads before rest parts) (readOther : Reads before rest other) : parts = other := by
  obtain ⟨after, opens, upTo⟩ := read
  obtain ⟨after', opens', upTo'⟩ := readOther
  have same := (open?_eq_some_iff.2 opens).symm.trans (open?_eq_some_iff.2 opens')
  simp only [Option.some.injEq, Prod.mk.injEq] at same
  obtain ⟨names, rfl⟩ := same
  have texts := (untilClosing_eq_iff.2 upTo).symm.trans (untilClosing_eq_iff.2 upTo')
  exact Prod.ext names texts

theorem find?_eq_some_iff {text name arguments : List Char} :
    find? text = some (name, arguments) ↔ IsFirst text name arguments :=
  (finds_find? text).eq_some_iff fun _ _ _ _ => Reads.functional

theorem find?_eq_none_iff {text : List Char} : find? text = none ↔ Text.Nowhere StartsAt text :=
  (finds_find? text).eq_none_iff

/-- A text that does not hold the opening of a tag holds no tag. -/
theorem find?_eq_none {text : List Char} (absent : ¬ opening <:+: text) : find? text = none := by
  have unopened := Text.nowhere_startsAt_iff.2 absent
  refine find?_eq_none_iff.2 ?_
  rintro before rest whole ⟨name, after, opens⟩
  exact unopened before rest whole ⟨name ++ '>' :: after, opens.whole.symm⟩

theorem arguments?_eq_some_iff {arguments : List Char} {fields : Json.Fields} :
    arguments? (Text.trimBlank arguments) = some fields ↔ IsObject arguments fields := by
  unfold arguments?
  split
  · next other parsed =>
    constructor
    · rintro same
      exact .plain (parsed.trans same)
    · intro object
      cases object with
      | plain parses => exact parsed.symm.trans parses
      | requoted broken => simp [parsed] at broken
  · next broken =>
    constructor
    · exact .requoted broken
    · intro object
      cases object with
      | plain parses => simp [broken] at parses
      | requoted _ parses => exact parses

/-- A tag is read as a call exactly if its argument text is that of an object. -/
theorem call?_eq_some_iff {name arguments : List Char} {call : FoundCall} :
    call? name arguments = some call ↔
      ∃ fields, IsObject arguments fields ∧
        call = FoundCall.named (String.ofList (Text.trimBlank name)) fields := by
  rw [call?, Option.map_eq_some_iff]
  constructor
  · rintro ⟨fields, parsed, rfl⟩
    exact ⟨fields, arguments?_eq_some_iff.1 parsed, rfl⟩
  · rintro ⟨fields, object, rfl⟩
    exact ⟨fields, arguments?_eq_some_iff.2 object, rfl⟩

theorem call?_eq_none_iff {name arguments : List Char} :
    call? name arguments = none ↔ ∀ fields, ¬ IsObject arguments fields := by
  rw [call?, Option.map_eq_none_iff, Option.eq_none_iff_forall_ne_some]
  exact forall_congr' fun fields => not_congr arguments?_eq_some_iff

end FunctionTag

namespace QueryCall

/-- A text starts with a dot, the method and a query in quotes. -/
structure Asks (text query after : List Char) : Prop where
  /-- The parts. -/
  whole : text = opening ++ (query ++ '"' :: ')' :: after)
  /-- The query ends at the first quote. -/
  unquoted : '"' ∉ query

/-- The word at the end of a text, empty if the text does not end in one. -/
def lastWord (text : List Char) : List Char :=
  text.rtakeWhile Text.isWordChar

/-- A query starts at a place, directly behind a word. -/
def StartsAt (before rest : List Char) : Prop :=
  lastWord before ≠ [] ∧ ∃ query after, Asks rest query after

/-- The word in front of a place, and the query that starts there. -/
def Reads (before rest : List Char) (parts : List Char × List Char) : Prop :=
  parts.1 = lastWord before ∧ ∃ after, Asks rest parts.2 after

/-- Word and query of the first method call of a text. -/
def IsFirst (text word query : List Char) : Prop :=
  ∃ before rest, Text.FirstPlace StartsAt text before rest ∧ Reads before rest (word, query)

theorem lastWord_eq_self {text : List Char} (word : ∀ c ∈ text, Text.isWordChar c = true) :
    lastWord text = text :=
  List.rtakeWhile_eq_self_iff.2 word

/-- A last word that starts within a text does not reach over the character before it. -/
theorem lastWord_cons_of_mem {c : Char} {text : List Char}
    (bounded : ∃ d ∈ text, Text.isWordChar d = false) :
    lastWord (c :: text) = lastWord text := by
  obtain ⟨d, inside, outside⟩ := bounded
  have short : (text.reverse.takeWhile Text.isWordChar).length ≠ text.reverse.length := by
    intro long
    have whole := (List.takeWhile_prefix Text.isWordChar (l := text.reverse)).eq_of_length long
    have word := List.takeWhile_eq_self_iff.1 whole d (List.mem_reverse.2 inside)
    simp [outside] at word
  rw [lastWord, List.rtakeWhile, List.reverse_cons, List.takeWhile_append, if_neg short]
  rfl

theorem lastWord_cons_of_not_word {c : Char} (outside : Text.isWordChar c = false)
    (text : List Char) : lastWord (c :: text) = lastWord text := by
  by_cases bounded : ∃ d ∈ text, Text.isWordChar d = false
  · exact lastWord_cons_of_mem bounded
  · simp only [not_exists, not_and, Bool.not_eq_false] at bounded
    have reversed : ∀ d ∈ text.reverse, Text.isWordChar d = true := by simpa using bounded
    rw [lastWord_eq_self bounded, lastWord, List.rtakeWhile, List.reverse_cons,
      List.takeWhile_append_of_pos reversed]
    simp [outside]

/-- A query starts with a dot, which is part of no word. -/
theorem Asks.eq_cons {text query after : List Char} (asks : Asks text query after) :
    ∃ c rest, text = c :: rest ∧ Text.isWordChar c = false :=
  ⟨'.', opening.tail ++ (query ++ '"' :: ')' :: after), asks.whole, by decide⟩

/-- A query ends the word in front of it. -/
theorem spanWord_of_asks {word rest query after : List Char}
    (wordChars : ∀ c ∈ word, Text.isWordChar c = true) (asks : Asks rest query after) :
    spanWord (word ++ rest) = (word, rest) := by
  obtain ⟨c, tail, rfl, boundary⟩ := asks.eq_cons
  exact spanWord_append wordChars boundary tail

/-- The method call that starts a text is its first word with the query behind it. -/
theorem start?_eq_some_iff {text name query : List Char} :
    start? text = some (name, query) ↔
      name = (spanWord text).1 ∧ ∃ after, Asks (spanWord text).2 query after := by
  unfold start?
  constructor
  · intro found
    dsimp only at found
    split at found
    · next quoted after parts =>
      simp only [Option.some.injEq, Prod.mk.injEq] at found
      obtain ⟨rfl, rfl⟩ := found
      obtain ⟨inside, lead, broken⟩ := Option.bind_eq_some_iff.1 parts
      obtain ⟨inside_eq, unquoted⟩ := Text.breakOn?_singleton_eq_some_iff.1 broken
      refine ⟨rfl, after, ?_, unquoted⟩
      rw [Text.eq_append_of_dropPrefix? lead, inside_eq]
    · cases found
  · rintro ⟨rfl, after, whole, unquoted⟩
    simp only [whole, Text.dropPrefix?_append, Option.bind_some,
      Text.breakOn?_singleton_append unquoted]

/-- A query starts at a place behind a word. If the text continues a word, it is another one. -/
def StartsWithin (insideWord : Bool) (before rest : List Char) : Prop :=
  StartsAt before rest ∧ (insideWord = true → ∃ c ∈ before, Text.isWordChar c = false)

theorem startsWithin_false_iff {before rest : List Char} :
    StartsWithin false before rest ↔ StartsAt before rest := by
  simp [StartsWithin]

theorem not_startsWithin_nil (insideWord : Bool) (rest : List Char) :
    ¬ StartsWithin insideWord [] rest :=
  fun ⟨⟨word, _⟩, _⟩ => word rfl

/-- Behind a character that is part of no word, words start anew. -/
theorem startsWithin_cons_of_not_word {c : Char} (outside : Text.isWordChar c = false)
    (insideWord : Bool) (before rest : List Char) :
    StartsWithin insideWord (c :: before) rest ↔ StartsWithin false before rest := by
  simp [StartsWithin, StartsAt, lastWord_cons_of_not_word outside, outside]

/-- Within a word, the word goes on. -/
theorem startsWithin_true_cons {c : Char} (word : Text.isWordChar c = true)
    (before rest : List Char) :
    StartsWithin true (c :: before) rest ↔ StartsWithin true before rest := by
  simp only [StartsWithin, StartsAt, forall_const, List.exists_mem_cons_iff, word,
    Bool.true_eq_false, false_or]
  exact and_congr_left fun bounded => by rw [lastWord_cons_of_mem bounded]

/-- Where a word starts without a method call, no query is directly behind this word. -/
theorem startsWithin_false_cons {c : Char} {text before rest : List Char}
    (missing : start? (c :: text) = none) (word : Text.isWordChar c = true)
    (whole : text = before ++ rest) :
    StartsWithin false (c :: before) rest ↔ StartsWithin true before rest := by
  rw [← startsWithin_true_cons word]
  refine and_congr_right fun ⟨_, query, after, asks⟩ => ?_
  simp only [Bool.false_eq_true, false_implies, forall_const, true_iff]
  -- Otherwise the word reaches up to the query, and the search would have found the call here.
  by_contra unbounded
  simp only [not_exists, not_and, Bool.not_eq_false] at unbounded
  have span : spanWord (c :: text) = (c :: before, rest) := by
    rw [whole, ← List.cons_append]
    exact spanWord_of_asks unbounded asks
  have found : start? (c :: text) = some (c :: before, query) :=
    start?_eq_some_iff.2 (by rw [span]; exact ⟨rfl, after, asks⟩)
  rw [missing] at found
  cases found

/-- No query is within a word at the start of a text. -/
theorem length_le_of_startsAt {word rest earlier later : List Char}
    (wordChars : ∀ c ∈ word, Text.isWordChar c = true) (whole : word ++ rest = earlier ++ later)
    (starts : StartsAt earlier later) : word.length ≤ earlier.length := by
  obtain ⟨-, query, after, asks⟩ := starts
  obtain ⟨c, tail, rfl, outside⟩ := asks.eq_cons
  rcases List.append_eq_append_iff.1 whole with ⟨between, earlier_eq, -⟩ | ⟨between, word_eq, next⟩
  · simp [earlier_eq]
  · cases between with
    | nil => simp [word_eq]
    | cons d between =>
      -- The query would start with a character of the word.
      obtain ⟨rfl, -⟩ := List.cons.inj next
      have inWord := wordChars c (by simp [word_eq])
      simp [outside] at inWord

/-- The query of a method call that starts a text is its first one. -/
theorem finds_of_start? {c : Char} {text : List Char} {parts : List Char × List Char}
    (word : Text.isWordChar c = true) (found : start? (c :: text) = some parts) :
    Text.Finds (StartsWithin false) Reads (c :: text) (some parts) := by
  obtain ⟨name, query⟩ := parts
  obtain ⟨rfl, after, asks⟩ := start?_eq_some_iff.1 found
  have wordChars : ∀ d ∈ (spanWord (c :: text)).1, Text.isWordChar d = true :=
    fun d inside => List.mem_takeWhile_imp inside
  have whole : c :: text = (spanWord (c :: text)).1 ++ (spanWord (c :: text)).2 :=
    List.takeWhile_append_dropWhile.symm
  have isLast := (lastWord_eq_self wordChars).symm
  have nonempty : (spanWord (c :: text)).1 ≠ [] := by simp [spanWord, word]
  have starts : StartsAt (spanWord (c :: text)).1 (spanWord (c :: text)).2 :=
    ⟨isLast ▸ nonempty, query, after, asks⟩
  refine .first ⟨whole, ⟨starts, by simp⟩, ?_⟩ ⟨isLast, after, asks⟩
  rintro earlier later parts ⟨farther, -⟩
  exact length_le_of_startsAt wordChars (whole.symm.trans parts) farther

/-- The search finds the first query with the word in front of it. -/
theorem finds_find? (insideWord : Bool) (text : List Char) :
    Text.Finds (StartsWithin insideWord) Reads text (find? insideWord text) := by
  induction text generalizing insideWord with
  | nil => exact .nothing (.nil (not_startsWithin_nil insideWord []))
  | cons c text induction =>
    have absent := not_startsWithin_nil insideWord (c :: text)
    rw [find?]
    cases word : Text.isWordChar c with
    | false =>
      exact .cons absent
        (fun before rest _ => startsWithin_cons_of_not_word word insideWord before rest)
        (fun before _ _ _ read =>
          ⟨read.1.trans (lastWord_cons_of_not_word word before).symm, read.2⟩)
        (induction false)
    | true =>
      -- Whether the search is within the word already or has just entered it without finding a
      -- call, it goes on behind this character.
      have inWord (shift : ∀ before rest, text = before ++ rest →
          (StartsWithin insideWord (c :: before) rest ↔ StartsWithin true before rest)) :
          Text.Finds (StartsWithin insideWord) Reads (c :: text) (find? true text) :=
        .cons absent shift
          (fun before _ _ starts read =>
            ⟨read.1.trans (lastWord_cons_of_mem (starts.2 rfl)).symm, read.2⟩)
          (induction true)
      cases insideWord with
      | true => exact inWord fun before rest _ => startsWithin_true_cons word before rest
      | false =>
        cases here : start? (c :: text) with
        | some parts => simpa [here] using finds_of_start? word here
        | none => simpa [here] using inWord fun _ _ => startsWithin_false_cons here word

theorem Reads.functional {before rest : List Char} {parts other : List Char × List Char}
    (read : Reads before rest parts) (readOther : Reads before rest other) : parts = other := by
  obtain ⟨word, after, whole, unquoted⟩ := read
  obtain ⟨word', after', whole', unquoted'⟩ := readOther
  have queries := Text.breakOn?_singleton_append unquoted (')' :: after)
  rw [List.append_cancel_left (whole.symm.trans whole'),
    Text.breakOn?_singleton_append unquoted' (')' :: after')] at queries
  simp only [Option.some.injEq, Prod.mk.injEq] at queries
  exact Prod.ext (word.trans word'.symm) queries.1.symm

theorem find?_eq_some_iff {text word query : List Char} :
    find? false text = some (word, query) ↔ IsFirst text word query := by
  have same : StartsWithin false = StartsAt := by
    funext before rest
    exact propext startsWithin_false_iff
  rw [IsFirst, ← same]
  exact (finds_find? false text).eq_some_iff fun _ _ _ _ => Reads.functional

theorem find?_eq_none_iff {text : List Char} :
    find? false text = none ↔ Text.Nowhere StartsAt text := by
  rw [(finds_find? false text).eq_none_iff]
  exact forall₃_congr fun _ _ _ => not_congr startsWithin_false_iff

/-- A text that does not hold the opening of a query holds no method call. -/
theorem find?_eq_none {text : List Char} (absent : ¬ opening <:+: text) :
    find? false text = none := by
  have unopened := Text.nowhere_startsAt_iff.2 absent
  refine find?_eq_none_iff.2 ?_
  rintro before rest whole ⟨-, query, after, asks⟩
  exact unopened before rest whole ⟨query ++ '"' :: ')' :: after, asks.whole.symm⟩

end QueryCall

end LlamaGateway
