import LlamaGateway.Json.Printer
import LlamaGateway.Proofs.Json.Building
import LlamaGateway.Text.Basic
import LlamaGateway.Proofs.Text.Trimming

/-!
# Texts of objects

An object is written between braces, and only a text whose first token is an opening brace is read
as one: a builder whose outermost container is an array keeps it until the end, so no later token
can make an object of it.
-/

namespace LlamaGateway

namespace Json

theorem compactMoreMembers_eq (members : List (String × Json)) :
    ∃ front, compactMoreMembers members = front ++ ['}'] := by
  induction members with
  | nil => exact ⟨[], rfl⟩
  | cons member members induction =>
    obtain ⟨key, value⟩ := member
    obtain ⟨front, rest_eq⟩ := induction
    refine ⟨',' :: quote key ++ ':' :: compact value ++ front, ?_⟩
    simp [compactMoreMembers, rest_eq]

/-- The text of an object stands between braces. -/
theorem compact_object_eq (members : List (String × Json)) :
    ∃ middle, (Json.object members).compact = '{' :: (middle ++ ['}']) := by
  cases members with
  | nil => exact ⟨[], rfl⟩
  | cons member members =>
    obtain ⟨key, value⟩ := member
    obtain ⟨front, rest_eq⟩ := compactMoreMembers_eq members
    refine ⟨quote key ++ ':' :: compact value ++ front, ?_⟩
    simp [compact, compactMembers, rest_eq]

@[simp] theorem trimBlank_compact_object (members : List (String × Json)) :
    Text.trimBlank (Json.object members).compact = (Json.object members).compact := by
  obtain ⟨middle, text_eq⟩ := compact_object_eq members
  rw [text_eq]
  exact Text.trim_eq_self (by decide) (by decide)

theorem parseFields?_of_parse? {text : String} {fields : Fields}
    (parsed : parse? text = some (.object fields)) : parseFields? text = some fields := by
  simp [parseFields?, parsed]

namespace Token

theorem next?_eq_openBrace {c : Char} {rest after : List Char}
    (read : next? (c :: rest) = some (.openBrace, after)) : c = '{' := by
  unfold next? at read
  split at read <;> simp_all

/-- The first token of a text that is not white space comes from its first other character. -/
theorem head?_of_scan? {limit : Nat} {text : List Char} {tokens : List Token}
    (scanned : scan? limit text = some (.openBrace :: tokens)) :
    (text.dropWhile isSpace).head? = some '{' := by
  induction limit generalizing text with
  | zero =>
    cases text with
    | nil => simp [scan?] at scanned
    | cons c rest => simp [scan?] at scanned
  | succ limit induction =>
    cases text with
    | nil => simp [scan?] at scanned
    | cons c rest =>
      rw [scan?] at scanned
      split at scanned
      · next space =>
        rw [List.dropWhile_cons_of_pos space]
        exact induction scanned
      · next noSpace =>
        rw [List.dropWhile_cons_of_neg noSpace, List.head?_cons]
        split at scanned
        · next token after read =>
          obtain ⟨later, -, same⟩ := Option.map_eq_some_iff.1 scanned
          obtain ⟨rfl, -⟩ := List.cons.inj same
          rw [next?_eq_openBrace read]
        · cases scanned

end Token

namespace Document

namespace Builder

/-- The document cannot become an object: it is none, or its outermost container is an array. -/
def NeverObject : Builder → Prop
  | .finished document => ∀ fields, document.toJson? ≠ some (.object fields)
  | .reading frames _ => ∃ inner before, frames = inner ++ [Frame.array before]

theorem neverObject_close_array (depth : Nat) (before : List Document) :
    NeverObject (.finished (Frame.close depth (.array before))) := by
  intro fields
  unfold Frame.close
  split <;> simp [toJson?]

/-- A value delivered inside an array at the root leaves it there. -/
theorem neverObject_deliver (document : Document) (inner : List Frame)
    (before : List Document) : NeverObject (deliver document (inner ++ [.array before])) := by
  cases inner with
  | nil => exact ⟨[], document :: before, rfl⟩
  | cons frame inner =>
    cases frame with
    | array items => exact ⟨.array (document :: items) :: inner, before, rfl⟩
    | object members key => exact ⟨.object ((key, document) :: members) none :: inner, before, rfl⟩

/-- Every move keeps an array at the root. -/
theorem NeverObject.move {token : Token} {frames : List Frame} {expectation : Expectation}
    {next : Builder} (never : NeverObject (.reading frames expectation))
    (move : Move token frames next) : NeverObject next := by
  obtain ⟨inner, before, root⟩ := never
  cases move with
  | openArray => exact ⟨.array [] :: inner, before, by rw [root, List.cons_append]⟩
  | openObject => exact ⟨.object [] none :: inner, before, by rw [root, List.cons_append]⟩
  | scalar =>
    rw [root]
    exact neverObject_deliver _ inner before
  | close =>
    cases inner with
    | nil =>
      cases root
      exact neverObject_close_array _ before
    | cons frame inner =>
      cases root
      exact neverObject_deliver _ inner before
  | name =>
    cases inner with
    | nil => cases root
    | cons frame inner =>
      cases root
      exact ⟨.object _ _ :: inner, before, rfl⟩
  | goOn => exact ⟨inner, before, root⟩

/-- A first token other than an opening brace settles that the document is no object. -/
theorem neverObject_of_first {token : Token} {state : Builder} (other : token ≠ .openBrace)
    (started : startValue? [] token = some state) : NeverObject state := by
  unfold startValue? at started
  split at started <;> cases started
  · exact ⟨[], [], rfl⟩
  · exact absurd rfl other
  all_goals
    intro fields
    simp [toJson?]

end Builder

theorem head?_of_ofTokens? {tokens : List Token} {document : Document} {fields : Fields}
    (read : ofTokens? tokens = some document) (value : document.toJson? = some (.object fields)) :
    tokens.head? = some .openBrace := by
  unfold ofTokens? at read
  split at read
  · next ran =>
    cases read
    cases tokens with
    | nil => simp [Builder.run?] at ran
    | cons token tokens =>
      obtain ⟨state, started, rest⟩ := Option.bind_eq_some_iff.1 ran
      by_cases brace : token = .openBrace
      · rw [brace, List.head?_cons]
      · have never := Builder.neverObject_of_first brace started
        exact absurd value
          (Builder.run_of_moves (fun _ => Builder.NeverObject.move) never rest fields)
  · cases read

end Document

/-- The first character of an object's text that is not white space is an opening brace. -/
theorem head?_of_parseFields? {text : List Char} {fields : Fields}
    (parsed : parseFields? (String.ofList text) = some fields) :
    (text.dropWhile Token.isSpace).head? = some '{' := by
  unfold parseFields? at parsed
  split at parsed
  · next members whole =>
    obtain ⟨document, read, value⟩ := Option.bind_eq_some_iff.1 whole
    obtain ⟨tokens, scanned, built⟩ := Option.bind_eq_some_iff.1 read
    obtain ⟨rest, tokens_eq⟩ :=
      List.head?_eq_some_iff.1 (Document.head?_of_ofTokens? built value)
    rw [String.toList_ofList, tokens_eq] at scanned
    exact Token.head?_of_scan? scanned
  · cases parsed

end Json

end LlamaGateway
