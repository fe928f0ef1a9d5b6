import LlamaGateway.Floating.Basic
import LlamaGateway.Request.Generation
import LlamaGateway.Text.Basic
import LlamaGateway.Text.Bytes

/-!
# Command-line arguments

The commands of the command line and the general rules of its options: a long option is written
`--name value` or `--name=value`, a short one `-n value`, `-nvalue` or `-n=value`. A value that
follows its option does not start with a dash, unless it is one. Two dashes end the options. The
options before the command apply to every command; two of them may also come from environment
variables.
-/

namespace LlamaGateway

namespace CommandLine

/-- A text without its sign, and whether the sign is a minus. -/
def takeSign : List Char → Bool × List Char
  | '+' :: rest => (false, rest)
  | '-' :: rest => (true, rest)
  | text => (false, text)

/-- A count that fits 32 bits. -/
def count? (text : String) : Option Nat :=
  let (negative, digits) := takeSign text.toList
  let value := Text.decimalValue digits
  if digits.isEmpty ∨ ¬ digits.all Char.isDigit then none
  else if Nat.pow 2 32 ≤ value ∨ (negative ∧ value ≠ 0) then none
  else some value

/-- The exponent that a text names: a sign and digits. -/
def exponent? (text : List Char) : Option Int :=
  let (negative, digits) := takeSign text
  if digits.isEmpty ∨ ¬ digits.all Char.isDigit then none
  else some (if negative then -(Text.decimalValue digits : Int) else Text.decimalValue digits)

/-- The double nearest to `digits * 10 ^ exponent`. Powers beyond every double are cut off. -/
def scaled (negative : Bool) (digits : List Char) (exponent : Int) : Floating :=
  let value := Text.decimalValue digits
  let magnitude : Int := exponent + digits.length
  if value = 0 ∨ magnitude < -400 then Floating.Format.double.nearest negative 0 1
  else if 400 < exponent then .infinite negative
  else
    match exponent with
    | .ofNat up => Floating.Format.double.nearest negative (value * Nat.pow 10 up) 1
    | .negSucc down => Floating.Format.double.nearest negative value (Nat.pow 10 (down + 1))

/-- The number with digits before and after a point and an exponent. -/
def decimal? (negative : Bool) (text : List Char) : Option Floating := do
  let whole := text.takeWhile Char.isDigit
  let rest := text.dropWhile Char.isDigit
  let (fraction, rest) :=
    match rest with
    | '.' :: rest => (rest.takeWhile Char.isDigit, rest.dropWhile Char.isDigit)
    | rest => ([], rest)
  let exponent ←
    match rest with
    | [] => some 0
    | mark :: digits => if mark = 'e' ∨ mark = 'E' then exponent? digits else none
  if whole.isEmpty ∧ fraction.isEmpty then none
  else some (scaled negative (whole ++ fraction) (exponent - fraction.length))

/-- The number that a text names. -/
def floating? (text : String) : Option Floating :=
  let (negative, unsigned) := takeSign text.toList
  match String.ofList (unsigned.map Char.toLower) with
  | "inf" | "infinity" => some (.infinite negative)
  | "nan" => some .nan
  | _ => decimal? negative unsigned

/-- How to generate a text. -/
structure GenerationOptions where
  /-- Print the text as it is generated. -/
  stream : Bool
  /-- The longest text, in tokens. -/
  maxTokens : Option Nat
  /-- The temperature. -/
  temperature : Option Floating
deriving DecidableEq, Repr

/-- The sampling parameters of options. -/
def GenerationOptions.sampling (options : GenerationOptions) : SamplingParams :=
  { SamplingParams.default with maxTokens := options.maxTokens, temperature := options.temperature }

/-- A command. -/
inductive Command where
  | complete (model prompt : String) (options : GenerationOptions)
  | chat (model message : String) (system : Option String) (images : List String)
      (options : GenerationOptions)
deriving DecidableEq, Repr

/-- A command and what applies to every command. -/
structure Invocation where
  /-- The path of the configuration file, in bytes. -/
  configPath : Option (List UInt8)
  /-- The caller's API key. -/
  apiKey : Option String
  /-- The command. -/
  command : Command
deriving DecidableEq, Repr

/-- The values that an option takes. -/
inductive ValueKind where
  | text
  | path
  | count
  | number
deriving DecidableEq, Repr

/-- The text is a value of the kind. -/
def ValueKind.accepts (kind : ValueKind) (text : String) : Bool :=
  match kind with
  | .text => true
  | .path => !text.isEmpty
  | .count => (count? text).isSome
  | .number => (floating? text).isSome

/-- An option that a command takes. -/
structure OptionSpec where
  /-- The long name. -/
  name : String
  /-- The short name. -/
  letter : Option Char
  /-- The value that follows; none for a flag. -/
  value : Option ValueKind
  /-- It may be given more than once. -/
  repeatable : Bool
deriving DecidableEq, Repr

/-- An option as it is given. -/
structure GivenOption where
  /-- The option. -/
  spec : OptionSpec
  /-- The value, empty for a flag. -/
  value : String
deriving DecidableEq, Repr

/-- The option that asks for help. -/
def helpOption : OptionSpec := ⟨"help", some 'h', none, false⟩

/-- Why arguments are not carried out. -/
inductive Refusal where
  /-- They ask for help. -/
  | help
  /-- They are no command. -/
  | usage
  /-- They ask for help on a name below the one that help itself has. -/
  | unknownTopic (name : String)
deriving DecidableEq, Repr

/-- The text of a refusal, if it is more than the usage. -/
def Refusal.message? : Refusal → Option String
  | .help | .usage => none
  | .unknownTopic name => some ("unrecognized subcommand '" ++ name ++ "'")

/-- An argument as the option it may be. -/
inductive Argument where
  /-- Two dashes. -/
  | separator
  /-- A long option and what follows an equality sign. -/
  | long (name : List Char) (value : Option (List Char))
  /-- The letter of a short option and what follows it. -/
  | short (letter : Char) (rest : List Char)
  /-- No option. -/
  | operand (text : String)
deriving DecidableEq, Repr

/-- A text before an equality sign and after it. -/
def splitValue (text : List Char) : List Char × Option (List Char) :=
  match Text.breakOn? ['='] text with
  | some (name, value) => (name, some value)
  | none => (text, none)

/-- The argument of a text. -/
def Argument.ofString (text : String) : Argument :=
  match text.toList with
  | ['-', '-'] => .separator
  | '-' :: '-' :: rest => .long (splitValue rest).1 (splitValue rest).2
  | '-' :: letter :: rest => .short letter rest
  | _ => .operand text

/-- The text may be the value of the option before it. -/
def isValue (text : String) : Bool :=
  match Argument.ofString text with
  | .operand _ => true
  | _ => false

/-- The value that stands behind the letter of a short option. -/
def attachedValue (rest : List Char) : Option String :=
  match rest with
  | [] => none
  | '=' :: value => some (String.ofList value)
  | value => some (String.ofList value)

/-- The arguments of a command, sorted out as far as they are read. -/
structure Sorted where
  /-- The options that are looked at, in order. -/
  options : List GivenOption
  /-- The arguments that are no options, in order. -/
  operands : List String
  /-- An option with a value of its own, which is looked at when the next argument of the same
  command is read. -/
  pending : Option GivenOption
deriving DecidableEq, Repr

namespace Sorted

/-- No arguments. -/
def empty : Sorted := ⟨[], [], none⟩

/-- The option is given. -/
def has (sorted : Sorted) (name : String) : Bool :=
  sorted.options.any fun given => given.spec.name = name

/-- The values that are given for an option, in order. -/
def values (sorted : Sorted) (name : String) : List String :=
  (sorted.options.filter fun given => given.spec.name = name).map GivenOption.value

/-- The arguments with one more option, which may ask for help, repeat one that may not be repeated
or have a value of the wrong kind. -/
def withOption (given : GivenOption) (sorted : Sorted) : Except Refusal Sorted :=
  if given.spec = helpOption then .error .help
  else if !given.spec.repeatable && sorted.has given.spec.name then .error .usage
  else if given.spec.value.all fun kind => kind.accepts given.value then
    .ok { sorted with options := sorted.options ++ [given] }
  else .error .usage

/-- The arguments after the pending option is looked at. -/
def settled (sorted : Sorted) : Except Refusal Sorted :=
  match sorted.pending with
  | none => .ok sorted
  | some given => withOption given { sorted with pending := none }

/-- The arguments with more operands, of which there is room for a number. -/
def withOperands (room : Nat) (operands : List String) (sorted : Sorted) : Except Refusal Sorted :=
  let operands := sorted.operands ++ operands
  if room < operands.length then .error .usage else .ok { sorted with operands := operands }

end Sorted

/-- What an option does to the arguments after it. -/
inductive Effect where
  /-- It is complete. -/
  | complete (given : GivenOption)
  /-- The next argument is its value. -/
  | takesNext (spec : OptionSpec)
  /-- It cannot be given like this. -/
  | refused

/-- The effect of a long option. -/
def longEffect (specs : List OptionSpec) (name : List Char) (value : Option (List Char)) : Effect :=
  match specs.find? fun spec => spec.name.toList = name with
  | none => .refused
  | some spec =>
    match spec.value, value with
    | some _, some value => .complete ⟨spec, String.ofList value⟩
    | some _, none => .takesNext spec
    | none, some _ => .refused
    | none, none => .complete ⟨spec, ""⟩

/-- The effect of a short option. A flag counts whatever follows its letter. -/
def shortEffect (specs : List OptionSpec) (letter : Char) (rest : List Char) : Effect :=
  match specs.find? fun spec => spec.letter = some letter with
  | none => .refused
  | some spec =>
    match spec.value, attachedValue rest with
    | some _, some value => .complete ⟨spec, value⟩
    | some _, none => .takesNext spec
    | none, _ => .complete ⟨spec, ""⟩

/-- The arguments of a command, sorted out in order, given those before them. There is room for a
number of operands; without one the first operand is the name of a command, and it and everything
after it stay as they are. -/
def sort (specs : List OptionSpec) (room : Option Nat) (sorted : Sorted) :
    List String → Except Refusal Sorted
  | [] => sorted.settled
  | text :: rest =>
    let proceed : Effect → Except Refusal Sorted
      | .complete given => do
        let sorted ← sorted.settled
        let sorted ← sorted.withOption given
        sort specs room sorted rest
      | .takesNext spec => do
        let sorted ← sorted.settled
        match rest with
        | value :: rest =>
          if isValue value then sort specs room { sorted with pending := some ⟨spec, value⟩ } rest
          else throw .usage
        | [] => throw .usage
      | .refused => .error .usage
    match Argument.ofString text with
    | .long name value => proceed (longEffect specs name value)
    | .short letter after => proceed (shortEffect specs letter after)
    | .separator =>
      match room with
      | some room => do (← sorted.settled).withOperands room rest
      | none => .error .usage
    | .operand operand =>
      match room with
      | some count => do
        let sorted ← sorted.settled
        let sorted ← sorted.withOperands count [operand]
        sort specs room sorted rest
      | none => .ok { sorted with operands := operand :: rest }

/-- The options before the command. -/
def generalOptions : List OptionSpec :=
  [⟨"config", some 'c', some .path, false⟩, ⟨"api-key", none, some .text, false⟩, helpOption]

/-- The options of both commands. -/
def generationOptions : List OptionSpec :=
  [⟨"stream", none, none, false⟩, ⟨"max-tokens", none, some .count, false⟩,
    ⟨"temperature", none, some .number, false⟩, helpOption]

/-- The options of a chat. -/
def chatOptions : List OptionSpec :=
  [⟨"system", none, some .text, false⟩, ⟨"image", none, some .text, true⟩] ++ generationOptions

/-- How to generate a text. -/
def generation (sorted : Sorted) : GenerationOptions :=
  ⟨sorted.has "stream", (sorted.values "max-tokens").head?.bind count?,
    (sorted.values "temperature").head?.bind floating?⟩

/-- What comes of asking for help on a list of names, which should lead to a command. -/
def helpOn : List String → Refusal
  | [] | ["complete"] | ["chat"] | ["help"] => .help
  | "help" :: name :: _ => .unknownTopic name
  | _ => .usage

/-- The command with a name. -/
def command (name : String) (arguments : List String) : Except Refusal Command :=
  match name with
  | "complete" => do
    let sorted ← sort generationOptions (some 2) .empty arguments
    match sorted.operands with
    | [model, prompt] => return .complete model prompt (generation sorted)
    | _ => throw .usage
  | "chat" => do
    let sorted ← sort chatOptions (some 2) .empty arguments
    match sorted.operands with
    | [model, message] =>
      return .chat model message (sorted.values "system").head? (sorted.values "image")
        (generation sorted)
    | _ => throw .usage
  | "help" => throw (helpOn arguments)
  | _ => throw .usage

/-- A value of the command line, or else that of an environment variable, whose bytes are read. -/
def orVariable {α : Type} (read : List UInt8 → Option α) (given : Option α)
    (fallback : Option (List UInt8)) : Except Refusal (Option α) :=
  match given, fallback with
  | some value, _ => .ok (some value)
  | none, none => .ok none
  | none, some bytes =>
    match read bytes with
    | some value => .ok (some value)
    | none => .error .usage

/-- A path in bytes, which need not be a text, but is not empty. -/
def pathBytes? (bytes : List UInt8) : Option (List UInt8) :=
  if bytes.isEmpty then none else some bytes

/-- The text that bytes hold. -/
def textOf? (bytes : List UInt8) : Option String :=
  (Utf8.decode? bytes).map String.ofList

/-- The environment variable with the path of the configuration file. -/
def configVariable : String := "SPARK_CONFIG"

/-- The environment variable with the caller's API key. -/
def apiKeyVariable : String := "FIREWORKS_API_KEY"

/-- The invocation of a list of arguments, given the bytes of environment variables. -/
def invocation (setting? : String → Option (List UInt8)) (arguments : List String) :
    Except Refusal Invocation := do
  let sorted ← sort generalOptions none .empty arguments
  match sorted.operands with
  | [] => throw .usage
  | name :: rest => do
    let command ← command name rest
    let sorted ← sorted.settled
    let path := (sorted.values "config").head?.map fun text => Utf8.encode text.toList
    let path ← orVariable pathBytes? path (setting? configVariable)
    let apiKey ← orVariable textOf? (sorted.values "api-key").head? (setting? apiKeyVariable)
    return ⟨path, apiKey, command⟩

end CommandLine

end LlamaGateway
