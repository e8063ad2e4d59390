import NodeGen.Command

/-! Commands read from the arguments of the program. -/

set_option autoImplicit false

namespace NodeGen

/-- Why arguments give no command to run. -/
inductive UsageError where
  | help
  | version
  /-- Nothing was given. -/
  | nothing
  | invalidSubcommand
  | unknownArgument
  | invalidValue
  | missingRequired
  | conflict
  | tooManyValues
  deriving DecidableEq, Repr

namespace UsageError

/-- What was asked for is no failure. -/
def exitCode : UsageError → Nat
  | .help | .version => 0
  | _ => 2

end UsageError

namespace Arguments

inductive OptionName where
  | builtin
  | pointer
  | query
  | input
  | language
  | out
  | package
  | imports
  | dryRun
  | help
  deriving DecidableEq, Repr

namespace OptionName

def takesValue : OptionName → Bool
  | .dryRun | .help => false
  | _ => true

/-- The option collects its values; others are given once. -/
def collects : OptionName → Bool
  | .input | .imports => true
  | _ => false

/-- One occurrence of the option takes all values that follow. -/
def takesMany : OptionName → Bool
  | .input => true
  | _ => false

def accepts : OptionName → String → Bool
  | .builtin, value => value == "lox"
  | .language, value => value == "java" || value == "rust"
  | .out, value => !value.isEmpty
  | _, _ => true

end OptionName

inductive Subcommand where
  | generate
  | schema
  deriving DecidableEq, Repr

def Subcommand.long? (subcommand : Subcommand) (name : String) : Option OptionName :=
  match name with
  | "builtin" => some .builtin
  | "json-pointer" => some .pointer
  | "jq-expr" => some .query
  | "input" => some .input
  | "out" => some .out
  | "no-op" => some .dryRun
  | "help" => some .help
  | "lang" => if subcommand = .generate then some .language else none
  | "package" => if subcommand = .generate then some .package else none
  | "import" => if subcommand = .generate then some .imports else none
  | _ => none

def short? : Char → Option OptionName
  | 'i' => some .input
  | 'o' => some .out
  | 'h' => some .help
  | _ => none

/-- An option with the values of one occurrence. -/
structure Occurrence where
  name : OptionName
  values : List String
  deriving DecidableEq, Repr

/-- Takes an occurrence up, after those that came before it. -/
def record (seen : List Occurrence) (occurrence : Occurrence) :
    Except UsageError (List Occurrence) :=
  if occurrence.name.takesValue && occurrence.values.isEmpty then .error .invalidValue
  else if occurrence.name = .help then .error .help
  else if !occurrence.name.collects && seen.any (·.name = occurrence.name) then .error .conflict
  else if !occurrence.values.all occurrence.name.accepts then .error .invalidValue
  else .ok (seen ++ [occurrence])

/-- Takes up an occurrence that may still have been waiting for values. -/
def settle (seen : List Occurrence) : Option Occurrence → Except UsageError (List Occurrence)
  | none => .ok seen
  | some occurrence => record seen occurrence

/-- A text that starts with two dashes, cut into name and attached value. -/
def splitLong (text : List Char) : String × Option String :=
  match text.dropWhile (· != '=') with
  | [] => (String.ofList text, none)
  | _ :: value => (String.ofList (text.takeWhile (· != '=')), some (String.ofList value))

/-- What an argument is. -/
inductive Shape where
  | endOfOptions
  | long (name : String) (attached : Option String)
  | short (letters : List Char)
  | value
  deriving DecidableEq, Repr

/-- A single dash is a value. -/
def shape (argument : String) : Shape :=
  match argument.toList with
  | ['-', '-'] => .endOfOptions
  | '-' :: '-' :: rest =>
    let (name, attached) := splitLong rest
    .long name attached
  | '-' :: letter :: rest => .short (letter :: rest)
  | _ => .value

/-- What is left to do after an option: wait for values, or not. -/
abbrev State : Type :=
  List Occurrence × Option Occurrence

/-- Letters after a single dash. A letter that takes a value takes the rest, less a sign of
equality before it. -/
def takeLetters (seen : List Occurrence) (pending : Option Occurrence) :
    List Char → Except UsageError State
  | [] => .ok (seen, pending)
  | letter :: rest =>
    match short? letter with
    | none => .error .unknownArgument
    | some name =>
      match settle seen pending with
      | .error error => .error error
      | .ok seen =>
        if !name.takesValue then
          match record seen ⟨name, []⟩ with
          | .error error => .error error
          | .ok seen => takeLetters seen none rest
        else
          match rest with
          | [] => .ok (seen, some ⟨name, []⟩)
          | '=' :: value =>
            (record seen ⟨name, [String.ofList value]⟩).map fun seen => (seen, none)
          | value => (record seen ⟨name, [String.ofList value]⟩).map fun seen => (seen, none)

def takeLong (subcommand : Subcommand) (seen : List Occurrence) (pending : Option Occurrence)
    (name : String) (attached : Option String) : Except UsageError State :=
  match subcommand.long? name with
  | none => .error .unknownArgument
  | some name =>
    if !name.takesValue && attached.isSome then .error .tooManyValues
    else do
      let seen ← settle seen pending
      match attached with
      | some value => return (← record seen ⟨name, [value]⟩, none)
      | none =>
        if name.takesValue then return (seen, some ⟨name, []⟩)
        else return (← record seen ⟨name, []⟩, none)

/-- A value goes to the option that waits for one. -/
def takeValue (seen : List Occurrence) (pending : Option Occurrence) (value : String) :
    Except UsageError State :=
  match pending with
  | none => .error .unknownArgument
  | some occurrence =>
    if occurrence.values.isEmpty || occurrence.name.takesMany then
      .ok (seen, some { occurrence with values := occurrence.values ++ [value] })
    else .error .unknownArgument

def readOptions (subcommand : Subcommand) (seen : List Occurrence) (pending : Option Occurrence) :
    List String → Except UsageError (List Occurrence)
  | [] => settle seen pending
  | argument :: rest =>
    match shape argument with
    | .endOfOptions => if rest.isEmpty then settle seen pending else .error .unknownArgument
    | .long name attached =>
      match takeLong subcommand seen pending name attached with
      | .error error => .error error
      | .ok (seen, pending) => readOptions subcommand seen pending rest
    | .short letters =>
      match takeLetters seen pending letters with
      | .error error => .error error
      | .ok (seen, pending) => readOptions subcommand seen pending rest
    | .value =>
      match takeValue seen pending argument with
      | .error error => .error error
      | .ok (seen, pending) => readOptions subcommand seen pending rest

def valuesOf (seen : List Occurrence) (name : OptionName) : List String :=
  (seen.filter (·.name = name)).flatMap (·.values)

def isGiven (seen : List Occurrence) (name : OptionName) : Bool :=
  seen.any (·.name = name)

/-- A document is either built in or read from files. -/
def inputSettings (seen : List Occurrence) : Except UsageError InputSettings :=
  if isGiven seen .builtin && isGiven seen .input then .error .conflict
  else if !isGiven seen .builtin && !isGiven seen .input then .error .missingRequired
  else .ok {
    builtin := if isGiven seen .builtin then some .lox else none
    pointer := (valuesOf seen .pointer).head?
    query := (valuesOf seen .query).head?
    inputs := valuesOf seen .input }

def readSubcommand (subcommand : Subcommand) (arguments : List String) :
    Except UsageError Command := do
  let seen ← readOptions subcommand [] none arguments
  let input ← inputSettings seen
  let out := (valuesOf seen .out).head?
  let dryRun := isGiven seen .dryRun
  match subcommand with
  | .schema => return .schema ⟨input, out, dryRun⟩
  | .generate =>
    return .generate {
      input
      language := if (valuesOf seen .language).head? = some "rust" then .rust else .java
      out
      package := (valuesOf seen .package).head?
      imports := valuesOf seen .imports
      dryRun }

def subcommandNames : List String :=
  ["generate", "schema", "help"]

/-- Help on the whole program or on one subcommand; a subcommand has none of its own. -/
def readHelp : List String → UsageError
  | [] => .help
  | [name] => if name ∈ subcommandNames then .help else .invalidSubcommand
  | _ => .invalidSubcommand

/-- Options before the subcommand. -/
def readTopLetter : List Char → UsageError
  | 'h' :: _ => .help
  | 'V' :: _ => .version
  | _ => .unknownArgument

def readTopLong (name : String) (attached : Option String) : UsageError :=
  if name = "help" || name = "version" then
    if attached.isSome then .tooManyValues
    else if name = "help" then .help else .version
  else .unknownArgument

/-- The command of a list of arguments, the name of the program left out. -/
def read : List String → Except UsageError Command
  | [] => .error .nothing
  | first :: rest =>
    match shape first with
    | .endOfOptions =>
      match rest with
      | [] => .error .nothing
      | next :: _ =>
        .error (if next ∈ subcommandNames then .unknownArgument else .invalidSubcommand)
    | .long name attached => .error (readTopLong name attached)
    | .short letters => .error (readTopLetter letters)
    | .value =>
      match first with
      | "generate" => readSubcommand .generate rest
      | "schema" => readSubcommand .schema rest
      | "help" => .error (readHelp rest)
      | _ => .error .invalidSubcommand

end Arguments

end NodeGen
