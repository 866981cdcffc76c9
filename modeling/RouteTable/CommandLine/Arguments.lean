import RouteTable.Config
import RouteTable.Request

/-!
# Arguments of the command line

`Command.parse` reads the words after the program's name.  An option is long or short; its value follows it as a word of
its own, after an equals sign or, for a short one, directly.  Words are read from left to right: the value of an option
is looked at when the next option or the end is reached, and required options are missed only at the end.
-/

namespace RouteTable

/-- What is wrong with the words of a command line, and the two ways to ask for help. -/
inductive UsageError
  | missingRequiredArgument
  | unknownArgument
  | invalidSubcommand
  | missingSubcommand
  | invalidValue
  | valueValidation
  | argumentConflict
  | tooManyValues
  | displayHelp
  | displayHelpOnMissingArgument
deriving DecidableEq, Repr

namespace UsageError

def message : UsageError → String
  | missingRequiredArgument => "a required option is missing"
  | unknownArgument => "an argument is not known"
  | invalidSubcommand => "the command is not known"
  | missingSubcommand => "a command is needed"
  | invalidValue => "an option lacks its value"
  | valueValidation => "the value of an option is not understood"
  | argumentConflict => "an option is given twice"
  | tooManyValues => "an option that takes no value has one"
  | displayHelp | displayHelpOnMissingArgument => "help is asked for"

/-- Help that was asked for is no mistake. -/
def exitCode : UsageError → UInt32
  | displayHelp => 0
  | _ => 2

end UsageError

inductive Flag
  | verbose | help | spec | config | basedir | handlers | basePathMode | noDefault | json | method | path | param
  | query | header | cookie | body
deriving DecidableEq, Repr

/-- What kind of value an option takes. -/
inductive ValueKind
  | none | file | text | mode | pair
deriving DecidableEq, Repr

namespace Flag

def long : Flag → String
  | verbose => "verbose"
  | help => "help"
  | spec => "spec"
  | config => "config"
  | basedir => "basedir"
  | handlers => "handlers"
  | basePathMode => "base-path-mode"
  | noDefault => "no-default"
  | json => "json"
  | method => "method"
  | path => "path"
  | param => "param"
  | query => "query"
  | header => "header"
  | cookie => "cookie"
  | body => "body"

def short? : Flag → Option Char
  | verbose => some 'v'
  | help => some 'h'
  | spec => some 's'
  | config => some 'c'
  | method => some 'm'
  | path => some 'p'
  | _ => none

def kind : Flag → ValueKind
  | spec | config | basedir | handlers => .file
  | basePathMode => .mode
  | method | path | body => .text
  | param | query | header | cookie => .pair
  | verbose | help | noDefault | json => .none

/-- Options that collect all their values. -/
def repeats (f : Flag) : Bool := f.kind == .pair

/-- Options that every command has. -/
def general : List Flag := [verbose, help]

def compiling : List Flag := [spec, config, basedir, handlers, basePathMode, noDefault]

end Flag

/-- A name and a value around the first equals sign; the name is trimmed and may not be empty. -/
def pair? (s : String) : Option (String × String) := do
  let (name, value) ← Text.splitOnce? '=' s
  if Text.trim name = "" then none else some (Text.trim name, value)

namespace ValueKind

/-- What is wrong with a value of this kind. -/
def fault? (k : ValueKind) (value : String) : Option UsageError :=
  match k with
  | .file => if value = "" then some .invalidValue else Option.none
  | .mode =>
    match BasePathMode.parse value with
    | .ok _ => Option.none
    | .error _ => some .valueValidation
  | .pair => if (pair? value).isNone then some .valueValidation else Option.none
  | _ => Option.none

end ValueKind

/-- Options read so far with their values, in order. -/
structure Words where
  known : List Flag
  given : List (Flag × String) := []
  /-- The last option, with its value once that is read. -/
  pending : Option (Flag × Option String) := none
  /-- Nothing but plain words may follow. -/
  optionsEnded : Bool := false

namespace Words

def value? (w : Words) (f : Flag) : Option String := (w.given.find? (·.1 = f)).map (·.2)

def values (w : Words) (f : Flag) : List String := (w.given.filter (·.1 = f)).map (·.2)

def has (w : Words) (f : Flag) : Bool := w.given.any (·.1 = f)

def store (w : Words) (f : Flag) (value : String) : Except UsageError Words :=
  if w.has f ∧ !f.repeats then .error .argumentConflict
  else match f.kind.fault? value with
    | some e => .error e
    | none => .ok { w with given := w.given ++ [(f, value)] }

/-- Takes the value of the last option into account. -/
def settle (w : Words) : Except UsageError Words :=
  match w.pending with
  | none => .ok w
  | some (_, none) => .error .invalidValue
  | some (f, some value) => { w with pending := none }.store f value

def setFlag (w : Words) (f : Flag) : Except UsageError Words := do
  let w ← w.settle
  if f = .help then .error .displayHelp else w.store f ""

/-- An option with a value that is attached to it or still to come. -/
def setOption (w : Words) (f : Flag) (attached : Option String) : Except UsageError Words := do
  let w ← w.settle
  match attached with
  | some value => w.store f value
  | none => .ok { w with pending := some (f, none) }

def longOption (w : Words) (word : String) : Except UsageError Words :=
  let (name, attached) := match Text.splitOnce? '=' word with
    | some (name, value) => (name, some value)
    | none => (word, none)
  match w.known.find? (·.long = name), attached with
  | none, _ => .error .unknownArgument
  | some f, attached =>
    if f.kind ≠ .none then w.setOption f attached
    else if attached.isSome then .error .tooManyValues
    else w.setFlag f

/-- Short options in one word; the first that takes a value takes the rest of the word. -/
def shortOptions (w : Words) : List Char → Except UsageError Words
  | [] => .ok w
  | c :: rest =>
    match w.known.find? (·.short? = some c) with
    | none => .error .unknownArgument
    | some f =>
      if f.kind = .none then do (← w.setFlag f).shortOptions rest
      else match rest with
        | [] => w.setOption f none
        | '=' :: value => w.setOption f (some (String.ofList value))
        | value => w.setOption f (some (String.ofList value))

/-- Reads a word that starts with a dash, or the value of the last option; `none` for any other word. -/
def word (w : Words) (s : String) : Except UsageError (Option Words) :=
  if w.optionsEnded then .ok none
  else match s.toList with
    | ['-', '-'] => .ok (some { w with optionsEnded := true })
    | '-' :: '-' :: name => (w.longOption (String.ofList name)).map some
    | '-' :: c :: rest => (w.shortOptions (c :: rest)).map some
    | _ =>
      match w.pending with
      | some (f, none) => .ok (some { w with pending := some (f, some s) })
      | _ => .ok none

/-- Reads the words of a command, all of which have to be options. -/
def readAll (w : Words) : List String → Except UsageError Words
  | [] => w.settle
  | s :: rest => do
    match ← w.word s with
    | some w => w.readAll rest
    | none => .error .unknownArgument

end Words

/-- What every command needs for compiling. -/
structure CompileArguments where
  spec : String
  config : Option String := none
  basedir : Option String := none
  handlers : Option String := none
  basePathMode : Option BasePathMode := none
  noDefault : Bool := false

inductive Command
  | inspect (args : CompileArguments) (json : Bool)
  | check (args : CompileArguments)
  | invoke (args : CompileArguments) (method path : String) (params query headers cookies : Pairs)
      (body : Option String)

namespace Command

def arguments : Command → CompileArguments
  | inspect args _ | check args | invoke args .. => args

inductive Name
  | inspect | check | invoke
deriving DecidableEq, Repr

def Name.ofString? (s : String) : Option Name :=
  match s with
  | "inspect" => some inspect
  | "check" => some check
  | "invoke" => some invoke
  | _ => none

def Name.flags (n : Name) : List Flag :=
  Flag.general ++ Flag.compiling ++ match n with
    | inspect => [.json]
    | check => []
    | invoke => [.method, .path, .param, .query, .header, .cookie, .body]

def compileArguments (w : Words) : Except UsageError CompileArguments :=
  match w.value? .spec with
  | none => .error .missingRequiredArgument
  | some spec => .ok
    { spec, config := w.value? .config, basedir := w.value? .basedir, handlers := w.value? .handlers
      basePathMode := (w.value? .basePathMode).bind fun s => (BasePathMode.parse s).toOption
      noDefault := w.has .noDefault }

def pairsOf (w : Words) (f : Flag) : Pairs := (w.values f).filterMap pair?

def ofWords (n : Name) (w : Words) : Except UsageError Command := do
  let args ← compileArguments w
  match n with
  | .inspect => return .inspect args (w.has .json)
  | .check => return .check args
  | .invoke =>
    match w.value? .path with
    | none => .error .missingRequiredArgument
    | some path =>
      return .invoke args ((w.value? .method).getD "GET") path (pairsOf w .param) (pairsOf w .query)
        (pairsOf w .header) (pairsOf w .cookie) (w.value? .body)

/-- What every use of the program may look like. -/
def help : String :=
  let command (n : String) (options : String) := "  " ++ n ++ " --spec FILE" ++ options ++ "\n"
  "Compiles API descriptions into route tables.\n\nCommands:\n" ++ command "inspect" " [--json]"
    ++ command "check" "" ++ command "invoke" (" --path PATH [--method VERB] [--param NAME=VALUE] [--query NAME=VALUE]"
      ++ "\n    [--header NAME=VALUE] [--cookie NAME=VALUE] [--body JSON]")
    ++ "\nOptions of every command:\n  --config FILE, --basedir DIR, --handlers DIR, "
    ++ "--base-path-mode MODE, --no-default, --verbose, --help\n"

/-- Help on commands, each of which has to be known. -/
def helpOn (names : List String) : UsageError :=
  match names with
  | [] => .displayHelp
  | ["help"] => .displayHelp
  | [name] => if (Name.ofString? name).isSome then .displayHelp else .invalidSubcommand
  | _ => .invalidSubcommand

/-- Reads options up to the name of a command. -/
def parseFrom (w : Words) : List String → Except UsageError Command
  | [] => do
    let w ← w.settle
    if w.given.isEmpty then .error .displayHelpOnMissingArgument else .error .missingSubcommand
  | s :: rest =>
    if w.optionsEnded then
      .error (if (Name.ofString? s).isSome ∨ s = "help" then .unknownArgument else .invalidSubcommand)
    else if s = "help" then .error (helpOn rest)
    else match Name.ofString? s with
      | some n => do
        let w ← { known := n.flags : Words }.readAll rest
        ofWords n w
      | none => do
        match ← w.word s with
        | some w => parseFrom w rest
        | none => .error .invalidSubcommand

def parse (words : List String) : Except UsageError Command := parseFrom { known := Flag.general } words

end Command

end RouteTable
