import Wiring.Command
import Wiring.Document.Readers
import Wiring.Files.Tree

/-!
The command line: options before and after the subcommand, the environment that stands in for some of
them, and what the program writes in the end.
-/

namespace Wiring.CommandLine

inductive Opt where
  | name | target | map | dependency | external | hoist | verbose | dot | index | dir | output
  | debug | help
deriving DecidableEq, Repr

namespace Opt

def all : List Opt :=
  [name, target, map, dependency, external, hoist, verbose, dot, index, dir, output, debug, help]

def long : Opt → String
  | name => "name"
  | target => "target"
  | map => "map"
  | dependency => "dependency"
  | external => "external"
  | hoist => "hoist"
  | verbose => "verbose"
  | dot => "dot"
  | index => "index"
  | dir => "dir"
  | output => "output"
  | debug => "debug"
  | help => "help"

/-- The letter after one dash. -/
def short? : Opt → Option Char
  | output => some 'o'
  | debug => some 'd'
  | help => some 'h'
  | _ => none

def takesValue : Opt → Bool
  | hoist | verbose | dot | debug | help => false
  | _ => true

def isRepeatable : Opt → Bool
  | map | dependency | external | index => true
  | _ => false

/-- The option may stand before the subcommand. -/
def isGlobal : Opt → Bool
  | debug | help => true
  | _ => false

end Opt

inductive UsageError where
  | unexpected (argument : String)
  | missingValue (option : Opt)
  /-- An option that takes no value has one. -/
  | needlessValue (option : Opt)
  | repeated (option : Opt)
  | invalidValue (option : Opt) (value : String)
  | missing (option : Opt)
  | noSubcommand
deriving DecidableEq, Repr

namespace UsageError

def message : UsageError → String
  | unexpected argument => "unexpected argument " ++ Text.quoted argument
  | missingValue option => "a value is required for --" ++ option.long
  | needlessValue option => "no value is expected for --" ++ option.long
  | repeated option => "--" ++ option.long ++ " cannot be used multiple times"
  | invalidValue option value =>
    "invalid value " ++ Text.quoted value ++ " for --" ++ option.long
  | missing option => "--" ++ option.long ++ " is required"
  | noSubcommand => "a subcommand is required"

end UsageError

abbrev Given := List (Opt × String)

inductive Shape where
  /-- Two dashes alone: nothing after them is an option. -/
  | endOfOptions
  | long (name : String) (value : Option String)
  | short (letters : List Char)
  | word
deriving DecidableEq, Repr

/-- The shape of an argument. A dash alone is a word. -/
def shape (argument : String) : Shape :=
  match argument.toList with
  | ['-', '-'] => .endOfOptions
  | '-' :: '-' :: rest =>
    match Text.breakFirst '=' rest with
    | some (name, value) => .long (String.ofList name) (some (String.ofList value))
    | none => .long (String.ofList rest) none
  | '-' :: c :: rest => .short (c :: rest)
  | _ => .word

def give (given : Given) (option : Opt) (value : String) : Except UsageError Given :=
  if !option.isRepeatable && given.any (·.1 == option) then .error (.repeated option)
  else .ok (given ++ [(option, value)])

/-- The options of a cluster of letters, the last of which may have its value in the rest of the
argument. An option whose value is the next argument is answered separately. -/
def cluster (options : List Opt) (argument : String) :
    List Char → Given → Except UsageError (Given × Option Opt)
  | [], given => .ok (given, none)
  | letter :: letters, given =>
    match options.find? fun option => option.short? == some letter with
    | none => .error (.unexpected argument)
    | some option =>
      if option.takesValue then
        match letters with
        | [] => .ok (given, some option)
        | '=' :: value => do .ok (← give given option (String.ofList value), none)
        | value => do .ok (← give given option (String.ofList value), none)
      else do
        cluster options argument letters (← give given option "")

/-- The options of an argument that is no word, and the option whose value is the next argument. -/
def optionsOf (options : List Opt) (argument : String) (given : Given) :
    Except UsageError (Given × Option Opt) :=
  match shape argument with
  | .short letters => cluster options argument letters given
  | .long name value =>
    match options.find? (fun option => option.long == name), value with
    | none, _ => .error (.unexpected argument)
    | some option, none =>
      if option.takesValue then .ok (given, some option)
      else do .ok (← give given option "", none)
    | some option, some value =>
      if option.takesValue then do .ok (← give given option value, none)
      else .error (.needlessValue option)
  | _ => .error (.unexpected argument)

/-- Reads options up to the first word, and answers the word and what follows it. A request for help
ends the reading. -/
def readOptions (options : List Opt) :
    List String → Given → Except UsageError (Given × List String)
  | [], given => .ok (given, [])
  | argument :: rest, given =>
    match shape argument with
    | .word => .ok (given, argument :: rest)
    | .endOfOptions =>
      match rest with
      | [] => .ok (given, [])
      | next :: _ => .error (.unexpected next)
    | _ => do
      let (given, waiting) ← optionsOf options argument given
      if given.any (·.1 == .help) then
        .ok (given, [])
      else
        match waiting with
        | none => readOptions options rest given
        | some option =>
          match rest with
          | [] => .error (.missingValue option)
          | value :: rest =>
            if shape value = .word then do readOptions options rest (← give given option value)
            else .error (.missingValue option)

/-- What the arguments ask for. -/
inductive Invocation where
  | help
  | generate (command : Command) (output : Option String)
deriving Repr

def values (given : Given) (option : Opt) : List String :=
  given.filterMap fun (o, value) => if o = option then some value else none

def required (given : Given) (option : Opt) : Except UsageError String :=
  match values given option with
  | value :: _ => .ok value
  | [] => .error (.missing option)

/-- A path, which must not be empty. -/
def path (option : Opt) (value : String) : Except UsageError String :=
  if value = "" then .error (.invalidValue option value) else .ok value

/-- Two references with an equals sign between them. -/
def mapping (value : String) : Except UsageError (String × String) :=
  match Text.breakFirst '=' value.toList with
  | none => .error (.invalidValue .map value)
  | some (source, target) =>
    let source := Text.trimBlank source
    let target := Text.trimBlank target
    if source = [] ∨ target = [] then .error (.invalidValue .map value)
    else .ok (String.ofList source, String.ofList target)

def pathList (value : String) : List String :=
  (value.toList.splitOn ',').map String.ofList

/-- The values of an option that the environment may give instead. -/
def valuesOr (given : Given) (option : Opt) (fallback : Option String) : List String :=
  match values given option with
  | [] => fallback.toList
  | several => several

def command (environment : String → Option String) (given : Given) :
    Except UsageError Invocation := do
  let map ← (values given .map).mapM mapping
  let output ← (values given .output).mapM (path .output)
  let index ← ((valuesOr given .index (environment "WELD_INDEX")).flatMap pathList).mapM
    (path .index)
  let directory ← (valuesOr given .dir (environment "WELD_DIR")).mapM (path .dir)
  let name ← required given .name
  let target ← required given .target
  .ok (.generate
    { name, target, map, index
      dependencies := values given .dependency
      externals := values given .external
      hoist := !(values given .hoist).isEmpty
      verbose := !(values given .verbose).isEmpty
      dot := !(values given .dot).isEmpty
      directory := directory.head?.getD "." } output.head?)

def parse (environment : String → Option String) (arguments : List String) :
    Except UsageError Invocation := do
  let (before, rest) ← readOptions (Opt.all.filter Opt.isGlobal) arguments []
  if before.any (·.1 == .help) then
    .ok .help
  else
    match rest with
    | "di" :: rest =>
      let (given, rest) ← readOptions Opt.all rest []
      if given.any (·.1 == .help) then
        .ok .help
      else
        match rest with
        | [] => command environment given
        | argument :: _ => .error (.unexpected argument)
    | ["help"] | ["help", "di"] | ["help", "help"] => .ok .help
    | argument :: _ => .error (.unexpected argument)
    | [] => .error .noSubcommand

structure Outcome where
  code : Nat
  stdout : String
  stderr : String
  /-- A file to write, by its path and its content. -/
  file : Option (String × String)
deriving DecidableEq, Repr

namespace Outcome

/-- The lines below an error that tell what caused it, numbered if there are several. -/
def causeLines : List String → String
  | [] => ""
  | [cause] => "\n\nCaused by:\n    " ++ cause
  | causes => "\n\nCaused by:" ++
    String.join (causes.zipIdx.map fun (cause, i) => "\n    " ++ toString i ++ ": " ++ cause)

def report : List String → String
  | [] => ""
  | error :: causes => "Error: " ++ error ++ causeLines causes ++ "\n"

def failed (stderr : String) (texts : List String) : Outcome :=
  ⟨1, "", stderr ++ report texts, none⟩

def rejected (e : UsageError) : Outcome :=
  ⟨2, "", "error: " ++ e.message ++ "\n", none⟩

def usage : Outcome :=
  ⟨0, "Generate dependency wiring functions for Go\n\n" ++
    "Usage: weld [-d|--debug] di --name NAME --target TARGET [--map FROM=TO]... " ++
    "[--dependency REF]... [--external REF]... [--hoist] [--verbose] [--dot] [--index FILE]... " ++
    "[--dir DIR] [-o|--output FILE]\n", "", none⟩

/-- The output goes to a file if there is one to write. -/
def generated (g : Generated) (output : Option String) : Outcome :=
  let stderr := match g.tree with
    | some tree => tree ++ "\n"
    | none => ""
  match output with
  | some path => ⟨0, "", stderr, some (path, g.output)⟩
  | none => ⟨0, g.output, stderr, none⟩

/-- The outcome if the file cannot be written. -/
def unwritten (outcome : Outcome) (path : String) (e : FileError) : Outcome :=
  failed outcome.stderr ["Failed to write " ++ path, e.message]

def apply (outcome : Outcome) (w : Workspace) : Outcome × Workspace :=
  match outcome.file with
  | none => (outcome, w)
  | some (path, content) =>
    match w.write path content with
    | .ok w => (outcome, w)
    | .error e => (outcome.unwritten path e, w)

end Outcome

def run {m : Type → Type} [Monad m] [FileSystem m] (environment : String → Option String)
    (arguments : List String) : m Outcome := do
  match parse environment arguments with
  | .error e => pure (.rejected e)
  | .ok .help => pure .usage
  | .ok (.generate command output) =>
    match ← command.run.run with
    | .ok generated => pure (.generated generated output)
    | .error e => pure (.failed "" e.texts)

end Wiring.CommandLine
