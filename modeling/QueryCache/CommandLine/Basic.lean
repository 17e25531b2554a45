/-!
# The command line

What the arguments of the program ask for.  Options come first: `-c` or `--config` with the
path of the settings, and `--base-url` with an address in place of the one set there, each at
most once.  Then comes a command with its own words.  `--` ends the options of a command; what
follows are words, whatever they look like.

Arguments are read from the left.  A call for help or for the version is followed as soon as it
is met, and so is anything that cannot be understood refused.
-/

namespace QueryCache.CommandLine

/-- What there is to do. -/
inductive Command where
  /-- Watch the calls named in the settings and log what changes. -/
  | watch
  /-- Print the answer to one call, whose arguments are JSON. -/
  | fetch (endpoint args : String)
  /-- Print the key of a call. -/
  | key (endpoint args : String)
deriving DecidableEq, Repr

structure Invocation where
  settingsPath : Option String
  baseUrl : Option String
  command : Command
deriving DecidableEq, Repr

/-- The pages of the help. -/
inductive Page where
  | overview
  | watch
  | fetch
  | key
  | help
deriving DecidableEq, Repr

/-- The commands by name, `help` itself among them. -/
def Page.ofCommand? : String → Option Page
  | "watch" => some watch
  | "fetch" => some fetch
  | "key" => some key
  | "help" => some help
  | _ => none

/-- What the arguments come to. -/
inductive Reading where
  | run (i : Invocation)
  | help (page : Page)
  | version
  /-- They are not to be understood. -/
  | misuse
deriving DecidableEq, Repr

/-- The options that take a value. -/
inductive Setting where
  | settingsPath
  | baseUrl
deriving DecidableEq, Repr

/-- The values that options have been given so far. -/
structure Choices where
  settingsPath : Option String
  baseUrl : Option String
deriving DecidableEq, Repr

namespace Choices

def none : Choices := ⟨Option.none, Option.none⟩

/-- Gives an option its value, if it has none yet.  A path is not empty. -/
def set (c : Choices) (s : Setting) (value : String) : Option Choices :=
  match s with
  | .settingsPath =>
    if c.settingsPath.isSome ∨ value = "" then Option.none
    else some { c with settingsPath := some value }
  | .baseUrl =>
    if c.baseUrl.isSome then Option.none else some { c with baseUrl := some value }

end Choices

/-- Whether an argument has the look of an option.  A lone hyphen is a word. -/
def isOptionLike (argument : String) : Bool := argument.startsWith "-" && argument ≠ "-"

/-- What an argument in front of the command is. -/
inductive Leading where
  /-- An option, with its value if that is attached. -/
  | setting (s : Setting) (value : Option String)
  | help
  | version
  | command (page : Page)
  | unknown
deriving DecidableEq, Repr

/-- A long option: its name, and behind an equals sign its value. -/
def Leading.ofLong (text : List Char) : Leading :=
  let name := String.ofList (text.takeWhile (· ≠ '='))
  let value := match text.dropWhile (· ≠ '=') with
    | [] => none
    | _ :: value => some (String.ofList value)
  match name, value with
  | "config", value => setting .settingsPath value
  | "base-url", value => setting .baseUrl value
  | "help", none => help
  | "version", none => version
  | _, _ => unknown

/-- A short option: one letter.  What is attached is the value if the option takes one, with or
without an equals sign between them; otherwise it does not matter. -/
def Leading.ofShort : List Char → Leading
  | ['c'] => setting .settingsPath none
  | 'c' :: '=' :: value => setting .settingsPath (some (String.ofList value))
  | 'c' :: value => setting .settingsPath (some (String.ofList value))
  | 'h' :: _ => help
  | 'V' :: _ => version
  | _ => unknown

def Leading.ofArgument (argument : String) : Leading :=
  match argument.toList with
  | '-' :: '-' :: long => ofLong long
  | '-' :: short => ofShort short
  | _ => match Page.ofCommand? argument with
    | some page => command page
    | none => unknown

/-- The words of a command, as far as they can be read. -/
inductive Words where
  | words (found : List String)
  | help
  | misuse
deriving DecidableEq, Repr

/-- Reads the words of a command that takes at most so many. -/
def readWords : (most : Nat) → List String → Words
  | _, [] => .words []
  | most, "--" :: rest => if rest.length ≤ most then .words rest else .misuse
  | most, argument :: rest =>
    if argument = "--help" ∨ argument.startsWith "-h" then .help
    else if isOptionLike argument then .misuse
    else match most with
      | 0 => .misuse
      | most + 1 => match readWords most rest with
        | .words found => .words (argument :: found)
        | other => other

/-- A command whose words are an endpoint and perhaps arguments, which are null otherwise. -/
def callOf (command : String → String → Command) : List String → Option Command
  | [endpoint] => some (command endpoint "null")
  | [endpoint, args] => some (command endpoint args)
  | _ => none

/-- The page that help is asked for with these words. -/
def readHelp : List String → Reading
  | [] => .help .overview
  | [name] => match Page.ofCommand? name with
    | some page => .help page
    | none => .misuse
  | _ => .misuse

/-- Puts together what a command with its words asks for. -/
def readCall (c : Choices) (page : Page) (most : Nat) (command : List String → Option Command)
    (rest : List String) : Reading :=
  match readWords most rest with
  | .words found => match command found with
    | some command => .run ⟨c.settingsPath, c.baseUrl, command⟩
    | none => .misuse
  | .help => .help page
  | .misuse => .misuse

/-- Reads what stands behind the name of a command. -/
def readCommand (c : Choices) (page : Page) (rest : List String) : Reading :=
  match page with
  | .watch => readCall c .watch 0 (fun _ => some .watch) rest
  | .fetch => readCall c .fetch 2 (callOf .fetch) rest
  | .key => readCall c .key 2 (callOf .key) rest
  | .help | .overview => readHelp rest

/-- Reads arguments, with some options chosen already. -/
def readFrom (c : Choices) : List String → Reading
  | [] => .misuse
  | argument :: rest => match Leading.ofArgument argument with
    | .help => .help .overview
    | .version => .version
    | .unknown => .misuse
    | .command page => readCommand c page rest
    | .setting s (some value) => match c.set s value with
      | some c => readFrom c rest
      | none => .misuse
    | .setting s none => match rest with
      | [] => .misuse
      | value :: rest =>
        if isOptionLike value then .misuse
        else match c.set s value with
          | some c => readFrom c rest
          | none => .misuse

/-- Reads the arguments of the program. -/
def read (arguments : List String) : Reading := readFrom .none arguments

end QueryCache.CommandLine
