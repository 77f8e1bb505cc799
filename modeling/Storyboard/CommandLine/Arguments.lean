/-!
# Arguments of the command line

The first argument says what to do, the others are flags. A flag with a value takes it from
behind an equals sign or from the next argument, unless that looks like a flag itself. No flag
may be repeated. A request for help is answered where it stands, if nothing before it is wrong.
-/

namespace Storyboard

/-- What the command line asks for. -/
inductive Invocation where
  /-- Checks a scenario directory. -/
  | check (scenarioDir : String)
  /-- Plays a scenario directory. -/
  | play (scenarioDir : String) (label assetsDir : Option String) (auto : Bool)
  deriving DecidableEq

/-- What reading the arguments came to. -/
inductive Parsed where
  /-- They ask for something. -/
  | run (invocation : Invocation)
  /-- They ask for help. -/
  | help
  /-- They are wrong. -/
  | usage
  deriving DecidableEq

namespace Arguments

/-- The flags of a subcommand: those with a value and those without. -/
structure Flags where
  /-- Flags that take a value. -/
  valued : List String
  /-- Flags that stand alone. -/
  bare : List String

/-- The flags that were given, with their values. -/
abbrev Given := List (String × String)

/-- What reading the flags came to. -/
inductive Scan where
  | given (given : Given)
  | help
  | usage
  deriving DecidableEq

/-- Whether an argument looks like a flag. -/
def looksLikeFlag (arg : String) : Bool := arg.toList.head? = some '-' && arg ≠ "-"

/-- The name of a long flag and its attached value. -/
def splitFlag (arg : String) : String × Option String :=
  let body := arg.toList.drop 2
  match body.dropWhile (· ≠ '=') with
  | [] => (String.ofList body, none)
  | _ :: value => (String.ofList (body.takeWhile (· ≠ '=')), some (String.ofList value))

/-- Reads flags. -/
def scan (flags : Flags) (given : Given) : List String → Scan
  | [] => .given given
  -- Nothing may follow the end of the flags, as there are no other arguments.
  | "--" :: rest => if rest = [] then .given given else .usage
  | arg :: rest =>
    -- The only short flag asks for help, whatever is attached to it.
    if !"--".toList.isPrefixOf arg.toList then
      if "-h".toList.isPrefixOf arg.toList then .help else .usage
    else
      let (name, attached) := splitFlag arg
      if name = "help" then if attached.isSome then .usage else .help
      else if given.any (·.1 = name) then .usage
      else if name ∈ flags.bare then
        if attached.isSome then .usage else scan flags (given ++ [(name, "")]) rest
      else if name ∈ flags.valued then
        match attached, rest with
        | some value, rest => scan flags (given ++ [(name, value)]) rest
        | none, [] => .usage
        | none, value :: rest =>
          if looksLikeFlag value then .usage else scan flags (given ++ [(name, value)]) rest
      else .usage

/-- The value of a flag. -/
def value? (given : Given) (name : String) : Option String :=
  (given.find? (·.1 = name)).map (·.2)

/-- Reads flags and makes an invocation of them. -/
def finish (flags : Flags) (args : List String) (make : Given → Option Invocation) : Parsed :=
  match scan flags [] args with
  | .help => .help
  | .usage => .usage
  | .given given =>
    match make given with
    | some invocation => .run invocation
    | none => .usage

/-- The names of the subcommands. -/
def subcommands : List String := ["check", "play", "help"]

/-- Reads the arguments behind the program's name. -/
def parse : List String → Parsed
  | [] => .usage
  | "check" :: args =>
    finish ⟨["scenario-dir"], []⟩ args fun given => do
      return .check (← value? given "scenario-dir")
  | "play" :: args =>
    finish ⟨["scenario-dir", "label", "assets-dir"], ["auto"]⟩ args fun given => do
      return .play (← value? given "scenario-dir") (value? given "label")
        (value? given "assets-dir") (value? given "auto").isSome
  | "help" :: [] => .help
  | "help" :: [name] => if name ∈ subcommands then .help else .usage
  | "help" :: _ => .usage
  | arg :: _ =>
    if arg = "--help" || "-h".toList.isPrefixOf arg.toList then .help else .usage

end Arguments

end Storyboard
