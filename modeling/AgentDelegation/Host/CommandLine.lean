/-!
# The command line

The host runs one command, and one option says where its settings are. The option's value may be attached
to it or follow it; a value that follows is looked at only when the next option or the end of the line
makes it final, so of two faults the one that is noticed first counts. Without the option the environment
may name the file, and without that it has a default name.
-/

namespace AgentDelegation

inductive Command where
  | agents
  | send (agent task : String)
  | skills
  | prompt
deriving DecidableEq, Repr, Inhabited

/-- What is to be run, with the settings of which file. -/
structure Invocation where
  settingsPath : String
  command : Command
deriving DecidableEq, Repr, Inhabited

/-- Why a command line runs nothing. -/
inductive UsageFault where
  /-- Help was asked for. -/
  | helpWanted
  /-- There is neither a command nor a settings file. -/
  | nothingGiven
  | missingCommand
  | missingOperand
  | unknownCommand
  | unknownArgument
  /-- The option has no value or an empty one. -/
  | noValue
  | repeatedOption
  /-- A value is attached to an option that takes none. -/
  | surplusValue
deriving DecidableEq, Repr, Inhabited

namespace UsageFault

/-- Asking for help is no failure. -/
def exitCode : UsageFault → Nat
  | .helpWanted => 0
  | _ => 2

def message : UsageFault → String
  | .helpWanted | .nothingGiven =>
    "Usage: a2a-host [-c FILE | --config FILE] (agents | send AGENT TASK | skills | prompt)"
  | .missingCommand => "error: a command is required"
  | .missingOperand => "error: an agent and a task are required"
  | .unknownCommand => "error: unknown command"
  | .unknownArgument => "error: unexpected argument"
  | .noValue => "error: the settings file needs a name"
  | .repeatedOption => "error: the settings file is named twice"
  | .surplusValue => "error: unexpected value of an option"

end UsageFault

/-- The shape of an argument. -/
inductive Word where
  | plain
  /-- Two dashes, after which every argument is plain. -/
  | dashes
  /-- An option by its long name, with the value attached to it. -/
  | long (name : List Char) (value : Option (List Char))
  /-- An option by its letter, with all that is attached to it. -/
  | short (letter : Char) (attached : List Char)
deriving DecidableEq, Repr, Inhabited

namespace Word

/-- The part before the first equals sign and the part after it. -/
def splitValue (cs : List Char) : List Char × Option (List Char) :=
  match cs.dropWhile (· != '=') with
  | [] => (cs, none)
  | _ :: value => (cs.takeWhile (· != '='), some value)

def ofChars : List Char → Word
  | ['-', '-'] => .dashes
  | '-' :: '-' :: cs => .long (splitValue cs).1 (splitValue cs).2
  | '-' :: letter :: attached => .short letter attached
  | _ => .plain

def of (arg : String) : Word := ofChars arg.toList

end Word

/-- A value of the option that is not final yet. -/
inductive Pending where
  | nothing
  /-- The option was given and its value is still to come. -/
  | awaited
  | given (value : String)
deriving DecidableEq, Repr, Inhabited

/-- What the arguments so far say about the settings file. -/
structure SettingsOption where
  path : Option String
  pending : Pending
deriving DecidableEq, Repr, Inhabited

namespace SettingsOption

def absent : SettingsOption := ⟨none, .nothing⟩

def settle : SettingsOption → Except UsageFault SettingsOption
  | ⟨path, .nothing⟩ => .ok ⟨path, .nothing⟩
  | ⟨_, .awaited⟩ => .error .noValue
  | ⟨some _, .given _⟩ => .error .repeatedOption
  | ⟨none, .given value⟩ => if value = "" then .error .noValue else .ok ⟨some value, .nothing⟩

def await (option : SettingsOption) : Except UsageFault SettingsOption :=
  option.settle.map fun settled => ⟨settled.path, .awaited⟩

def attach (option : SettingsOption) (value : List Char) : Except UsageFault SettingsOption := do
  let settled ← option.settle
  settle ⟨settled.path, .given (String.ofList value)⟩

/-- The settings file that was named, at the end of the line. -/
def conclude (option : SettingsOption) (environment : Option String) : Except UsageFault (Option String) := do
  let settled ← option.settle
  match settled.path, environment with
  | some path, _ => .ok (some path)
  | none, some path => if path = "" then .error .noValue else .ok (some path)
  | none, none => .ok none

end SettingsOption

namespace Command

def names : List String := ["agents", "send", "skills", "prompt", "help"]

/-- Reads the operands of a command, of which some have been read, in reverse. -/
def operands (limit : Nat) : List String → List String → Except UsageFault (List String)
  | [], found => .ok found.reverse
  | arg :: rest, found =>
    match Word.of arg with
    | .dashes =>
      if found.length + rest.length ≤ limit then .ok (found.reverse ++ rest) else .error .unknownArgument
    | .long name value =>
      if name = "help".toList then .error (if value.isSome then .surplusValue else .helpWanted)
      else .error .unknownArgument
    | .short letter _ => .error (if letter = 'h' then .helpWanted else .unknownArgument)
    | .plain => if found.length < limit then operands limit rest (arg :: found) else .error .unknownArgument

/-- A request for help on a command; no command has commands of its own. -/
def help : List String → UsageFault
  | [] => .helpWanted
  | [name] => if names.contains name then .helpWanted else .unknownCommand
  | _ => .unknownCommand

def read (name : String) (args : List String) : Except UsageFault Command :=
  if name = "help" then .error (help args)
  else if name = "send" then do
    match ← operands 2 args [] with
    | [agent, task] => .ok (.send agent task)
    | _ => .error .missingOperand
  else do
    let _ ← operands 0 args []
    if name = "agents" then .ok .agents
    else if name = "skills" then .ok .skills
    else if name = "prompt" then .ok .prompt
    else .error .unknownCommand

end Command

namespace Invocation

def defaultPath : String := "host.toml"

/-- A line that ends without a command. -/
def finish (environment : Option String) (option : SettingsOption) : UsageFault :=
  match option.conclude environment with
  | .error fault => fault
  | .ok none => .nothingGiven
  | .ok (some _) => .missingCommand

def readFrom (environment : Option String) : SettingsOption → List String → Except UsageFault Invocation
  | option, [] => .error (finish environment option)
  | option, arg :: rest =>
    if option.pending ≠ .awaited ∧ Command.names.contains arg then do
      let command ← Command.read arg rest
      let path ← option.conclude environment
      .ok ⟨path.getD defaultPath, command⟩
    else
      match Word.of arg with
      | .dashes =>
        match rest with
        | [] => .error (finish environment option)
        | next :: _ => .error (if Command.names.contains next then .unknownArgument else .unknownCommand)
      | .long name value =>
        if name = "config".toList then
          match value with
          | some value => option.attach value >>= fun option => readFrom environment option rest
          | none => option.await >>= fun option => readFrom environment option rest
        else if name = "help".toList then
          match value with
          | some _ => .error .surplusValue
          | none => option.settle >>= fun _ => .error .helpWanted
        else .error .unknownArgument
      | .short letter attached =>
        if letter = 'c' then
          match attached with
          | [] => option.await >>= fun option => readFrom environment option rest
          | '=' :: value => option.attach value >>= fun option => readFrom environment option rest
          | value => option.attach value >>= fun option => readFrom environment option rest
        else if letter = 'h' then option.settle >>= fun _ => .error .helpWanted
        else .error .unknownArgument
      | .plain =>
        if option.pending = .awaited then readFrom environment ⟨option.path, .given arg⟩ rest
        else .error .unknownCommand

/-- Reads the arguments of the program; the environment may name the settings file. -/
def read (args : List String) (environment : Option String) : Except UsageFault Invocation :=
  readFrom environment .absent args

end Invocation

end AgentDelegation
