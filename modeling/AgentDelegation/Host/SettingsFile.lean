import AgentDelegation.Host.Settings
import AgentDelegation.Text.Utf8
import AgentDelegation.Toml.Document

/-!
# Settings files

Settings are had from the bytes of a file in three steps, and the first that fails gives the reason: the
bytes must be text, the text must be TOML that decodes as settings, and the settings must make sense.
-/

namespace AgentDelegation

open Json

/-- Why a file cannot be read as text. -/
inductive FileFault where
  | missing
  | directory
  | notUtf8
  | other (details : String)
deriving DecidableEq, Repr, Inhabited

namespace FileFault

def message : FileFault → String
  | .missing => "No such file or directory (os error 2)"
  | .directory => "Is a directory (os error 21)"
  | .notUtf8 => "stream did not contain valid UTF-8"
  | .other details => details

end FileFault

namespace Settings

def checked (settings : Settings) : Except SettingsFailure Settings :=
  match settings.fault? with
  | none => .ok settings
  | some fault => .error (.invalid fault)

def ofText (path : String) (cs : List Char) : Except SettingsFailure Settings :=
  match Toml.parse? cs with
  | none => .error (.malformed path "not a TOML document")
  | some document =>
    match format.read document with
    | .error fault => .error (.malformed path fault.message)
    | .ok settings => settings.checked

/-- The settings in a file of which the bytes are given, or why there are none. -/
def ofFile (path : String) (contents : Except FileFault (List UInt8)) : Except SettingsFailure Settings :=
  match contents with
  | .error fault => .error (.unreadable path fault.message)
  | .ok bytes =>
    match Text.Utf8.decode? bytes with
    | none => .error (.unreadable path FileFault.notUtf8.message)
    | some cs => ofText path cs

end Settings

end AgentDelegation
