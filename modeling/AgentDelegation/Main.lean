import AgentDelegation.Host.Basic
import AgentDelegation.Host.SettingsFile
import AgentDelegation.Text.Uuid

/-!
# The program

Reads the command line and the settings file, starts the host, and prints the answer to the command. The
program is built without a network, so it finds no remote agents; everything else it does is decided by
the modules it imports.
-/

namespace AgentDelegation.Program

def readContents (path : String) : IO (Except FileFault (List UInt8)) := do
  try
    let bytes ← IO.FS.readBinFile path
    return .ok bytes.toList
  catch
    | .noFileOrDirectory .. => return .error .missing
    | .inappropriateType .. => return .error .directory
    | failure => return .error (.other (toString failure))

def freshId : IO String := do
  let bytes ← IO.getRandomBytes 16
  return Text.Uuid.ofBytes bytes.toList

def runInvocation (invocation : Invocation) : IO UInt32 := do
  let contents ← readContents invocation.settingsPath
  match Settings.ofFile invocation.settingsPath contents with
  | .error failure =>
    IO.eprintln ("Error: loading host configuration from " ++ invocation.settingsPath
      ++ "\n\nCaused by:\n    " ++ failure.message)
    return 1
  | .ok settings =>
    match Host.start settings .unreachable (← freshId) with
    | .error failure =>
      IO.eprintln ("Error: " ++ failure.message)
      return 1
    | .ok host =>
      IO.println (host.run (← freshId) invocation.command)
      return 0

end AgentDelegation.Program

open AgentDelegation in
def main (args : List String) : IO UInt32 := do
  match Invocation.read args (← IO.getEnv "A2A_HOST_CONFIG") with
  | .error fault =>
    if fault.exitCode = 0 then IO.println fault.message else IO.eprintln fault.message
    return fault.exitCode.toUInt32
  | .ok invocation => Program.runInvocation invocation
