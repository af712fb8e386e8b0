import DispatchServer.Configuration.Arguments
import DispatchServer.Configuration.Directory
import DispatchServer.Configuration.File

/-! The configuration that arguments and file make together: each value is that of the argument if
given, else that of the file, else the initial one. -/
namespace DispatchServer

inductive LoadError
  | unreadable (name : String) (cause : ReadError)
  | unparsable (name : String) (text : List Char) (fault : Json.Fault)

namespace LoadError

/-- What was being done. -/
def context : LoadError → String
  | unreadable name _ => "failed to read " ++ name
  | unparsable name _ _ => "failed to parse " ++ name

/-- The whole chain of causes, outermost first. -/
def message : LoadError → String
  | unreadable name cause => "failed to read " ++ name ++ ": " ++ cause.message
  | unparsable name text fault => "failed to parse " ++ name ++ ": " ++ fault.message text

end LoadError

namespace Config

def ofFile (directory : Directory) (name : String) : Except LoadError Config :=
  match directory.text name with
  | .error cause => .error (.unreadable name cause)
  | .ok text =>
    match ofText text with
    | .error fault => .error (.unparsable name text fault)
    | .ok config => .ok config

/-- The arguments win over what the file says. -/
def override (config : Config) (arguments : Arguments) : Config where
  threads := arguments.threads.getD config.threads
  memoryMb := arguments.memoryMb.getD config.memoryMb
  deviceMb := if arguments.deviceMb.isEmpty then config.deviceMb else arguments.deviceMb
  lockPages := arguments.lockPages || config.lockPages
  verbosity := arguments.verbosity.getD config.verbosity

def load (directory : Directory) (arguments : Arguments) : Except LoadError Config :=
  match arguments.config with
  | none => .ok (initial.override arguments)
  | some name => (ofFile directory name).map fun config => config.override arguments

end Config

end DispatchServer
