import DispatchServer.Daemon

/-! The command line of the daemon. It looks at one file, that of the configuration, and takes the
signals that arrive from one line of standard input. -/
namespace DispatchServer.CommandLine

/-- Where the segment is mapped. -/
def mappedAt : Nat := 0x7f0000000000

/-- The directory as far as the arguments name something in it. -/
def directoryOf (texts : List String) : IO Directory := do
  match Arguments.read texts with
  | .ok ⟨some name, _, _, _, _, _⟩ =>
    match ← (IO.FS.readBinFile name).toBaseIO with
    | .ok bytes => return [(name, .file bytes)]
    | .error (.inappropriateType ..) => return [(name, .directory)]
    | .error _ => return []
  | _ => return []

/-- The signals that a line names. -/
def signalsOf (line : String) : List Signal :=
  ((line.replace "\n" " ").splitOn " ").filterMap Signal.ofName?

def run (texts : List String) : IO DaemonRun := do
  match Daemon.configure (← directoryOf texts) texts with
  | .error run => return run
  | .ok config =>
    let line ← (← IO.getStdin).getLine
    return Daemon.execute ⟨mappedAt, none⟩ config (signalsOf line)

end DispatchServer.CommandLine

def main (texts : List String) : IO UInt32 := do
  let run ← DispatchServer.CommandLine.run texts
  for text in run.texts .absolute do
    IO.eprintln text
  return (run.exit?.getD 0).toUInt32
