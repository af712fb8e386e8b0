/-! The stages of a server's life, the reasons for which it ends, and the process signals that give
such a reason. -/
namespace DispatchServer

inductive ServerState
  | running
  | shuttingDown
  | stopped
  deriving DecidableEq, Repr

/-- Position in the only order in which the states may follow each other. -/
def ServerState.rank : ServerState → Nat
  | running => 0
  | shuttingDown => 1
  | stopped => 2

def ServerState.name : ServerState → String
  | running => "Running"
  | shuttingDown => "ShuttingDown"
  | stopped => "Stopped"

inductive ShutdownReason
  | terminate
  | reconfigure
  | spawnFailure
  deriving DecidableEq, Repr

namespace ShutdownReason

def name : ShutdownReason → String
  | terminate => "Terminate"
  | reconfigure => "Reconfigure"
  | spawnFailure => "SpawnFailure"

def all : List ShutdownReason := [terminate, reconfigure, spawnFailure]

def ofName? (name : String) : Option ShutdownReason := all.find? (·.name == name)

end ShutdownReason

/-- The process signals by their standard names. -/
inductive Signal
  | hup | int | quit | ill | trap | abrt | bus | fpe | kill | usr1 | segv | usr2 | pipe | alrm
  | term | stkflt | chld | cont | stop | tstp | ttin | ttou | urg | xcpu | xfsz | vtalrm | prof
  | winch | io | pwr | sys
  deriving DecidableEq, Repr

namespace Signal

def name : Signal → String
  | hup => "SIGHUP" | int => "SIGINT" | quit => "SIGQUIT" | ill => "SIGILL" | trap => "SIGTRAP"
  | abrt => "SIGABRT" | bus => "SIGBUS" | fpe => "SIGFPE" | kill => "SIGKILL" | usr1 => "SIGUSR1"
  | segv => "SIGSEGV" | usr2 => "SIGUSR2" | pipe => "SIGPIPE" | alrm => "SIGALRM"
  | term => "SIGTERM" | stkflt => "SIGSTKFLT" | chld => "SIGCHLD" | cont => "SIGCONT"
  | stop => "SIGSTOP" | tstp => "SIGTSTP" | ttin => "SIGTTIN" | ttou => "SIGTTOU"
  | urg => "SIGURG" | xcpu => "SIGXCPU" | xfsz => "SIGXFSZ" | vtalrm => "SIGVTALRM"
  | prof => "SIGPROF" | winch => "SIGWINCH" | io => "SIGIO" | pwr => "SIGPWR" | sys => "SIGSYS"

def all : List Signal :=
  [hup, int, quit, ill, trap, abrt, bus, fpe, kill, usr1, segv, usr2, pipe, alrm, term, stkflt,
    chld, cont, stop, tstp, ttin, ttou, urg, xcpu, xfsz, vtalrm, prof, winch, io, pwr, sys]

/-- The number that the kernel has for the signal. -/
def number (signal : Signal) : Nat := all.idxOf signal + 1

/-- What is pending after the signal is sent, the lowest number first. A signal that is pending
already is not queued again. -/
def pend (signal : Signal) (pending : List Signal) : List Signal :=
  pending.filter (·.number < signal.number) ++
    signal :: pending.filter (signal.number < ·.number)

/-- Only the exact name is accepted. -/
def ofName? (name : String) : Option Signal := all.find? (·.name == name)

/-- The signals that the listener consumes; every other thread blocks them. -/
def handled : Signal → Bool
  | term | hup | int => true
  | _ => false

/-- Whether the signal ends a process that does not handle it. A broken pipe does not: the daemon
ignores it. -/
def lethal : Signal → Bool
  | chld | cont | stop | tstp | ttin | ttou | urg | winch | pipe => false
  | _ => true

def reason : Signal → ShutdownReason
  | hup => .reconfigure
  | _ => .terminate

end Signal

end DispatchServer
