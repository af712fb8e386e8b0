import DispatchServer.Configuration.Basic

/-! The arguments of the daemon. They are read from left to right; a value that stands apart from
its option is looked at only when the next known flag or the end is reached, so an unknown argument
behind it is reported first. -/
namespace DispatchServer

/-- Why arguments are not accepted, or what they ask for instead of a run. -/
inductive ArgumentError
  | displayHelp
  | displayVersion
  | unknownArgument
  | valueValidation
  | invalidValue
  | argumentConflict
  | tooManyValues
  deriving DecidableEq, Repr

structure Arguments where
  config : Option String
  threads : Option UInt32
  memoryMb : Option UInt64
  deviceMb : List UInt64
  lockPages : Bool
  verbosity : Option Verbosity
  deriving DecidableEq, Repr

/-- Options that take a value. -/
inductive ValueOption
  | config
  | threads
  | memoryMb
  | deviceMb
  | verbosity
  deriving DecidableEq, Repr

namespace ValueOption

def name : ValueOption → String
  | config => "config"
  | threads => "num-threads"
  | memoryMb => "shmem-size-mb"
  | deviceMb => "device-max-alloc-mb"
  | verbosity => "log-verbosity"

def all : List ValueOption := [config, threads, memoryMb, deviceMb, verbosity]

def ofName? (name : String) : Option ValueOption := all.find? (·.name == name)

end ValueOption

def decimal? (text : List Char) : Option Nat :=
  if text.isEmpty ∨ !(text.all fun c => decide ('0' ≤ c) && decide (c ≤ '9')) then none
  else some (text.foldl (fun n c => 10 * n + (c.toNat - 48)) 0)

/-- Digits behind at most one plus sign, below a limit. -/
def unsigned? (limit : Nat) (text : List Char) : Option Nat :=
  let digits := match text with
    | '+' :: rest => rest
    | text => text
  (decimal? digits).filter (· < limit)

/-- A thread count; zero may have a minus sign. -/
def threads? (text : List Char) : Option Nat :=
  match text with
  | '-' :: rest => (decimal? rest).filter (· = 0)
  | text => unsigned? (maxThreads + 1) text

namespace Arguments

def none : Arguments := ⟨.none, .none, .none, [], false, .none⟩

/-- Whether an option that may be given once was given. -/
def has (arguments : Arguments) : ValueOption → Bool
  | .config => arguments.config.isSome
  | .threads => arguments.threads.isSome
  | .memoryMb => arguments.memoryMb.isSome
  | .deviceMb => false
  | .verbosity => arguments.verbosity.isSome

def orInvalid {α : Type} (f : α → Arguments) : Option α → Except ArgumentError Arguments
  | some value => .ok (f value)
  | .none => .error .valueValidation

/-- Takes up the value of an option. -/
def setValue (arguments : Arguments) (value : String) :
    ValueOption → Except ArgumentError Arguments
  | .config =>
    if value.isEmpty then .error .invalidValue else .ok { arguments with config := some value }
  | .threads =>
    orInvalid (fun n => { arguments with threads := some n.toUInt32 }) (threads? value.toList)
  | .memoryMb =>
    orInvalid (fun n => { arguments with memoryMb := some n.toUInt64 })
      (unsigned? UInt64.size value.toList)
  | .deviceMb =>
    orInvalid (fun n => { arguments with deviceMb := arguments.deviceMb ++ [n.toUInt64] })
      (unsigned? UInt64.size value.toList)
  | .verbosity =>
    match Verbosity.ofName? value with
    | some verbosity => .ok { arguments with verbosity := some verbosity }
    | .none => .error .invalidValue

/-- An option with its value, if it has got one: a missing value counts first, then a repetition. -/
def assign (arguments : Arguments) (option : ValueOption) (value : Option String) :
    Except ArgumentError Arguments :=
  match value with
  | .none => .error .invalidValue
  | some value =>
    if arguments.has option then .error .argumentConflict else arguments.setValue value option

abbrev Pending := Option (ValueOption × Option String)

/-- Looks at the value that was put off. -/
def settle (arguments : Arguments) : Pending → Except ArgumentError Arguments
  | .none => .ok arguments
  | some (option, value) => arguments.assign option value

/-- The name and the attached value of a long flag. -/
def splitFlag (text : List Char) : String × Option String :=
  match text.dropWhile (· ≠ '=') with
  | [] => (String.ofList text, .none)
  | _ :: value => (String.ofList (text.takeWhile (· ≠ '=')), some (String.ofList value))

/-- What a long flag makes of the arguments so far. -/
def longFlag (arguments : Arguments) (pending : Pending) (text : List Char) :
    Except ArgumentError (Arguments × Pending) :=
  match splitFlag text with
  | (name, value) =>
    match ValueOption.ofName? name with
    | some option =>
      match arguments.settle pending with
      | .error error => .error error
      | .ok arguments =>
        match value with
        | .none => .ok (arguments, some (option, .none))
        | some value =>
          (arguments.assign option (some value)).map fun arguments => (arguments, .none)
    | .none =>
      if name = "help" ∨ name = "version" ∨ name = "lock-pages" then
        match value, arguments.settle pending with
        | some _, _ => .error .tooManyValues
        | .none, .error error => .error error
        | .none, .ok arguments =>
          if name = "help" then .error .displayHelp
          else if name = "version" then .error .displayVersion
          else if arguments.lockPages then .error .argumentConflict
          else .ok ({ arguments with lockPages := true }, .none)
      else .error .unknownArgument

/-- What a short flag asks for; only the first letter counts. -/
def shortFlag (arguments : Arguments) (pending : Pending) (letter : Char) : ArgumentError :=
  let asked (error : ArgumentError) : ArgumentError :=
    match arguments.settle pending with
    | .error first => first
    | .ok _ => error
  if letter = 'h' then asked .displayHelp
  else if letter = 'V' then asked .displayVersion
  else .unknownArgument

/-- Reads the remaining arguments. -/
def readFrom (arguments : Arguments) (pending : Pending) :
    List String → Except ArgumentError Arguments
  | [] => arguments.settle pending
  | text :: rest =>
    match text.toList with
    | ['-', '-'] => if rest.isEmpty then arguments.settle pending else .error .unknownArgument
    | '-' :: '-' :: flag =>
      match arguments.longFlag pending flag with
      | .error error => .error error
      | .ok (arguments, pending) => readFrom arguments pending rest
    | '-' :: letter :: _ => .error (arguments.shortFlag pending letter)
    | _ =>
      match pending with
      | some (option, .none) => readFrom arguments (some (option, some text)) rest
      | _ => .error .unknownArgument

def read (texts : List String) : Except ArgumentError Arguments := none.readFrom .none texts

end Arguments

end DispatchServer
