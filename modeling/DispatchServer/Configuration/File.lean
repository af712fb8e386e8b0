import DispatchServer.Configuration.Basic
import DispatchServer.Json.Reader

/-! Reading a configuration from a JSON text: an object of known keys, each at most once, or a list
of the values in order. What is missing keeps its initial value. -/
namespace DispatchServer

open Json

inductive ConfigKey
  | threads
  | memoryMb
  | deviceMb
  | lockPages
  | verbosity
  deriving DecidableEq, Repr

namespace ConfigKey

def name : ConfigKey → String
  | threads => "num_threads"
  | memoryMb => "shmem_size_mb"
  | deviceMb => "device_max_alloc_mb"
  | lockPages => "lock_pages"
  | verbosity => "log_verbosity"

def all : List ConfigKey := [threads, memoryMb, deviceMb, lockPages, verbosity]

def ofName? (name : String) : Option ConfigKey := all.find? (·.name == name)

end ConfigKey

/-- Names between backquotes, one after the other. -/
def quotedNames (names : List String) : String :=
  ", ".intercalate (names.map fun name => "`" ++ name ++ "`")

namespace Config

def readThreads (left : List Char) : Read UInt32 :=
  (unsigned UInt32.size "u32" left).map fun (n, left) => (n.toUInt32, left)

def readWord (left : List Char) : Read UInt64 :=
  (unsigned UInt64.size "u64" left).map fun (n, left) => (n.toUInt64, left)

def readVerbosity (left : List Char) : Read Verbosity :=
  variant Verbosity.ofName? (quotedNames (Verbosity.all.map (·.name))) left

/-- Reads the value of a key into the configuration. -/
def readValue (config : Config) (left : List Char) : ConfigKey → Read Config
  | .threads => (readThreads left).map fun (n, left) => ({ config with threads := n }, left)
  | .memoryMb => (readWord left).map fun (n, left) => ({ config with memoryMb := n }, left)
  | .deviceMb => (list readWord left).map fun (ns, left) => ({ config with deviceMb := ns }, left)
  | .lockPages => (boolean left).map fun (b, left) => ({ config with lockPages := b }, left)
  | .verbosity => (readVerbosity left).map fun (v, left) => ({ config with verbosity := v }, left)

/-- A fault of a key, whose place is decided where the object would end. -/
def keyFault {α : Type} (text : String) (left : List Char) : Read α :=
  .error ⟨.data text, left, 0, false⟩

/-- The remaining keys of an object; a key has at least one character, so the fuel can be what is
left of the text. -/
def readKeys : (fuel : Nat) → (seen : List ConfigKey) → Config → List Char → Read Config
  | 0, _, _, left => stop .eofInObject left 0
  | fuel + 1, seen, config, left =>
    match nextKey seen.isEmpty left with
    | .error fault => .error fault
    | .ok (none, left) => .ok (config, left)
    | .ok (some name, left) =>
      match ConfigKey.ofName? name with
      | none =>
        keyFault ("unknown field `" ++ name ++ "`, expected one of " ++
          quotedNames (ConfigKey.all.map (·.name))) left
      | some key =>
        if seen.contains key then keyFault ("duplicate field `" ++ key.name ++ "`") left
        else
          match colon left with
          | .error fault => .error fault
          | .ok (_, left) =>
            match config.readValue left key with
            | .error fault => .error fault
            | .ok (config, left) => readKeys fuel (key :: seen) config left

/-- The values of a list, in the order of the keys, as far as there are any. -/
def readPositions (config : Config) (left : List Char) :
    (first : Bool) → List ConfigKey → Read Config
  | _, [] => .ok (config, left)
  | first, key :: keys =>
    match nextElement first left with
    | .error fault => .error fault
    | .ok (false, left) => .ok (config, left)
    | .ok (true, left) =>
      match config.readValue left key with
      | .error fault => .error fault
      | .ok (config, left) => readPositions config left false keys

/-- Decides the place of a fault that has none yet: behind what ends the object, as far as it does.
-/
def placed (fault : Fault) : Fault :=
  if fault.placed then fault
  else match endObject fault.left with
    | .ok (_, left) => { fault with left := left, placed := true }
    | .error reached => { fault with left := reached.left, placed := true }

def readBody (left : List Char) : Read Config :=
  match skipBlank left with
  | [] => stop .eofInValue [] 0
  | '[' :: left =>
    match readPositions initial left true ConfigKey.all with
    | .error fault => .error fault
    | .ok (config, left) => (endList left).map fun (_, left) => (config, left)
  | '\x7b' :: left =>
    match readKeys (left.length + 1) [] initial left with
    | .error fault => .error (placed fault)
    | .ok (config, left) => (endObject left).map fun (_, left) => (config, left)
  | left => .error (mismatch "struct ServerConfig" left)

/-- Reads a whole text. -/
def ofText (text : List Char) : Except Fault Config :=
  match readBody text with
  | .error fault => .error fault
  | .ok (config, left) => (endText left).map fun _ => config

end Config

end DispatchServer
