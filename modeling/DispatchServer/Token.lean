/-! Cancellation tokens. A token is a flag and a wakeup that all its clones share. Cancelling sets
the flag and then wakes; waiting tests the flag and then waits to be woken. The four steps of any
number of calls may interleave. -/
namespace DispatchServer

/-- What a token and its clones share. -/
structure Family where
  cancelled : Bool
  woken : Bool
  deriving DecidableEq, Repr

inductive TokenOperation
  | cancel
  | await
  deriving DecidableEq, Repr

inductive TokenStage
  | flag
  | wakeup
  | finished
  deriving DecidableEq, Repr

/-- An operation on a token by some thread, about to touch the flag or the wakeup. -/
structure TokenCall where
  operation : TokenOperation
  token : Nat
  stage : TokenStage
  deriving DecidableEq, Repr

/-- Each token has the number of its family. -/
structure Tokens where
  families : List Family
  tokens : List Nat
  calls : List TokenCall
  deriving DecidableEq, Repr

namespace Tokens

/-- One token, not cancelled. -/
def single : Tokens := ⟨[⟨false, false⟩], [0], []⟩

/-- Adds a token with a family of its own. -/
def fresh (w : Tokens) : Tokens :=
  { w with families := w.families ++ [⟨false, false⟩], tokens := w.tokens ++ [w.families.length] }

def clone (w : Tokens) (token : Nat) : Tokens :=
  match w.tokens[token]? with
  | none => w
  | some family => { w with tokens := w.tokens ++ [family] }

def family? (w : Tokens) (token : Nat) : Option Family :=
  (w.tokens[token]?).bind fun family => w.families[family]?

def isCancelled (w : Tokens) (token : Nat) : Bool :=
  match w.family? token with
  | none => false
  | some family => family.cancelled

def isWoken (w : Tokens) (token : Nat) : Bool :=
  match w.family? token with
  | none => false
  | some family => family.woken

/-- Changes what a token shares with its clones. -/
def modify (w : Tokens) (token : Nat) (change : Family → Family) : Tokens :=
  match w.tokens[token]? with
  | none => w
  | some family => { w with families := w.families.modify family change }

def begin (w : Tokens) (operation : TokenOperation) (token : Nat) : Tokens :=
  { w with calls := w.calls ++ [⟨operation, token, .flag⟩] }

/-- One step of a call on the shared state, and the stage that follows. -/
def act (w : Tokens) (call : TokenCall) : Option (Tokens × TokenStage) :=
  match call.stage, call.operation with
  | .flag, .cancel => some (w.modify call.token ({ · with cancelled := true }), .wakeup)
  | .wakeup, .cancel => some (w.modify call.token ({ · with woken := true }), .finished)
  | .flag, .await => some (w, if w.isCancelled call.token then .finished else .wakeup)
  | .wakeup, .await => if w.isWoken call.token then some (w, .finished) else none
  | .finished, _ => none

/-- One step of the call with the given number, unless it waits or has ended. -/
def step (w : Tokens) (number : Nat) : Option Tokens :=
  match w.calls[number]? with
  | none => none
  | some call =>
    match w.act call with
    | none => none
    | some (v, stage) => some { v with calls := v.calls.set number { call with stage := stage } }

/-- Lets a call go on; no call has more than two steps. -/
def advance (w : Tokens) (number : Nat) : Tokens :=
  let v := (w.step number).getD w
  (v.step number).getD v

/-- A call that runs without interruption as far as it can. -/
def call (w : Tokens) (operation : TokenOperation) (token : Nat) : Tokens :=
  (w.begin operation token).advance w.calls.length

def flags (w : Tokens) : List Bool :=
  w.tokens.map fun family => (w.families[family]?).any (·.cancelled)

end Tokens

end DispatchServer
