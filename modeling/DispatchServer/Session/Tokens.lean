import DispatchServer.Token

/-! Sessions on a list of tokens, with threads that wait for them. -/
namespace DispatchServer

inductive TokenStep
  | fresh
  | clone (token : Nat)
  | cancel (token : Nat)
  | wait (token : Nat)
  | join
  deriving DecidableEq, Repr

structure TokenSession where
  tokens : Tokens
  waiting : List Nat

/-- A number that the step gives, and then the flag of every token. -/
structure TokenEntry where
  result : Option Nat
  cancelled : List Bool

namespace TokenSession

def create : TokenSession := ⟨.single, []⟩

def perform (session : TokenSession) : TokenStep → Option Nat × TokenSession
  | .fresh => (some session.tokens.tokens.length, { session with tokens := session.tokens.fresh })
  | .clone token =>
    (some session.tokens.tokens.length, { session with tokens := session.tokens.clone token })
  | .cancel token => (none, { session with tokens := session.tokens.call .cancel token })
  | .wait token =>
    let waiting := session.waiting ++ [session.tokens.calls.length]
    (some waiting.length, ⟨session.tokens.call .await token, waiting⟩)
  | .join =>
    (some session.waiting.length, ⟨session.waiting.foldl Tokens.advance session.tokens, []⟩)

def steps (session : TokenSession) : List TokenStep → List TokenEntry
  | [] => []
  | first :: rest =>
    let (result, session) := session.perform first
    ⟨result, session.tokens.flags⟩ :: session.steps rest

end TokenSession

end DispatchServer
