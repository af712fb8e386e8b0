import DispatchServer.Message.Script

/-! How long a message can keep a thread busy: a number of steps that is enough to run a script and
everything that its messages do in turn. -/
namespace DispatchServer

/-- Enough for any one operation on the queue or the coordinator. -/
def operationWork : Nat := 16

mutual

def Script.work : Script → Nat
  | .done => operationWork
  | .fault _ => operationWork
  | .panic _ => operationWork
  | .act _ next => operationWork + next.work
  | .enqueue message next => operationWork + message.work + next.work
  | .hold _ next => operationWork + next.work

def Blueprint.work : Blueprint → Nat
  | .mk _ _ _ _ process fail => operationWork + process.work + fail.work

end

def Message.work (m : Message) : Nat := m.plan.work

end DispatchServer
