import Mathlib.Algebra.GroupWithZero.Nat
import Mathlib.Data.List.Forall2
import Mathlib.Data.Multiset.Bind
import DispatchServer.Message.Work

/-! Messages whose processing enqueues further messages, which do the same in turn: a forest with
the first messages as its roots. What comes of some messages is known before any of them is
processed, and whether a script ends by itself or by a panic does not matter to it. -/
namespace DispatchServer

def Action.steady : Action → Bool
  | .close | .cancel | .shutdown _ => false
  | _ => true

mutual

/-- Whether a script, and every message that comes of it, does nothing but enqueue messages and
write to the journal before it ends. -/
def Script.steady : Script → Bool
  | .done | .fault _ | .panic _ => true
  | .act action next => action.steady && next.steady
  | .enqueue message next => message.steady && next.steady
  | .hold _ _ => false

/-- How a message fails does not count: none will. -/
def Blueprint.steady : Blueprint → Bool
  | .mk _ _ _ _ process _ => process.steady

end

theorem Blueprint.steady_process {plan : Blueprint} (steady : plan.steady) :
    plan.process.steady := by
  cases plan
  exact steady

def Script.enqueued : Script → List Blueprint
  | .done | .fault _ | .panic _ => []
  | .act _ next => next.enqueued
  | .enqueue message next => message :: next.enqueued
  | .hold _ next => next.enqueued

namespace Blueprint

def children (plan : Blueprint) : List Blueprint := plan.process.enqueued

end Blueprint

theorem Script.work_enqueued (script : Script) :
    (script.enqueued.map Blueprint.work).sum < script.work := by
  induction script using Script.enqueued.induct with
  | case1 | case2 | case3 => simp [enqueued, work, operationWork]
  | case4 _ next ih | case6 _ next ih =>
    rw [enqueued, work]
    omega
  | case5 message next ih =>
    rw [enqueued, work, List.map_cons, List.sum_cons]
    omega

namespace Blueprint

theorem work_children (plan : Blueprint) : (plan.children.map work).sum < plan.work := by
  cases plan with
  | mk kind name desc device process fail =>
    have bound := process.work_enqueued
    rw [work]
    simp only [children, Blueprint.process]
    omega

theorem work_flatMap_children (plans : List Blueprint) :
    ((plans.flatMap children).map work).sum + plans.length ≤ (plans.map work).sum := by
  induction plans with
  | nil => exact Nat.le_refl 0
  | cons plan plans ih =>
    have bound := plan.work_children
    simp only [List.flatMap_cons, List.map_append, List.sum_append, List.map_cons, List.sum_cons,
      List.length_cons]
    omega

/-- All messages that come of the given ones, breadth first: these, then all that they enqueue, then
all that those enqueue, and so on. -/
def forest : List Blueprint → List Blueprint
  | [] => []
  | plan :: plans => plan :: plans ++ forest ((plan :: plans).flatMap children)
termination_by plans => (plans.map work).sum
decreasing_by
  have bound := work_flatMap_children (plan :: plans)
  rw [List.length_cons] at bound
  omega

theorem forest_eq (plans : List Blueprint) :
    forest plans = plans ++ forest (plans.flatMap children) := by
  cases plans with
  | nil => simp [forest]
  | cons plan plans => rw [forest]

/-- The order in which a queue comes to the messages of a forest, if the ones at its head are what
is left of a layer and the ones behind them belong to the next. Some more of those are about to be
enqueued. -/
inductive Upcoming (queue coming : List Blueprint) : List Blueprint → Prop
  | layers {layer next : List Blueprint} (parts : queue = layer ++ next) :
      Upcoming queue coming (layer ++ forest (next ++ coming ++ layer.flatMap children))

namespace Upcoming

variable {queue coming order : List Blueprint} {plan : Blueprint}

theorem of_forest (plans : List Blueprint) : Upcoming plans [] (forest plans) := by
  have layers := @layers plans [] plans [] (List.append_nil _).symm
  rwa [List.append_nil, List.nil_append, ← forest_eq] at layers

/-- The message at the head of the queue is the next, and behind the queue come those that it
enqueues. -/
theorem head (upcoming : Upcoming (plan :: queue) [] order) :
    ∃ later, order = plan :: later ∧ Upcoming queue plan.children later := by
  obtain ⟨parts⟩ := upcoming
  rename_i layer next
  cases layer with
  | nil =>
    obtain rfl : plan :: queue = next := parts
    refine ⟨_, ?_, @layers queue plan.children queue [] (List.append_nil _).symm⟩
    rw [List.nil_append, List.append_nil, List.flatMap_nil, List.append_nil, forest_eq]
    rfl
  | cons first layer =>
    obtain ⟨rfl, rfl⟩ := List.cons.inj parts
    refine ⟨_, ?_, .layers rfl⟩
    simp

/-- Nothing changes in the order when a message takes its place in the queue. -/
theorem sent (upcoming : Upcoming queue (plan :: coming) order) :
    Upcoming (queue ++ [plan]) coming order := by
  obtain ⟨rfl⟩ := upcoming
  rename_i layer next
  have layers := @layers (layer ++ next ++ [plan]) coming layer (next ++ [plan])
    (List.append_assoc ..)
  rwa [List.append_assoc next [plan] coming] at layers

theorem eq_nil (upcoming : Upcoming [] [] order) : order = [] := by
  obtain ⟨parts⟩ := upcoming
  obtain ⟨rfl, rfl⟩ := List.append_eq_nil_iff.1 parts.symm
  simp [forest]

end Upcoming

def family (plan : Blueprint) : Multiset Blueprint := forest [plan]

/-- No message comes of two. -/
theorem forest_append (plans plans' : List Blueprint) :
    (forest (plans ++ plans') : Multiset Blueprint) = forest plans + forest plans' := by
  generalize size : ((plans ++ plans').map work).sum = bound
  induction bound using Nat.strong_induction_on generalizing plans plans' with
  | _ bound ih =>
    rcases eq_or_ne (plans ++ plans') [] with none | some
    · obtain ⟨rfl, rfl⟩ := List.append_eq_nil_iff.1 none
      simp [forest]
    · have less := work_flatMap_children (plans ++ plans')
      have positive := List.length_pos_iff.2 some
      rw [List.flatMap_append] at less
      have next := ih _ (by omega) (plans.flatMap children) (plans'.flatMap children) rfl
      calc (forest (plans ++ plans') : Multiset Blueprint)
          = plans + plans' + forest (plans.flatMap children ++ plans'.flatMap children) := by
            rw [forest_eq, List.flatMap_append, ← Multiset.coe_add, ← Multiset.coe_add]
        _ = (plans + forest (plans.flatMap children)) +
            (plans' + forest (plans'.flatMap children)) := by
            rw [next, add_add_add_comm]
        _ = forest plans + forest plans' := by
            rw [Multiset.coe_add, Multiset.coe_add, ← forest_eq, ← forest_eq]

theorem coe_forest (plans : List Blueprint) :
    (forest plans : Multiset Blueprint) = (plans : Multiset Blueprint).bind family := by
  induction plans with
  | nil => simp [forest]
  | cons plan plans ih =>
    rw [← List.singleton_append, forest_append, ih, ← Multiset.coe_add, Multiset.add_bind,
      Multiset.coe_singleton, Multiset.singleton_bind, family]

theorem family_eq (plan : Blueprint) :
    plan.family = plan ::ₘ (plan.children : Multiset Blueprint).bind family := by
  rw [family, forest_eq, ← coe_forest]
  simp

end Blueprint

mutual

/-- The scripts are the same, except that some panics of the first are early returns in the second,
with an error or without. -/
inductive Script.Eases : Script → Script → Prop
  | done : Script.Eases .done .done
  | fault (chain : List String) : Script.Eases (.fault chain) (.fault chain)
  | panic (text : String) : Script.Eases (.panic text) (.panic text)
  | returns (text : String) : Script.Eases (.panic text) .done
  | fails (text : String) (chain : List String) : Script.Eases (.panic text) (.fault chain)
  | act (action : Action) {next next' : Script} (rest : Script.Eases next next') :
      Script.Eases (.act action next) (.act action next')
  | enqueue {message message' : Blueprint} {next next' : Script}
      (eases : Blueprint.Eases message message') (rest : Script.Eases next next') :
      Script.Eases (.enqueue message next) (.enqueue message' next')

inductive Blueprint.Eases : Blueprint → Blueprint → Prop
  | mk {kind : MessageKind} {name desc : String} {device : Nat} {process process' fail : Script}
      (eases : Script.Eases process process') :
      Blueprint.Eases (.mk kind name desc device process fail)
        (.mk kind name desc device process' fail)

end

theorem Script.Eases.enqueued {script script' : Script} (eases : script.Eases script') :
    List.Forall₂ Blueprint.Eases script.enqueued script'.enqueued :=
  match eases with
  | .done | .fault _ | .panic _ | .returns _ | .fails _ _ => .nil
  | .act _ rest => rest.enqueued
  | .enqueue eases rest => .cons eases rest.enqueued

mutual

theorem Script.Eases.steady {script script' : Script} (eases : script.Eases script') :
    script'.steady = script.steady :=
  match eases with
  | .done | .fault _ | .panic _ | .returns _ | .fails _ _ => rfl
  | .act action rest => congrArg (action.steady && ·) rest.steady
  | .enqueue eases rest => congrArg₂ (· && ·) eases.steady rest.steady

theorem Blueprint.Eases.steady {plan plan' : Blueprint} (eases : plan.Eases plan') :
    plan'.steady = plan.steady :=
  match eases with
  | .mk eases => eases.steady

end

theorem Blueprint.Eases.children {plan plan' : Blueprint} (eases : plan.Eases plan') :
    List.Forall₂ Blueprint.Eases plan.children plan'.children := by
  cases eases with
  | mk eases => exact eases.enqueued

/-- The same messages come of the same messages, and in the same order, if panics become early
returns. -/
theorem Blueprint.eases_forest {plans plans' : List Blueprint}
    (eases : List.Forall₂ Blueprint.Eases plans plans') :
    List.Forall₂ Blueprint.Eases (forest plans) (forest plans') := by
  induction plans using forest.induct generalizing plans' with
  | case1 =>
    cases eases
    rw [forest]
    exact .nil
  | case2 plan plans ih =>
    have next := List.rel_flatMap eases fun _ _ eases => Blueprint.Eases.children eases
    rw [forest_eq, forest_eq plans']
    exact List.rel_append eases (ih next)

/-- The message is the same, except that it returns early where the other panics. -/
def Message.Eases (m m' : Message) : Prop := m.ticket = m'.ticket ∧ m.plan.Eases m'.plan

theorem Message.eases_plans {messages messages' : List Message}
    (eases : List.Forall₂ Message.Eases messages messages') :
    List.Forall₂ Blueprint.Eases (messages.map plan) (messages'.map plan) := by
  rw [List.forall₂_map_left_iff, List.forall₂_map_right_iff]
  exact eases.imp fun _ _ eases => eases.2

theorem Message.eases_tickets {messages messages' : List Message}
    (eases : List.Forall₂ Message.Eases messages messages') :
    messages.map ticket = messages'.map ticket := by
  rw [← List.forall₂_eq_eq_eq, List.forall₂_map_left_iff, List.forall₂_map_right_iff]
  exact eases.imp fun _ _ eases => eases.1

theorem Message.steady_of_eases {messages messages' : List Message}
    (eases : List.Forall₂ Message.Eases messages messages')
    (steady : ∀ m ∈ messages, m.plan.steady) : ∀ m ∈ messages', m.plan.steady := by
  induction eases with
  | nil => exact steady
  | cons eases _ ih =>
    obtain ⟨first, rest⟩ := List.forall_mem_cons.1 steady
    exact List.forall_mem_cons.2 ⟨eases.2.steady.trans first, ih rest⟩

end DispatchServer
