import DispatchServer.Proofs.Cycle
import DispatchServer.Proofs.Demands

/-! The rounds of threads in their loops, whoever uses the queue and its token. A thread goes on
until it tests the token and finds it cancelled, and takes one more message at most from the
cancellation on; whatever nobody takes stays in the channel. -/
namespace DispatchServer

def Thread.Fresh (thread : Thread) : Prop :=
  ∃ name frames, thread = .calling name frames ∧
    ((∃ worker, frames = [.serve worker]) ∨ ∀ f ∈ frames, f.loops = false ∧ f ≠ .wake)

theorem Thread.fresh_of_apart (name : String) {frames : List Frame}
    (apart : ∀ f ∈ frames, f.loops = false ∧ f ≠ .wake) : (Thread.calling name frames).Fresh :=
  ⟨name, frames, rfl, .inr apart⟩

namespace Thread.Fresh

variable {thread : Thread} (fresh : thread.Fresh)
include fresh

theorem shaped : thread.Shaped := by
  obtain ⟨name, frames, rfl, ⟨worker, rfl⟩ | apart⟩ := fresh
  · exact .inl .tests
  · exact .inr fun f member => (apart f member).1

theorem quiet : .wake ∉ thread.frames := by
  obtain ⟨name, frames, rfl, ⟨worker, rfl⟩ | apart⟩ := fresh
  · simp [Thread.calling]
  · exact fun wake => (apart .wake wake).2 rfl

theorem spent : thread.Spent := by
  obtain ⟨name, frames, rfl, ⟨worker, rfl⟩ | apart⟩ := fresh
  · exact Tests.spent ⟨worker, .inl rfl⟩
  · exact spent_of_apart fun f member => (apart f member).1

theorem kept : ¬ thread.Dismissed := by
  rintro ⟨worker, -, answer⟩
  obtain ⟨name, frames, rfl, -⟩ := fresh
  cases answer

end Thread.Fresh

structure World.Alert (w : World) : Prop where
  shaped : ∀ thread ∈ w.threads, thread.Shaped
  wakes : ∀ thread ∈ w.threads, .wake ∈ thread.frames → w.shared.cancelled = true
  woken : w.shared.woken = true → w.shared.cancelled = true
  dismissed : ∀ thread ∈ w.threads, thread.Dismissed →
    w.shared.cancelled = true ∨ w.shared.sealed = true

namespace World.Alert

variable {w v : World}

theorem step {t : Nat} (alert : w.Alert) (h : w.step t = some v) : v.Alert := by
  obtain ⟨thread, thread', s', here, steps, rfl⟩ := World.steps_of_step h
  have member := List.mem_of_getElem? here
  have shaped := alert.shaped thread member
  have alerts := steps.alerts
  refine ⟨forall_mem_set alert.shaped (steps.shaped shaped),
    forall_mem_set (fun other there wake => alerts.cancelled (alert.wakes other there wake)) ?_,
    fun now => ?_, forall_mem_set (fun other there dismissed => ?_) fun dismissed => ?_⟩
  · intro wake
    rcases alerts.wakes wake with before | now
    · exact alerts.cancelled (alert.wakes thread member before)
    · exact now
  · rcases alerts.woken now with before | wake
    · exact alerts.cancelled (alert.woken before)
    · exact alerts.cancelled (alert.wakes thread member wake)
  · exact (alert.dismissed other there dismissed).imp alerts.cancelled alerts.sealed
  · rcases steps.dismissed shaped dismissed with cancelled | woken | closed
    · exact .inl (alerts.cancelled cancelled)
    · exact .inl (alerts.cancelled (alert.woken woken))
    · exact .inr (alerts.sealed closed)

theorem reaches (run : World.Reaches w v) (alert : w.Alert) : v.Alert := by
  induction run with
  | refl => exact alert
  | step t h _ ih => exact ih (alert.step h)

/-- Some threads are called, and nothing else happens. -/
theorem of_fresh (alert : w.Alert) {s' : Shared} {threads : List Thread}
    (cancelled : s'.cancelled = w.shared.cancelled) (closed : s'.sealed = w.shared.sealed)
    (woken : s'.woken = w.shared.woken)
    (fresh : ∀ thread ∈ threads, thread ∈ w.threads ∨ thread.Fresh) : Alert ⟨s', threads⟩ where
  shaped thread member := (fresh thread member).elim (alert.shaped thread) Thread.Fresh.shaped
  wakes thread member wake := cancelled.trans <| (fresh thread member).elim
    (fun before => alert.wakes thread before wake) fun fresh => absurd wake fresh.quiet
  woken now := cancelled.trans (alert.woken (woken.symm.trans now))
  dismissed thread member dismissed := (fresh thread member).elim
    (fun before => (alert.dismissed thread before dismissed).imp cancelled.trans closed.trans)
    fun fresh => absurd dismissed fresh.kept

end World.Alert

theorem alert_fresh (rig : Rig) (devices : DeviceSet) (robin : RoundRobin) :
    World.Alert (.fresh rig devices robin) := by
  have fresh : (Thread.idle mainThread).Fresh := Thread.fresh_of_apart _ (by simp)
  have all {kind : Thread → Prop} (one : kind (.idle mainThread)) :
      ∀ thread ∈ (World.fresh rig devices robin).threads, kind thread := by
    intro thread member
    rwa [List.mem_singleton.1 member]
  exact ⟨all fresh.shaped, all fun wake => absurd wake fresh.quiet, nofun,
    all fun dismissed => absurd dismissed fresh.kept⟩

namespace Scene

variable {offered : Interface} {sc sc' : Scene} {t : Nat} {thread thread' : Thread}

/-- Nobody takes a step, but somebody may be called. -/
structure Stands (sc sc' : Scene) : Prop where
  cancelled : sc'.world.shared.cancelled = sc.world.shared.cancelled
  sealed : sc'.world.shared.sealed = sc.world.shared.sealed
  woken : sc'.world.shared.woken = sc.world.shared.woken
  threads : ∀ (t : Nat) (thread' : Thread), sc'.world.threads[t]? = some thread' →
    sc.world.threads[t]? = some thread' ∨ thread'.Fresh

theorem stands_assign {w : World} {hands hands' : List Message} {u : Nat} {caller : Thread}
    {frames : List Frame} (there : caller ∈ w.threads[u]?)
    (fresh : (Thread.calling caller.name frames).Fresh) :
    Stands ⟨w, hands⟩ ⟨w.assign u frames, hands'⟩ := by
  rw [World.assign_eq there]
  refine ⟨rfl, rfl, rfl, fun t thread' here => ?_⟩
  rcases eq_or_ne u t with rfl | other
  · obtain rfl := Option.some.inj ((getElem?_set_here there).symm.trans here)
    exact .inr fresh
  · rw [List.getElem?_set_ne other] at here
    exact .inl here

theorem fresh_errand (name : String) {frames : List Frame} (errand : Errand frames) :
    (Thread.calling name frames).Fresh := by
  cases errand with
  | service service =>
    refine ⟨name, _, rfl, ?_⟩
    cases service with
    | serve worker => exact .inl ⟨worker, rfl⟩
    | _ => exact .inr (by simp [Service.frames, Frame.loops])
  | use use => exact Thread.fresh_of_apart name (by cases use <;> simp [Use.frame, Frame.loops])
  | nothing => exact Thread.fresh_of_apart name (by simp)

theorem Move.goes_or_stands (h : Move offered sc sc') : (∃ t, sc.Goes t sc') ∨ sc.Stands sc' := by
  cases h.shift with
  | steps t goes => exact .inl ⟨t, goes, rfl⟩
  | @starts w _ name =>
    refine .inr ⟨rfl, rfl, rfl, fun t thread' here => ?_⟩
    rcases lt_or_ge t w.threads.length with less | more
    · rw [World.start, List.getElem?_append_left less] at here
      exact .inl here
    · have here : (w.threads ++ [.idle name])[t]? = some thread' := here
      rw [List.getElem?_append_right more] at here
      rw [List.mem_singleton.1 (List.mem_of_getElem? here)]
      exact .inr (Thread.fresh_of_apart name (by simp))
  | builds | spills | signals => exact .inr ⟨rfl, rfl, rfl, fun _ _ => .inl⟩
  | calls there _ errand => exact .inr (stands_assign there (fresh_errand _ errand))

theorem Stands.alert (stands : sc.Stands sc') (alert : sc.world.Alert) : sc'.world.Alert := by
  refine alert.of_fresh stands.cancelled stands.sealed stands.woken fun thread member => ?_
  obtain ⟨t, here⟩ := List.getElem?_of_mem member
  exact (stands.threads t thread here).imp_left List.mem_of_getElem?

theorem Move.alert (h : Move offered sc sc') (alert : sc.world.Alert) :
    sc'.world.Alert ∧
      (sc.world.shared.cancelled = true → sc'.world.shared.cancelled = true) := by
  rcases h.goes_or_stands with ⟨t, goes, -⟩ | stands
  · obtain ⟨thread, thread', s', here, steps, same⟩ := World.steps_of_step goes
    exact ⟨alert.step goes, same ▸ steps.alerts.cancelled⟩
  · exact ⟨stands.alert alert, stands.cancelled.trans⟩

theorem Reaches.alert (run : Reaches offered sc sc') (alert : sc.world.Alert) :
    sc'.world.Alert ∧
      (sc.world.shared.cancelled = true → sc'.world.shared.cancelled = true) := by
  induction run with
  | refl => exact ⟨alert, id⟩
  | tail _ move ih =>
    obtain ⟨alert, cancelled⟩ := move.alert ih.1
    exact ⟨alert, cancelled ∘ ih.2⟩

/-- A thread was there before, and has taken one step at most, or it was called. -/
theorem Move.fares (h : Move offered sc sc') (here' : sc'.world.threads[t]? = some thread') :
    (∃ thread, sc.world.threads[t]? = some thread ∧ (thread' = thread ∨
      thread.Steps sc.world.exits sc.world.shared sc'.world.shared thread')) ∨ thread'.Fresh := by
  rcases h.goes_or_stands with ⟨u, goes, -⟩ | stands
  · obtain ⟨thread, next, s', here, steps, same⟩ := World.steps_of_step goes
    rw [same] at here' ⊢
    left
    rcases eq_or_ne u t with rfl | other
    · obtain rfl := Option.some.inj ((getElem?_set_here here).symm.trans here')
      exact ⟨thread, here, .inr steps⟩
    · rw [List.getElem?_set_ne other] at here'
      exact ⟨thread', here', .inl rfl⟩
  · exact (stands.threads t thread' here').imp_left fun here => ⟨thread', here, .inl rfl⟩

/-- Whoever is in a loop is not called, and takes one step at most. -/
theorem Move.steps_of_loops (h : Move offered sc sc') (here : sc.world.threads[t]? = some thread)
    (loops : ∃ f ∈ thread.frames, f.loops) :
    ∃ thread', sc'.world.threads[t]? = some thread' ∧ (thread' = thread ∨
      thread.Steps sc.world.exits sc.world.shared sc'.world.shared thread') := by
  obtain ⟨f, member, own⟩ := loops
  rcases h.thread_cases here with here' | ⟨_, thread', steps, rfl, here'⟩ | none | ⟨_, waits, -⟩
  · exact ⟨thread, here', .inl rfl⟩
  · exact ⟨thread', here', .inr steps⟩
  · rw [none] at member
    cases member
  · rw [waits, List.mem_singleton] at member
    rw [member] at own
    cases own

/-- Whatever steps keep once the token is cancelled, runs keep. -/
theorem Reaches.keeps {kind : Thread → Prop} (run : Reaches offered sc sc')
    (alert : sc.world.Alert) (cancelled : sc.world.shared.cancelled = true)
    (fresh : ∀ thread : Thread, thread.Fresh → kind thread)
    (steps : ∀ (thread thread' : Thread) exits s s', thread.Steps exits s s' thread' →
      thread.Shaped → s.cancelled = true → kind thread → kind thread')
    (own : ∀ thread ∈ sc.world.threads[t]?, kind thread) :
    ∀ thread ∈ sc'.world.threads[t]?, kind thread := by
  induction run with
  | refl => exact own
  | tail run move ih =>
    obtain ⟨alert, still⟩ := Reaches.alert run alert
    intro thread' here'
    rcases move.fares here' with ⟨thread, here, rfl | step⟩ | new
    · exact ih _ here
    · exact steps _ _ _ _ _ step (alert.shaped _ (List.mem_of_getElem? here)) (still cancelled)
        (ih _ here)
    · exact fresh _ new

theorem Reaches.spent (run : Reaches offered sc sc') (alert : sc.world.Alert)
    (cancelled : sc.world.shared.cancelled = true)
    (spent : ∀ thread ∈ sc.world.threads[t]?, thread.Spent) :
    ∀ thread ∈ sc'.world.threads[t]?, thread.Spent :=
  run.keeps alert cancelled (fun _ => Thread.Fresh.spent)
    (fun _ _ _ _ _ steps shaped cancelled => (steps.spends shaped cancelled).1) spent

/-- Once the token is cancelled, a thread begins no message but one for which it had entered a
receive before, or which it had been given. -/
theorem Reaches.begins (run : Reaches offered sc sc') (alert : sc.world.Alert)
    (cancelled : sc.world.shared.cancelled = true) (here : sc.world.threads[t]? = some thread)
    (here' : sc'.world.threads[t]? = some thread') {m : Message} (begins : thread'.Begins m) :
    thread.Receives ∨ thread.Holds m := by
  have shaped := (run.alert alert).1.shaped thread' (List.mem_of_getElem? here')
  have holds := begins.holds shaped
  by_cases given : ∃ m', thread.Holds m'
  · obtain ⟨m', given⟩ := given
    have kept : ∀ thread ∈ sc'.world.threads[t]?, thread.Spent ∨ thread.Holds m' := by
      refine run.keeps alert cancelled (fun _ fresh => .inl fresh.spent) ?_ fun other there => ?_
      · intro _ _ _ _ _ steps shaped cancelled
        have spends := steps.spends shaped cancelled
        rintro (spent | holds)
        · exact .inl (spends.1 spent)
        · exact (spends.2 m' holds).imp_right And.left
      · obtain rfl := Option.some.inj (here.symm.trans there)
        exact .inr given
    rcases kept thread' here' with spent | still
    · exact absurd holds (spent.2 m)
    · exact .inr (begins.unique still ▸ given)
  · by_contra none
    rw [not_or] at none
    have spent : ∀ other ∈ sc.world.threads[t]?, other.Spent := by
      intro other there
      obtain rfl := Option.some.inj (here.symm.trans there)
      exact ⟨none.1, not_exists.1 given⟩
    exact (run.spent alert cancelled spent thread' here').2 m holds

/-- The message that is begun is the last one. -/
theorem Goes.spent (goes : sc.Goes t sc') (alert : sc.world.Alert)
    (cancelled : sc.world.shared.cancelled = true) (here : sc.world.threads[t]? = some thread)
    {m : Message} (begins : thread.Begins m) :
    ∀ thread' ∈ sc'.world.threads[t]?, thread'.Spent := by
  intro thread' here'
  obtain ⟨other, next, s', there, steps, same⟩ := World.steps_of_step goes.1
  obtain rfl := Option.some.inj (here.symm.trans there)
  rw [same] at here'
  obtain rfl := Option.some.inj ((getElem?_set_here here).symm.trans here')
  have shaped := alert.shaped thread (List.mem_of_getElem? here)
  exact ((steps.spends shaped cancelled).2 m (begins.holds shaped)).resolve_right
    fun again => again.2 begins

/-- How a thread goes round in its loop, whoever uses the queue and its token. -/
structure Cycling (sc : Scene) (t : Nat) (thread : Thread) : Prop where
  leaves : (∃ f ∈ thread.frames, f.loops) → ∀ sc', Move .queue sc sc' →
    ∀ thread' ∈ sc'.world.threads[t]?, (∃ f ∈ thread'.frames, f.loops) ∨
      sc.world.shared.cancelled = true ∧ ∃ worker, thread.frames = [.serve worker]
  begins : sc.world.shared.cancelled = true → ∀ b begun m, Reaches .queue sc b →
    b.world.threads[t]? = some begun → begun.Begins m →
      (thread.Receives ∨ thread.Holds m) ∧ ∀ c last, b.Goes t c → Reaches .queue c last →
        ∀ thread' ∈ last.world.threads[t]?, ∀ m', ¬ thread'.Begins m'
  tests : sc.world.shared.cancelled = true → thread.Tests → ∀ last, Reaches .queue sc last →
    ∀ thread' ∈ last.world.threads[t]?, ¬ thread'.Receives ∧ ∀ m, ¬ thread'.Holds m

theorem cycling_of_alert (alert : sc.world.Alert) (here : sc.world.threads[t]? = some thread) :
    sc.Cycling t thread where
  leaves loops sc' move thread' here' := by
    have cycles := (alert.shaped thread (List.mem_of_getElem? here)).cycles loops
    obtain ⟨next, there, fares⟩ := move.steps_of_loops here loops
    obtain rfl := Option.some.inj (there.symm.trans here')
    rcases fares with rfl | steps
    · exact .inl loops
    · exact (steps.cycles cycles).imp Thread.Cycles.loops And.right
  begins cancelled b begun m run there begins := by
    refine ⟨run.begins alert cancelled here there begins,
      fun c last goes rest thread' here' m' again => ?_⟩
    obtain ⟨alert, still⟩ := run.alert alert
    obtain ⟨alert', still'⟩ := (goes.move : Move .queue b c).alert alert
    have spent := rest.spent alert' (still' (still cancelled))
      (goes.spent alert (still cancelled) there begins) thread' here'
    have shaped := (rest.alert alert').1.shaped thread' (List.mem_of_getElem? here')
    exact spent.2 m' (again.holds shaped)
  tests cancelled tests last run := by
    refine run.spent alert cancelled fun other there => ?_
    obtain rfl := Option.some.inj (here.symm.trans there)
    exact tests.spent

end Scene

def Traffic.Passes (T T' : Traffic) : Prop :=
  ∃ taken added, T.channel ++ added = taken ++ T'.channel ∧
    T'.received = T.received ++ taken.map Message.ticket ∧
    T'.sent = T.sent ++ added.map Message.ticket

theorem Traffic.Passes.trans {T T' T'' : Traffic} (first : T.Passes T') (second : T'.Passes T'') :
    T.Passes T'' := by
  obtain ⟨taken, added, channel, received, sent⟩ := first
  obtain ⟨taken', added', channel', received', sent'⟩ := second
  refine ⟨taken ++ taken', added ++ added', ?_, ?_, ?_⟩
  · rw [← List.append_assoc, channel, List.append_assoc, channel', List.append_assoc]
  · rw [received', received, List.map_append, List.append_assoc]
  · rw [sent', sent, List.map_append, List.append_assoc]

theorem Flow.passes {flow : Flow} {panics : Bool} {T : Traffic} (fits : flow.Fits panics T) :
    T.Passes (flow.apply T) := by
  have told {taken added : List Message}
      (channel : T.channel ++ added = taken ++ (flow.apply T).channel)
      (received : (flow.event?.bind Event.received?).toList = taken.map Message.ticket)
      (sent : (flow.event?.bind Event.sent?).toList = added.map Message.ticket) :
      T.Passes (flow.apply T) :=
    ⟨taken, added, channel, by rw [received_apply, received], by rw [sent_apply, sent]⟩
  cases flow with
  | sent m => exact @told [] [m] rfl rfl rfl
  | received m =>
    obtain ⟨rest, head⟩ := List.head?_eq_some_iff.1 (show T.channel.head? = some m from fits)
    exact @told [m] [] (by simp [Traffic.record, head]) rfl rfl
  | _ => exact @told [] [] (List.append_nil _) rfl rfl

namespace Scene

variable {sc sc' : Scene}

theorem Reaches.passes {offered : Interface} (run : Reaches offered sc sc') (sound : sc.Sound) :
    sc.traffic.Passes sc'.traffic := by
  induction run with
  | refl => exact ⟨[], [], by simp, by simp, by simp⟩
  | tail run move ih =>
    obtain ⟨flow, _, links⟩ := move.flow (Reaches.sound run sound).typed
    refine ih.trans ?_
    have passes := flow.passes links.fits
    rwa [← links.traffic] at passes

/-- All threads go round in their loops as they should, and what nobody takes stays in the
channel. -/
structure Orderly (sc : Scene) : Prop where
  cycling : ∀ t thread, sc.world.threads[t]? = some thread → sc.Cycling t thread
  passes : ∀ sc', Reaches .queue sc sc' → sc.traffic.Passes sc'.traffic

theorem orderly_of_alert (alert : sc.world.Alert) (sound : sc.Sound) : sc.Orderly :=
  ⟨fun _ _ => cycling_of_alert alert, fun _ run => run.passes sound⟩

end Scene

end DispatchServer
