import DispatchServer.Proofs.Ending
import DispatchServer.Proofs.Startup

/-! What single steps do to the stage that a server is in. Only a request takes it out of running,
only the thread that waits for its end stops it, and a server's thread does not leave its loop
unless the token is cancelled. -/
namespace DispatchServer

def Event.stage? : Event → Option ServerState
  | stateChanged state => some state
  | _ => none

namespace Shared

def stages (s : Shared) : List ServerState := s.rig.history.events.filterMap Event.stage?

theorem stages_record (s : Shared) (event : Event) :
    (s.record event).stages = s.stages ++ event.stage?.toList := by
  simp only [stages, record, Rig.record, History.events_record, List.filterMap_append,
    List.filterMap_cons, List.filterMap_nil]
  cases event.stage? <;> rfl

theorem stages_setState (s : Shared) (state : ServerState) :
    (s.setState state).stages = s.stages ++ [state] :=
  stages_record { s with state := state } (.stateChanged state)

/-- The state is the one entered last, and none was left out. -/
inductive Staged (s : Shared) : Prop
  | running (state : s.state = .running) (stages : s.stages = [])
  | shuttingDown (state : s.state = .shuttingDown) (stages : s.stages = [.shuttingDown])
  | stopped (state : s.state = .stopped) (stages : s.stages = [.shuttingDown, .stopped])

/-- Neither the state nor what is known of it has changed. -/
structure Steady (s s' : Shared) : Prop where
  state : s'.state = s.state
  stages : s'.stages = s.stages

theorem Steady.record {s s' : Shared} {event : Event} (steady : s.Steady s')
    (quiet : event.stage? = none) : s.Steady (s'.record event) := by
  refine ⟨steady.state, ?_⟩
  rw [stages_record, quiet, steady.stages]
  exact List.append_nil _

theorem Steady.staged {s s' : Shared} (steady : s.Steady s') (staged : s.Staged) : s'.Staged := by
  cases staged with
  | running state stages => exact .running (steady.state.trans state) (steady.stages.trans stages)
  | shuttingDown state stages =>
    exact .shuttingDown (steady.state.trans state) (steady.stages.trans stages)
  | stopped state stages => exact .stopped (steady.state.trans state) (steady.stages.trans stages)

theorem steady_build (s : Shared) (plan : Blueprint) : s.Steady (s.build plan).2 :=
  Steady.record (show s.Steady { s with ledger := _ } from ⟨rfl, rfl⟩) rfl

theorem steady_drop (s : Shared) (m : Message) (panicking : Bool) :
    s.Steady (s.drop m panicking) :=
  Steady.record (show s.Steady { s with ledger := _ } from ⟨rfl, rfl⟩) rfl

theorem stages_eq (s : Shared) : s.stages = s.rig.deeds.filterMap Event.stage? := by
  rw [stages, Rig.deeds, List.filterMap_filter]
  refine List.filterMap_congr fun event _ => ?_
  cases event <;> rfl

theorem steady_unpin (s : Shared) (buffer : Handle) :
    s.Steady { s with rig := s.rig.unpinZone buffer } := by
  refine ⟨rfl, ?_⟩
  rw [stages_eq, stages_eq]
  exact congrArg _ (s.rig.deeds_unpinZone buffer)

end Shared

namespace Frame

variable {f : Frame} {thread : String} {answer answer' : Answer} {exits : Nat → Option Exit}
  {s s' : Shared} {frames : List Frame} {goesOn : Bool}

/-- What a step can do to the state. -/
inductive Stages (s s' : Shared) : Frame → Prop
  | steady {f : Frame} (steady : s.Steady s') : Stages s s' f
  | requests {reason : ShutdownReason} (running : s.state = .running)
      (state : s'.state = .shuttingDown) (stages : s'.stages = s.stages ++ [.shuttingDown]) :
      Stages s s' (.request reason)
  | stops (going : s.state ≠ .stopped) (state : s'.state = .stopped)
      (stages : s'.stages = s.stages ++ [.stopped]) : Stages s s' .stop

theorem step_stages (h : f.step thread answer exits s = .moved s' frames answer') :
    Stages s s' f := by
  cases moves_of_step h with
  | offers | holds => exact .steady (s.steady_build _)
  | drops | discards => exact .steady (s.steady_drop _ false)
  | unpins => exact .steady (s.steady_unpin _)
  | requests running => exact .requests running rfl (s.stages_setState _)
  | stops going =>
    have logged : s.Steady (s.log thread .stopping) := .record ⟨rfl, rfl⟩ rfl
    refine .stops going rfl ?_
    rw [Shared.stages_setState, logged.stages]
  | @failsReply m error =>
    have returned : s.Steady (s.record (.returned m.ticket error)) := .record ⟨rfl, rfl⟩ rfl
    exact .steady ⟨returned.state, returned.stages⟩
  | _ =>
    first
    | exact .steady ⟨rfl, rfl⟩
    | exact .steady (.record ⟨rfl, rfl⟩ rfl)
    | exact .steady (.record (.record ⟨rfl, rfl⟩ rfl) rfl)

theorem unwind_steady (h : f.unwind thread s = (s', frames, goesOn)) : s.Steady s' := by
  cases f with
  | run device script held =>
    cases held <;> cases h
    · exact ⟨rfl, rfl⟩
    · exact s.steady_drop _ _
  | leave held given =>
    cases held <;> cases h
    · exact ⟨rfl, rfl⟩
    · exact s.steady_drop _ _
  | unpin buffers =>
    cases buffers <;> cases h
    · exact ⟨rfl, rfl⟩
    · exact s.steady_unpin _
  | process | publish | fail | discard | enqueue | send => cases h; exact s.steady_drop _ _
  | guard | unmap => cases h; exact .record ⟨rfl, rfl⟩ rfl
  | _ => cases h; exact ⟨rfl, rfl⟩

/-- Nothing but a request makes anybody cancel the token. -/
theorem step_cancelled (own : f.Serves ∨ f.Ends)
    (h : f.step thread answer exits s = .moved s' frames answer') :
    (s'.cancelled = true → s.cancelled = true ∨ f = .cancel) ∧
      (.cancel ∈ frames → s'.state ≠ .running) := by
  cases moves_of_step h with
  | callsCancel =>
    simp [Serves, Ends, attends, finishes, produces, Script.confined, Action.confined] at own
  | requests => exact ⟨.inl, fun _ => ServerState.noConfusion⟩
  | requestsLate left => exact ⟨.inl, fun _ => left⟩
  | cancels => exact ⟨fun _ => .inr rfl, by simp⟩
  | _ => exact ⟨.inl, by simp⟩

theorem unwind_cancelled (h : f.unwind thread s = (s', frames, goesOn)) :
    s'.cancelled = s.cancelled ∧ .cancel ∉ frames := by
  cases f with
  | run device script held => cases held <;> cases h <;> exact ⟨rfl, by simp⟩
  | leave held given => cases held <;> cases h <;> exact ⟨rfl, by simp⟩
  | unpin buffers => cases buffers <;> cases h <;> exact ⟨rfl, by simp⟩
  | _ => cases h; exact ⟨rfl, by simp⟩

end Frame

def Frame.awaits : Frame → Bool
  | dequeue | poll _ | heed | await | park => true
  | _ => false

namespace Thread

/-- The thread is in its loop. -/
inductive Loops : Thread → Prop
  | serves {name : String} {worker : Nat} {answer : Answer} :
      Loops ⟨name, [.serve worker], answer, none⟩
  | awaits {name : String} {f : Frame} {worker : Nat} {answer : Answer} (awaits : f.awaits) :
      Loops ⟨name, [f, .handle worker], answer, none⟩
  | handles {name : String} {worker : Nat} {answer : Answer} :
      Loops ⟨name, [.handle worker], answer, none⟩
  | works {thread : Thread} {above : List Frame} {worker : Nat} {desc : String}
      (frames : thread.frames = above ++ [.guard worker desc]) : Loops thread

/-- The thread is in its loop, and has never been given a message. -/
inductive Waits : Thread → Prop
  | serves {name : String} {worker : Nat} {answer : Answer} :
      Waits ⟨name, [.serve worker], answer, none⟩
  | awaits {name : String} {f : Frame} {worker : Nat} {answer : Answer} (awaits : f.awaits) :
      Waits ⟨name, [f, .handle worker], answer, none⟩
  | handles {name : String} {worker : Nat} :
      Waits ⟨name, [.handle worker], .received none, none⟩

theorem Waits.loops {thread : Thread} (waits : thread.Waits) : thread.Loops := by
  cases waits with
  | serves => exact .serves
  | awaits awaits => exact .awaits awaits
  | handles => exact .handles

theorem Loops.busy {thread : Thread} (loops : thread.Loops) : thread.frames ≠ [] := by
  cases loops <;> simp_all

variable {thread thread' : Thread} {exits : Nat → Option Exit} {s s' : Shared}

/-- As long as there are no messages, whoever waits for one changes nothing, and leaves only if the
token is cancelled. -/
theorem Steps.waits (steps : thread.Steps exits s s' thread') (waits : thread.Waits)
    (empty : s.channel.pop? = none) :
    s' = s ∧ (thread'.Waits ∨ thread'.frames = [] ∧ s.cancelled = true) := by
  cases waits with
  | serves =>
    obtain ⟨frames, answer', h, rfl⟩ := steps.of_calm (by simp)
    cases Frame.moves_of_step h with
    | quits cancelled => exact ⟨rfl, .inr ⟨rfl, cancelled⟩⟩
    | serves => exact ⟨rfl, .inl (.awaits rfl)⟩
  | @awaits name f worker answer awaits =>
    obtain ⟨frames, answer', h, rfl⟩ := steps.of_calm (by rintro _ _ _ rfl; cases awaits)
    cases Frame.moves_of_step h with
    | dequeuesNone | pollsNone | heedsNone | awaitsNone => exact ⟨rfl, .inl .handles⟩
    | dequeues | polls | pollsAgain | heeds | awaits | rises => exact ⟨rfl, .inl (.awaits rfl)⟩
    | receives popped => simp [empty] at popped
    | _ => cases awaits
  | handles =>
    obtain ⟨frames, answer', h, rfl⟩ := steps.of_calm (by simp)
    cases h
    exact ⟨rfl, .inl .serves⟩

/-- Nothing that a message does ends the loop; only the cancelled token does. -/
theorem Steps.loops (steps : thread.Steps exits s s' thread') (loops : thread.Loops) :
    thread'.Loops ∨ thread'.frames = [] ∧ s.cancelled = true := by
  cases loops with
  | serves =>
    obtain ⟨frames, answer', h, rfl⟩ := steps.of_calm (by simp)
    cases Frame.moves_of_step h with
    | quits cancelled => exact .inr ⟨rfl, cancelled⟩
    | serves => exact .inl (.awaits rfl)
  | @awaits name f worker answer awaits =>
    obtain ⟨frames, answer', h, rfl⟩ := steps.of_calm (by rintro _ _ _ rfl; cases awaits)
    cases Frame.moves_of_step h with
    | dequeuesNone | receives | pollsNone | heedsNone | awaitsNone => exact .inl .handles
    | dequeues | polls | pollsAgain | heeds | awaits | rises => exact .inl (.awaits rfl)
    | _ => cases awaits
  | @handles name worker answer =>
    obtain ⟨frames, answer', h, rfl⟩ := steps.of_calm (by simp)
    cases Frame.moves_of_step h with
    | @handles _ m => exact .inl (@Loops.works _ [.process m] worker _ rfl)
    | handlesNone => exact .inl .serves
  | @works thread above worker desc frames =>
    left
    rcases steps.beneath frames with ⟨above, stays⟩ | frames
    · exact .works stays
    -- The guard ends what the message has done, a panic included.
    cases steps with
    | moved top calm h =>
      cases frames.symm.trans top
      cases h
      rw [calm]
      exact .serves
    | panicked top => cases frames.symm.trans top
    | unwound top _ h =>
      cases frames.symm.trans top
      cases h
      exact .serves

end Thread

section

variable (requested started : Nat)

def Answer.quotes : Answer → Bool
  | report requested' started' _ _ => requested' = requested ∧ started' = started
  | _ => true

def Frame.quotes : Frame → Bool
  | report requested' started' => requested' = requested ∧ started' = started
  | give answer | leave _ answer => answer.quotes requested started
  | _ => true

/-- Every report that the thread is on the way to names these numbers of threads. -/
structure Thread.Quotes (thread : Thread) : Prop where
  frames : thread.frames.all (Frame.quotes requested started)
  answer : thread.answer.quotes requested started

variable {requested started}

theorem Frame.step_quotes {f : Frame} {thread : String} {answer answer' : Answer}
    {exits : Nat → Option Exit} {s s' : Shared} {frames : List Frame}
    (own : f.quotes requested started) (known : answer.quotes requested started)
    (h : f.step thread answer exits s = .moved s' frames answer') :
    frames.all (quotes requested started) ∧ answer'.quotes requested started := by
  cases moves_of_step h with
  | leaves | gives | reports => exact ⟨rfl, own⟩
  | drops => exact ⟨(Bool.and_true _).trans own, rfl⟩
  | unpinned | unpins | unmaps => exact ⟨rfl, known⟩
  | _ => exact ⟨rfl, rfl⟩

theorem Frame.unwind_quotes {f : Frame} {thread : String} {s s' : Shared} {frames : List Frame}
    {goesOn : Bool} (own : f.quotes requested started)
    (h : f.unwind thread s = (s', frames, goesOn)) : frames.all (quotes requested started) := by
  cases f with
  | run device script held => cases held <;> cases h <;> rfl
  | leave held given =>
    cases held <;> cases h
    · rfl
    · exact (Bool.and_true _).trans own
  | unpin buffers => cases buffers <;> cases h <;> rfl
  | _ => cases h; rfl

theorem Thread.Steps.quotes {thread thread' : Thread} {exits : Nat → Option Exit} {s s' : Shared}
    (steps : thread.Steps exits s s' thread') (quotes : thread.Quotes requested started) :
    thread'.Quotes requested started := by
  obtain ⟨all, answer⟩ := quotes
  cases steps with
  | moved top _ h =>
    rw [top, List.all_cons, Bool.and_eq_true] at all
    obtain ⟨own, known⟩ := Frame.step_quotes all.1 answer h
    exact ⟨by rw [List.all_append, own, all.2]; rfl, known⟩
  | panicked => exact ⟨all, answer⟩
  | unwound top _ h =>
    rw [top, List.all_cons, Bool.and_eq_true] at all
    exact ⟨by rw [List.all_append, Frame.unwind_quotes all.1 h, all.2]; rfl, answer⟩

end

/-- The thread waits for the others, and then stops the server. -/
inductive Thread.Halting : Thread → Prop
  | joins {name : String} {pending : List Nat} {joined : Nat} {rest : List Frame}
      {answer : Answer} : Halting ⟨name, .join pending joined :: .stop :: rest, answer, none⟩
  | stops {name : String} {rest : List Frame} {answer : Answer} :
      Halting ⟨name, .stop :: rest, answer, none⟩

theorem Thread.Steps.halting {thread thread' : Thread} {exits : Nat → Option Exit} {s s' : Shared}
    (steps : thread.Steps exits s s' thread') (halting : thread.Halting) :
    thread'.Halting ∨ s'.state = .stopped := by
  cases halting with
  | @joins name pending joined rest answer =>
    obtain ⟨frames, answer', h, rfl⟩ := steps.of_calm (by simp)
    cases Frame.moves_of_step h with
    | joined => exact .inl .stops
    | joins | joinsPanicked => exact .inl .joins
  | stops =>
    obtain ⟨frames, answer', h, rfl⟩ := steps.of_calm (by simp)
    cases Frame.moves_of_step h with
    | stopsAgain stopped => exact .inr stopped
    | stops => exact .inr rfl

namespace Thread

variable {thread thread' : Thread} {exits : Nat → Option Exit} {s s' : Shared}

theorem Steps.stages (steps : thread.Steps exits s s' thread') :
    s.Steady s' ∨ ∃ f rest, thread.frames = f :: rest ∧ thread.panicking = none ∧
      ((∃ reason, f = .request reason) ∧ s.state = .running ∧ s'.state = .shuttingDown ∧
          s'.stages = s.stages ++ [.shuttingDown] ∨
        f = .stop ∧ s.state ≠ .stopped ∧ s'.state = .stopped ∧
          s'.stages = s.stages ++ [.stopped]) := by
  cases steps with
  | moved top calm h =>
    cases Frame.step_stages h with
    | steady steady => exact .inl steady
    | requests running state stages =>
      exact .inr ⟨_, _, top, calm, .inl ⟨⟨_, rfl⟩, running, state, stages⟩⟩
    | stops going state stages =>
      exact .inr ⟨_, _, top, calm, .inr ⟨rfl, going, state, stages⟩⟩
  | panicked => exact .inl ⟨rfl, rfl⟩
  | unwound _ _ h => exact .inl (Frame.unwind_steady h)

/-- There is no way back. -/
theorem Steps.state (steps : thread.Steps exits s s' thread') :
    (s.state ≠ .running → s'.state ≠ .running) ∧ (s.state = .stopped → s'.state = .stopped) := by
  rcases steps.stages with ⟨state, -⟩ | ⟨_, _, _, _, ⟨_, running, state, _⟩ | ⟨_, _, state, _⟩⟩
  · rw [state]
    exact ⟨id, id⟩
  · simp [running]
  · simp [state]

theorem Steps.cancelled (steps : thread.Steps exits s s' thread')
    (own : ∀ f ∈ thread.frames, f.Serves ∨ f.Ends) :
    (s'.cancelled = true → s.cancelled = true ∨ .cancel ∈ thread.frames) ∧
      (.cancel ∈ thread'.frames → .cancel ∈ thread.frames ∨ s'.state ≠ .running) := by
  cases steps with
  | moved top calm h =>
    obtain ⟨cancelled, cancels⟩ := Frame.step_cancelled (own _ (by simp [top])) h
    refine ⟨fun now => (cancelled now).imp_right fun here => by simp [top, here], fun member => ?_⟩
    rcases List.mem_append.1 member with member | member
    · exact .inr (cancels member)
    · exact .inl (by simp [top, member])
  | panicked => exact ⟨.inl, .inl⟩
  | unwound top _ h =>
    obtain ⟨cancelled, absent⟩ := Frame.unwind_cancelled h
    refine ⟨fun now => .inl (cancelled ▸ now), fun member => ?_⟩
    rcases List.mem_append.1 member with member | member
    · exact absurd member absent
    · exact .inl (by simp [top, member])

end Thread

end DispatchServer
