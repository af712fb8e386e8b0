import DispatchServer.Proofs.Calls
import DispatchServer.Proofs.Stages

/-! What a coordinator was asked for. A request takes effect with the step that tries to take the
state out of running, and the end of the server with the step that takes it to stopped; the order of
these steps, whoever takes them, decides the state, the reason, and the fate of every later demand.
-/
namespace DispatchServer

inductive Demand
  | request (reason : ShutdownReason)
  | finish
  deriving DecidableEq

namespace Demand

def stage (demands : List Demand) : ServerState :=
  if .finish ∈ demands then .stopped else if demands = [] then .running else .shuttingDown

def asked? : List Demand → Option ShutdownReason
  | .request reason :: _ => some reason
  | _ => none

/-- The states that these demands lead through. -/
def stages (demands : List Demand) : List ServerState :=
  (if (asked? demands).isSome then [.shuttingDown] else []) ++
    if .finish ∈ demands then [.stopped] else []

variable {demands : List Demand}

theorem stage_eq_running_iff : stage demands = .running ↔ demands = [] := by
  unfold stage
  split
  · rename_i finish
    simpa using List.ne_nil_of_mem finish
  · split <;> simp_all

theorem stage_eq_stopped_iff : stage demands = .stopped ↔ .finish ∈ demands := by
  unfold stage
  split
  · simp_all
  · split <;> simp_all

theorem stage_eq_shuttingDown_iff :
    stage demands = .shuttingDown ↔ (∃ reason, .request reason ∈ demands) ∧ .finish ∉ demands := by
  have requests (fresh : .finish ∉ demands) (some : demands ≠ []) :
      ∃ reason, .request reason ∈ demands := by
    obtain ⟨first, rest, rfl⟩ := List.exists_cons_of_ne_nil some
    cases first with
    | request reason => exact ⟨reason, List.mem_cons_self⟩
    | finish => exact absurd List.mem_cons_self fresh
  unfold stage
  split
  · simp_all
  · split <;> simp_all

/-- No demand takes the state back. -/
theorem rank_stage_le (demands later : List Demand) :
    (stage demands).rank ≤ (stage (demands ++ later)).rank := by
  by_cases finished : .finish ∈ demands
  · rw [stage_eq_stopped_iff.2 finished,
      stage_eq_stopped_iff.2 (List.mem_append_left later finished)]
  · by_cases none : demands = []
    · rw [stage_eq_running_iff.2 none]
      exact Nat.zero_le _
    · have begun : stage demands = .shuttingDown := by rw [stage, if_neg finished, if_neg none]
      rw [begun, stage]
      split
      · exact Nat.le_succ 1
      · rw [if_neg (List.append_ne_nil_of_left_ne_nil none later)]

theorem asked?_append (some : demands ≠ []) (later : List Demand) :
    asked? (demands ++ later) = asked? demands := by
  obtain ⟨first, rest, rfl⟩ := List.exists_cons_of_ne_nil some
  cases first <;> rfl

theorem stage_request (some : demands ≠ []) (reason : ShutdownReason) :
    stage (demands ++ [.request reason]) = stage demands := by
  simp [stage, some]

theorem stages_request (some : demands ≠ []) (reason : ShutdownReason) :
    stages (demands ++ [.request reason]) = stages demands := by
  simp [stages, asked?_append some]

theorem stage_finish (demands : List Demand) : stage (demands ++ [.finish]) = .stopped := by
  simp [stage]

theorem asked?_finish (demands : List Demand) : asked? (demands ++ [.finish]) = asked? demands := by
  cases demands with
  | nil => rfl
  | cons first rest => exact asked?_append (List.cons_ne_nil first rest) _

theorem stages_finish (demands : List Demand) : stages (demands ++ [.finish]) =
    if .finish ∈ demands then stages demands else stages demands ++ [.stopped] := by
  rw [stages, stages, asked?_finish]
  split <;> simp_all

end Demand

def Thread.demand? (thread : Thread) : Option Demand :=
  match thread.frames, thread.panicking with
  | .request reason :: _, none => some (.request reason)
  | .stop :: _, none => some .finish
  | _, _ => none

def World.demand? (w : World) (t : Nat) : Option Demand := (w.threads[t]?).bind Thread.demand?

theorem mem_set_or_here {threads : List Thread} {t : Nat} {thread new : Thread}
    (member : thread ∈ threads) : thread ∈ threads.set t new ∨ threads[t]? = some thread := by
  obtain ⟨u, here⟩ := List.getElem?_of_mem member
  rcases eq_or_ne t u with rfl | other
  · exact .inr here
  · exact .inl (List.mem_of_getElem? ((List.getElem?_set_ne other).trans here))

theorem exists_mem_set {threads : List Thread} {t : Nat} {thread new : Thread} {p : Thread → Prop}
    (here : threads[t]? = some thread) (apart : ¬ p thread) (some : ∃ one ∈ threads, p one) :
    ∃ one ∈ threads.set t new, p one := by
  obtain ⟨one, member, holds⟩ := some
  refine ⟨one, (mem_set_or_here member).resolve_right fun there => apart ?_, holds⟩
  rwa [Option.some.inj (here.symm.trans there)]

namespace Scene

/-- The thread takes a step. -/
def Goes (sc : Scene) (t : Nat) (sc' : Scene) : Prop :=
  sc.world.step t = some sc'.world ∧ sc'.hands = sc.hands

theorem still_of_assign {w : World} {hands hands' : List Message} {t : Nat} {caller : Thread}
    {frames : List Frame} (here : caller ∈ w.threads[t]?) (none : caller.frames = [])
    (some : frames ≠ []) (u : Nat) : ¬ Goes ⟨w, hands⟩ u ⟨w.assign t frames, hands'⟩ := by
  intro goes
  have still := World.idle_of_step goes.1 here none
  rw [World.assign_eq here, getElem?_set_here here] at still
  exact some ((congrArg Thread.frames (Option.some.inj still)).trans none)

/-- A run, and what was demanded meanwhile. -/
inductive Traced (offered : Interface) (first : Scene) : List Demand → Scene → Prop
  | begins : Traced offered first [] first
  | goes {demands : List Demand} {sc sc' : Scene} {t : Nat}
      (before : Traced offered first demands sc) (h : sc.Goes t sc') :
      Traced offered first (demands ++ (sc.world.demand? t).toList) sc'
  | aside {demands : List Demand} {sc sc' : Scene} (before : Traced offered first demands sc)
      (h : Move offered sc sc') (still : ∀ t, ¬ sc.Goes t sc') : Traced offered first demands sc'

variable {offered : Interface} {first sc sc' : Scene} {demands : List Demand}

theorem Goes.move {t : Nat} (goes : sc.Goes t sc') : Move offered sc sc' := by
  obtain ⟨w, hands⟩ := sc
  obtain ⟨v, hands'⟩ := sc'
  obtain ⟨h, rfl⟩ := goes
  exact .step t h

theorem Traced.reaches (traced : Traced offered first demands sc) : Reaches offered first sc := by
  induction traced with
  | begins => exact .refl
  | goes _ h ih => exact ih.tail h.move
  | aside _ h _ ih => exact ih.tail h

/-- Along every run something is demanded, or nothing. -/
theorem Traced.extend (traced : Traced offered first demands sc) (run : Reaches offered sc sc') :
    ∃ later, Traced offered first (demands ++ later) sc' := by
  induction run with
  | refl => exact ⟨[], by rwa [List.append_nil]⟩
  | @tail sc₁ sc₂ _ h ih =>
    obtain ⟨later, traced⟩ := ih
    by_cases goes : ∃ t, sc₁.Goes t sc₂
    · obtain ⟨t, goes⟩ := goes
      exact ⟨later ++ (sc₁.world.demand? t).toList, by
        rw [← List.append_assoc]
        exact traced.goes goes⟩
    · exact ⟨later, traced.aside h (not_exists.1 goes)⟩

end Scene

/-- The reason is kept, and neither the token's flag nor the closing flag is taken back. -/
structure Shared.Abides (s s' : Shared) : Prop where
  reason : s'.reason = s.reason
  cancelled : s.cancelled = true → s'.cancelled = true
  closing : s.closing = true → s'.closing = true

def Frame.coordinating : Frame → Bool
  | request _ | remember _ | cancel | stop | close => true
  | _ => false

namespace Frame

variable {f : Frame} {thread : String} {answer answer' : Answer} {exits : Nat → Option Exit}
  {s s' : Shared} {frames : List Frame} {goesOn : Bool}

/-- What one step can do to the coordinator and its queue. -/
inductive Coordinates (s s' : Shared) : Frame → List Frame → Prop
  | quiet {f : Frame} {frames : List Frame} (other : f.coordinating = false)
      (steady : s.Steady s') (abides : s.Abides s') (none : ∀ r, .remember r ∉ frames) :
      Coordinates s s' f frames
  | wins {reason : ShutdownReason} (running : s.state = .running) (state : s'.state = .shuttingDown)
      (stages : s'.stages = s.stages ++ [.shuttingDown]) (abides : s.Abides s') :
      Coordinates s s' (.request reason) [.remember reason, .cancel, .give (.flag true)]
  | loses {reason : ShutdownReason} (left : s.state ≠ .running) (same : s' = s) :
      Coordinates s s' (.request reason) [.cancel, .give (.flag false)]
  | remembers {reason : ShutdownReason} (steady : s.Steady s')
      (now : s'.reason = s.reason.or (some reason))
      (cancelled : s'.cancelled = s.cancelled) (closing : s'.closing = s.closing) :
      Coordinates s s' (.remember reason) []
  | cancels (steady : s.Steady s') (abides : s.Abides s') (now : s'.cancelled = true) :
      Coordinates s s' .cancel [.wake]
  | stops {joined : Nat} (going : s.state ≠ .stopped) (state : s'.state = .stopped)
      (stages : s'.stages = s.stages ++ [.stopped]) (abides : s.Abides s') :
      Coordinates s s' .stop [.close, .tally joined]
  | stays (stopped : s.state = .stopped) (steady : s.Steady s') (abides : s.Abides s') :
      Coordinates s s' .stop []
  | closes {frames : List Frame} (steady : s.Steady s') (abides : s.Abides s')
      (now : s'.closing = true) (none : ∀ r, .remember r ∉ frames) : Coordinates s s' .close frames

theorem step_abides (other : f.coordinating = false)
    (h : f.step thread answer exits s = .moved s' frames answer') :
    s.Abides s' ∧ ∀ r, .remember r ∉ frames := by
  cases moves_of_step h with
  | requests | requestsLate | remembers | cancels | stops | stopsAgain | closes | closesAgain =>
    cases other
  | _ => exact ⟨⟨rfl, id, id⟩, by simp⟩

theorem step_coordinates (h : f.step thread answer exits s = .moved s' frames answer') :
    Coordinates s s' f frames := by
  cases moves_of_step h with
  | requests running => exact .wins running rfl (s.stages_setState _) ⟨rfl, id, id⟩
  | requestsLate left => exact .loses left rfl
  | remembers => exact .remembers (.record ⟨rfl, rfl⟩ rfl) rfl rfl rfl
  | cancels => exact .cancels ⟨rfl, rfl⟩ ⟨rfl, fun _ => rfl, id⟩ rfl
  | stopsAgain stopped =>
    exact .stays stopped (.record (.record ⟨rfl, rfl⟩ rfl) rfl) ⟨rfl, id, id⟩
  | stops going =>
    cases step_stages h with
    | steady steady => exact absurd steady.state.symm going
    | stops going state stages => exact .stops going state stages ⟨rfl, id, id⟩
  | closesAgain closing => exact .closes ⟨rfl, rfl⟩ ⟨rfl, id, id⟩ closing (by simp)
  | closes => exact .closes ⟨rfl, rfl⟩ ⟨rfl, id, fun _ => rfl⟩ rfl (by simp)
  | _ =>
    obtain ⟨abides, none⟩ := step_abides rfl h
    cases step_stages h with
    | steady steady => exact .quiet rfl steady abides none

theorem step_reason (h : f.step thread answer exits s = .moved s' frames answer')
    {reason : ShutdownReason} (recorded : s.reason = some reason) : s'.reason = some reason := by
  cases step_coordinates h with
  | loses _ same => rw [same, recorded]
  | remembers _ now => rw [now, recorded]; rfl
  | quiet _ _ abides | wins _ _ _ abides | cancels _ abides | stops _ _ _ abides | stays _ _ abides
  | closes _ abides => exact abides.reason.trans recorded

theorem unwind_abides (h : f.unwind thread s = (s', frames, goesOn)) :
    s.Abides s' ∧ ∀ r, .remember r ∉ frames := by
  cases f with
  | run device script held => cases held <;> cases h <;> exact ⟨⟨rfl, id, id⟩, by simp⟩
  | leave held given => cases held <;> cases h <;> exact ⟨⟨rfl, id, id⟩, by simp⟩
  | unpin buffers => cases buffers <;> cases h <;> exact ⟨⟨rfl, id, id⟩, by simp⟩
  | _ => cases h; exact ⟨⟨rfl, id, id⟩, by simp⟩

end Frame

namespace Thread

/-- The thread is about to take the step of this frame. -/
def Poised (thread : Thread) (f : Frame) : Prop :=
  thread.panicking = none ∧ thread.frames.head? = some f

def Cancelling (thread : Thread) : Prop :=
  thread.panicking = none ∧ ∃ rest, thread.frames = .cancel :: rest ∨
    ∃ reason, thread.frames = .remember reason :: .cancel :: rest

theorem demand?_of_frames {thread : Thread} {f : Frame} {rest : List Frame}
    (top : thread.frames = f :: rest) (other : f.coordinating = false) :
    thread.demand? = none := by
  unfold demand?
  split
  · rename_i here _
    obtain ⟨rfl, -⟩ := List.cons.inj (top.symm.trans here)
    cases other
  · rename_i here _
    obtain ⟨rfl, -⟩ := List.cons.inj (top.symm.trans here)
    cases other
  · rfl

theorem demand?_of_panicking {thread : Thread} (panics : thread.panicking ≠ none) :
    thread.demand? = none := by
  unfold demand?
  split <;> simp_all

theorem not_poised {thread : Thread} {f g : Frame} {rest : List Frame}
    (top : thread.frames = f :: rest) (other : f ≠ g) : ¬ thread.Poised g := by
  rintro ⟨-, head⟩
  rw [top] at head
  exact other (Option.some.inj head)

theorem not_cancelling {thread : Thread} {f : Frame} {rest : List Frame}
    (top : thread.frames = f :: rest) (other : f ≠ .cancel)
    (other' : ∀ reason, f ≠ .remember reason) : ¬ thread.Cancelling := by
  rintro ⟨-, rest', frames | ⟨reason, frames⟩⟩
  · exact other (List.cons.inj (top.symm.trans frames)).1
  · exact other' reason (List.cons.inj (top.symm.trans frames)).1

end Thread

namespace Scene

variable {offered : Interface} {first sc sc' : Scene} {demands : List Demand}

/-- What is known of the coordinator once these demands were made. A request that was first has its
reason recorded, or is about to record it. -/
structure Coordinated (demands : List Demand) (sc : Scene) : Prop where
  state : sc.world.shared.state = Demand.stage demands
  stages : sc.world.shared.stages = Demand.stages demands
  reason : sc.world.shared.reason = Demand.asked? demands ∨
    sc.world.shared.reason = none ∧ ∃ reason, Demand.asked? demands = some reason ∧
      ∃ thread ∈ sc.world.threads, thread.Poised (.remember reason)
  remembers : ∀ thread ∈ sc.world.threads, ∀ reason, .remember reason ∈ thread.frames →
    Demand.asked? demands = some reason
  cancelled : ∀ reason, .request reason ∈ demands → sc.world.shared.cancelled = true ∨
    ∃ thread ∈ sc.world.threads, thread.Cancelling
  closing : .finish ∈ demands → sc.world.shared.closing = true ∨
    ∃ thread ∈ sc.world.threads, thread.Poised .close

/-- Nobody takes a step: the coordinator and its queue are left as they are, and so are all who are
in a call with them. -/
structure Aside (sc sc' : Scene) : Prop where
  steady : sc.world.shared.Steady sc'.world.shared
  reason : sc'.world.shared.reason = sc.world.shared.reason
  cancelled : sc'.world.shared.cancelled = sc.world.shared.cancelled
  closing : sc'.world.shared.closing = sc.world.shared.closing
  remembers : ∀ thread ∈ sc'.world.threads, thread ∈ sc.world.threads ∨
    ∀ reason, .remember reason ∉ thread.frames
  others : ∀ thread ∈ sc.world.threads, thread.frames ≠ [] →
    (∀ ticket, thread.frames ≠ [.awaitReply ticket]) → thread ∈ sc'.world.threads

theorem aside_assign {w : World} {hands hands' : List Message} {u : Nat} {caller : Thread}
    {frames : List Frame} (there : caller ∈ w.threads[u]?)
    (free : caller.frames = [] ∨ ∃ ticket, caller.frames = [.awaitReply ticket])
    (fresh : ∀ reason, .remember reason ∉ frames) :
    Aside ⟨w, hands⟩ ⟨w.assign u frames, hands'⟩ := by
  rw [World.assign_eq there]
  refine ⟨⟨rfl, rfl⟩, rfl, rfl, rfl, fun thread member => ?_, fun thread member busy apart => ?_⟩
  · rcases List.mem_or_eq_of_mem_set member with member | rfl
    · exact .inl member
    · exact .inr fresh
  · refine (mem_set_or_here member).resolve_right fun here => ?_
    obtain rfl := Option.some.inj (here.symm.trans there)
    rcases free with none | ⟨ticket, waits⟩
    · exact busy none
    · exact apart ticket waits

theorem Move.goes_or_aside (h : Move offered sc sc') : (∃ t, sc.Goes t sc') ∨ sc.Aside sc' := by
  cases h.shift with
  | steps t goes => exact .inl ⟨t, goes, rfl⟩
  | starts name =>
    refine .inr ⟨⟨rfl, rfl⟩, rfl, rfl, rfl, fun thread member => ?_,
      fun _ member _ _ => List.mem_append_left _ member⟩
    rcases List.mem_append.1 member with member | member
    · exact .inl member
    · rw [List.mem_singleton.1 member]
      exact .inr (by simp [Thread.idle])
  | @builds w _ _ plan =>
    exact .inr ⟨w.shared.steady_build plan, rfl, rfl, rfl, fun _ => .inl,
      fun _ member _ _ => member⟩
  | @spills w _ _ m panicking =>
    exact .inr ⟨w.shared.steady_drop m panicking, rfl, rfl, rfl, fun _ => .inl,
      fun _ member _ _ => member⟩
  | signals => exact .inr ⟨⟨rfl, rfl⟩, rfl, rfl, rfl, fun _ => .inl, fun _ member _ _ => member⟩
  | calls here free errand =>
    refine .inr (aside_assign here free fun reason => ?_)
    cases errand with
    | service service => cases service <;> simp [Service.frames]
    | use use => cases use <;> simp [Use.frame]
    | nothing => simp

theorem Move.reason (h : Move offered sc sc') {reason : ShutdownReason}
    (recorded : sc.world.shared.reason = some reason) :
    sc'.world.shared.reason = some reason := by
  rcases h.goes_or_aside with ⟨t, goes, -⟩ | aside
  · obtain ⟨thread, thread', s', -, steps, goes⟩ := World.steps_of_step goes
    rw [goes]
    cases steps with
    | moved _ _ h => exact Frame.step_reason h recorded
    | panicked => exact recorded
    | unwound _ _ h => exact (Frame.unwind_abides h).1.reason.trans recorded
  · exact aside.reason.trans recorded

theorem Reaches.reason (run : Reaches offered sc sc') {reason : ShutdownReason}
    (recorded : sc.world.shared.reason = some reason) :
    sc'.world.shared.reason = some reason := by
  induction run with
  | refl => exact recorded
  | tail _ h ih => exact h.reason ih

/-- Whoever is about to record the reason still is, if somebody else takes the step. -/
theorem Coordinated.reason_set (known : Coordinated demands sc) {t : Nat} {thread : Thread}
    {s' : Shared} (here : sc.world.threads[t]? = some thread)
    (apart : ∀ reason, ¬ thread.Poised (.remember reason))
    (same : s'.reason = sc.world.shared.reason) (new : Thread) :
    s'.reason = Demand.asked? demands ∨ s'.reason = none ∧ ∃ reason,
      Demand.asked? demands = some reason ∧
        ∃ thread ∈ sc.world.threads.set t new, thread.Poised (.remember reason) := by
  rw [same]
  refine known.reason.imp_right (And.imp_right ?_)
  rintro ⟨reason, first, poised⟩
  exact ⟨reason, first, exists_mem_set here (apart reason) poised⟩

/-- A step that is not one of the coordinator's. -/
theorem Coordinated.quiet (known : Coordinated demands sc) {t : Nat} {thread thread' : Thread}
    {s' : Shared} (hands : List Message) (here : sc.world.threads[t]? = some thread)
    (apart : ∀ f, f.coordinating → ¬ thread.Poised f) (steady : sc.world.shared.Steady s')
    (abides : sc.world.shared.Abides s')
    (remembers : ∀ reason, .remember reason ∈ thread'.frames → .remember reason ∈ thread.frames) :
    Coordinated demands ⟨⟨s', sc.world.threads.set t thread'⟩, hands⟩ := by
  refine ⟨steady.state.trans known.state, steady.stages.trans known.stages,
    known.reason_set here (fun reason => apart _ rfl) abides.reason _,
    forall_mem_set known.remembers fun reason member =>
      known.remembers thread (List.mem_of_getElem? here) reason (remembers reason member),
    fun reason asked => (known.cancelled reason asked).imp abides.cancelled
      (exists_mem_set here ?_),
    fun finished => (known.closing finished).imp abides.closing
      (exists_mem_set here (apart _ rfl))⟩
  rintro ⟨calm, rest, top | ⟨reason, top⟩⟩
  · exact apart .cancel rfl ⟨calm, by rw [top]; rfl⟩
  · exact apart (.remember reason) rfl ⟨calm, by rw [top]; rfl⟩

section

variable {t joined : Nat} {thread : Thread} {rest : List Frame} {answer : Answer} {s' : Shared}
  {reason : ShutdownReason}

theorem Coordinated.asked_of_below (known : Coordinated demands sc) {f : Frame}
    (here : sc.world.threads[t]? = some thread) (top : thread.frames = f :: rest)
    (inside : .remember reason ∈ rest) : Demand.asked? demands = some reason :=
  known.remembers thread (List.mem_of_getElem? here) reason
    (by rw [top]; exact List.mem_cons_of_mem f inside)

/-- The first request is about to record its reason. -/
theorem Coordinated.wins (known : Coordinated demands sc) (hands : List Message)
    (here : sc.world.threads[t]? = some thread) (top : thread.frames = .request reason :: rest)
    (calm : thread.panicking = none) (running : sc.world.shared.state = .running)
    (state : s'.state = .shuttingDown)
    (stages : s'.stages = sc.world.shared.stages ++ [.shuttingDown])
    (abides : sc.world.shared.Abides s') :
    Coordinated (demands ++ [.request reason]) ⟨⟨s', sc.world.threads.set t { thread with
      frames := [.remember reason, .cancel, .give (.flag true)] ++ rest, answer := answer }⟩,
      hands⟩ := by
  obtain rfl : demands = [] := Demand.stage_eq_running_iff.1 (known.state.symm.trans running)
  have unasked : sc.world.shared.reason = none := by
    rcases known.reason with none | ⟨none, -⟩ <;> exact none
  refine ⟨state, by rw [stages, known.stages]; rfl, .inr ⟨abides.reason.trans unasked, reason,
    rfl, _, mem_set_here here, calm, rfl⟩, forall_mem_set (fun one there other inside => ?_)
    fun other inside => ?_, fun _ _ => .inr ⟨_, mem_set_here here, calm, _, .inr ⟨reason, rfl⟩⟩,
    by simp⟩
  · cases known.remembers one there other inside
  · have inside : .remember other ∈ rest ∨ other = reason := by simpa [or_comm] using inside
    rcases inside with inside | rfl
    · cases known.asked_of_below here top inside
    · rfl

/-- A later request goes on to cancel the token. -/
theorem Coordinated.loses (known : Coordinated demands sc) (hands : List Message)
    (here : sc.world.threads[t]? = some thread) (top : thread.frames = .request reason :: rest)
    (calm : thread.panicking = none) (left : sc.world.shared.state ≠ .running) :
    Coordinated (demands ++ [.request reason]) ⟨⟨sc.world.shared, sc.world.threads.set t
      { thread with frames := [.cancel, .give (.flag false)] ++ rest, answer := answer }⟩,
      hands⟩ := by
  have some : demands ≠ [] := fun none => left (by rw [known.state, none]; rfl)
  refine ⟨known.state.trans (Demand.stage_request some reason).symm,
    known.stages.trans (Demand.stages_request some reason).symm, ?_,
    forall_mem_set (fun one there other inside => ?_) fun other inside => ?_,
    fun _ _ => .inr ⟨_, mem_set_here here, calm, _, .inl rfl⟩, fun finished => ?_⟩
  · rw [Demand.asked?_append some]
    exact known.reason_set here (fun _ => Thread.not_poised top (by simp)) rfl _
  · exact (Demand.asked?_append some _).trans (known.remembers one there other inside)
  · exact (Demand.asked?_append some _).trans
      (known.asked_of_below here top (by simpa using inside))
  · exact (known.closing (by simpa using finished)).imp_right
      (exists_mem_set here (Thread.not_poised top (by simp)))

/-- The reason is recorded, unless there is one already. -/
theorem Coordinated.records (known : Coordinated demands sc) (hands : List Message)
    (here : sc.world.threads[t]? = some thread) (top : thread.frames = .remember reason :: rest)
    (calm : thread.panicking = none) (steady : sc.world.shared.Steady s')
    (now : s'.reason = sc.world.shared.reason.or (some reason))
    (cancelled : s'.cancelled = sc.world.shared.cancelled)
    (closing : s'.closing = sc.world.shared.closing) :
    Coordinated demands ⟨⟨s', sc.world.threads.set t
      { thread with frames := [] ++ rest, answer := answer }⟩, hands⟩ := by
  have asked := known.remembers thread (List.mem_of_getElem? here) reason (by simp [top])
  refine ⟨steady.state.trans known.state, steady.stages.trans known.stages, .inl ?_,
    forall_mem_set known.remembers fun _ => known.asked_of_below here top,
    fun other request => ?_, fun finished => ?_⟩
  · rw [now, asked]
    rcases known.reason with recorded | ⟨none, -⟩
    · rw [recorded, asked]
      rfl
    · rw [none]
      rfl
  · rcases known.cancelled other request with done | cancelling
    · exact .inl (cancelled.trans done)
    · -- Whoever has made the request cancels the token next.
      by_cases own : thread.Cancelling
      · obtain ⟨-, rest', frames | ⟨_, frames⟩⟩ := own
        · cases top.symm.trans frames
        · obtain ⟨-, rfl⟩ := List.cons.inj (top.symm.trans frames)
          exact .inr ⟨_, mem_set_here here, calm, rest', .inl rfl⟩
      · exact .inr (exists_mem_set here own cancelling)
  · exact (known.closing finished).imp (fun done => closing.trans done)
      (exists_mem_set here (Thread.not_poised top (by simp)))

/-- The token is cancelled, for whatever request it is. -/
theorem Coordinated.cancels (known : Coordinated demands sc) (hands : List Message)
    (here : sc.world.threads[t]? = some thread) (top : thread.frames = .cancel :: rest)
    (steady : sc.world.shared.Steady s') (abides : sc.world.shared.Abides s')
    (now : s'.cancelled = true) :
    Coordinated demands ⟨⟨s', sc.world.threads.set t
      { thread with frames := [.wake] ++ rest, answer := answer }⟩, hands⟩ :=
  ⟨steady.state.trans known.state, steady.stages.trans known.stages,
    known.reason_set here (fun _ => Thread.not_poised top (by simp)) abides.reason _,
    forall_mem_set known.remembers fun _ inside =>
      known.asked_of_below here top (by simpa using inside),
    fun _ _ => .inl now, fun finished => (known.closing finished).imp abides.closing
      (exists_mem_set here (Thread.not_poised top (by simp)))⟩

/-- A demand for the end asks for no reason, and for no cancellation. -/
theorem Coordinated.finishes (known : Coordinated demands sc) (hands : List Message)
    {frames : List Frame} (here : sc.world.threads[t]? = some thread)
    (top : thread.frames = .stop :: rest) (state : s'.state = .stopped)
    (stages : s'.stages = Demand.stages (demands ++ [.finish]))
    (abides : sc.world.shared.Abides s') (none : ∀ r, .remember r ∉ frames)
    (closing : s'.closing = true ∨ ∃ other ∈ sc.world.threads.set t
      { thread with frames := frames ++ rest, answer := answer }, other.Poised .close) :
    Coordinated (demands ++ [.finish]) ⟨⟨s', sc.world.threads.set t
      { thread with frames := frames ++ rest, answer := answer }⟩, hands⟩ := by
  refine ⟨state.trans (Demand.stage_finish _).symm, stages, ?_,
    forall_mem_set (fun one there other inside => ?_) fun other inside => ?_,
    fun other request => ?_, fun _ => closing⟩
  · rw [Demand.asked?_finish]
    exact known.reason_set here (fun _ => Thread.not_poised top (by simp)) abides.reason _
  · exact (Demand.asked?_finish _).trans (known.remembers one there other inside)
  · have inside := (List.mem_append.1 inside).resolve_left (none other)
    exact (Demand.asked?_finish _).trans (known.asked_of_below here top inside)
  · exact (known.cancelled other (by simpa using request)).imp abides.cancelled
      (exists_mem_set here (Thread.not_cancelling top (by simp) (by simp)))

/-- The queue is closed, for whatever demand it is. -/
theorem Coordinated.closes (known : Coordinated demands sc) (hands : List Message)
    {frames : List Frame} (here : sc.world.threads[t]? = some thread)
    (top : thread.frames = .close :: rest) (steady : sc.world.shared.Steady s')
    (abides : sc.world.shared.Abides s') (now : s'.closing = true)
    (none : ∀ r, .remember r ∉ frames) :
    Coordinated demands ⟨⟨s', sc.world.threads.set t
      { thread with frames := frames ++ rest, answer := answer }⟩, hands⟩ :=
  ⟨steady.state.trans known.state, steady.stages.trans known.stages,
    known.reason_set here (fun _ => Thread.not_poised top (by simp)) abides.reason _,
    forall_mem_set known.remembers fun other inside =>
      known.asked_of_below here top ((List.mem_append.1 inside).resolve_left (none other)),
    fun other request => (known.cancelled other request).imp abides.cancelled
      (exists_mem_set here (Thread.not_cancelling top (by simp) (by simp))), fun _ => .inl now⟩

end

theorem Coordinated.step (known : Coordinated demands sc) {t : Nat} {thread thread' : Thread}
    {s' : Shared} (hands : List Message) (here : sc.world.threads[t]? = some thread)
    (steps : thread.Steps sc.world.exits sc.world.shared s' thread') :
    Coordinated (demands ++ thread.demand?.toList)
      ⟨⟨s', sc.world.threads.set t thread'⟩, hands⟩ := by
  cases steps with
  | panicked top calm =>
    rw [Thread.demand?_of_frames top rfl, Option.toList_none, List.append_nil]
    refine known.quiet hands here (fun f own => Thread.not_poised top ?_) ⟨rfl, rfl⟩ ⟨rfl, id, id⟩
      fun _ => id
    rintro rfl
    cases own
  | @unwound f rest frames text s' goesOn top panics h =>
    obtain ⟨abides, none⟩ := Frame.unwind_abides h
    rw [Thread.demand?_of_panicking (by simp [panics]), Option.toList_none, List.append_nil]
    refine known.quiet hands here (fun f own poised => ?_) (Frame.unwind_steady h) abides
      fun reason inside => ?_
    · cases panics.symm.trans poised.1
    · rw [top]
      exact List.mem_cons_of_mem f ((List.mem_append.1 inside).resolve_left (none reason))
  | @moved f rest frames answer s' top calm h =>
    cases Frame.step_coordinates h with
    | quiet other steady abides none =>
      rw [Thread.demand?_of_frames top other, Option.toList_none, List.append_nil]
      refine known.quiet hands here (fun g own => Thread.not_poised top ?_) steady abides
        fun reason inside => ?_
      · rintro rfl
        simp [other] at own
      · rw [top]
        exact List.mem_cons_of_mem f ((List.mem_append.1 inside).resolve_left (none reason))
    | @wins reason running state stages abides =>
      have demand : thread.demand? = some (.request reason) := by
        simp only [Thread.demand?, top, calm]
      rw [demand]
      exact known.wins hands here top calm running state stages abides
    | @loses reason left same =>
      have demand : thread.demand? = some (.request reason) := by
        simp only [Thread.demand?, top, calm]
      rw [demand, same]
      exact known.loses hands here top calm left
    | remembers steady now cancelled closing =>
      rw [Thread.demand?, top, Option.toList_none, List.append_nil]
      exact known.records hands here top calm steady now cancelled closing
    | cancels steady abides now =>
      rw [Thread.demand?, top, Option.toList_none, List.append_nil]
      exact known.cancels hands here top steady abides now
    | stops going state stages abides =>
      have fresh : .finish ∉ demands := fun finished =>
        going (known.state.trans (Demand.stage_eq_stopped_iff.2 finished))
      have demand : thread.demand? = some .finish := by simp only [Thread.demand?, top, calm]
      rw [demand]
      refine known.finishes hands here top state ?_ abides (by simp)
        (.inr ⟨_, mem_set_here here, calm, rfl⟩)
      rw [Demand.stages_finish, if_neg fresh, stages, known.stages]
    | stays stopped steady abides =>
      have finished : .finish ∈ demands :=
        Demand.stage_eq_stopped_iff.1 (known.state.symm.trans stopped)
      have demand : thread.demand? = some .finish := by simp only [Thread.demand?, top, calm]
      rw [demand]
      refine known.finishes hands here top (steady.state.trans stopped) ?_ abides (by simp)
        ((known.closing finished).imp abides.closing
          (exists_mem_set here (Thread.not_poised top (by simp))))
      rw [Demand.stages_finish, if_pos finished, steady.stages, known.stages]
    | closes steady abides now none =>
      rw [Thread.demand?, top, Option.toList_none, List.append_nil]
      exact known.closes hands here top steady abides now none

theorem Aside.poised (aside : sc.Aside sc') {f : Frame} (own : f.coordinating)
    (some : ∃ thread ∈ sc.world.threads, thread.Poised f) :
    ∃ thread ∈ sc'.world.threads, thread.Poised f := by
  obtain ⟨thread, member, calm, head⟩ := some
  refine ⟨thread, aside.others thread member (fun none => ?_) fun ticket waits => ?_, calm, head⟩
  · simp [none] at head
  · obtain rfl : .awaitReply ticket = f := by simpa [waits] using head
    cases own

theorem Aside.cancelling (aside : sc.Aside sc')
    (some : ∃ thread ∈ sc.world.threads, thread.Cancelling) :
    ∃ thread ∈ sc'.world.threads, thread.Cancelling := by
  obtain ⟨thread, member, calm, rest, frames⟩ := some
  refine ⟨thread, aside.others thread member ?_ ?_, calm, rest, frames⟩
  · rcases frames with frames | ⟨_, frames⟩ <;> simp [frames]
  · rcases frames with frames | ⟨_, frames⟩ <;> simp [frames]

theorem Coordinated.aside (known : Coordinated demands sc) (aside : sc.Aside sc') :
    Coordinated demands sc' := by
  refine ⟨aside.steady.state.trans known.state, aside.steady.stages.trans known.stages, ?_,
    fun thread member reason inside => ?_,
    fun reason asked => (known.cancelled reason asked).imp aside.cancelled.trans aside.cancelling,
    fun finished => (known.closing finished).imp aside.closing.trans (aside.poised rfl)⟩
  · rw [aside.reason]
    refine known.reason.imp_right (And.imp_right ?_)
    rintro ⟨reason, first, poised⟩
    exact ⟨reason, first, aside.poised rfl poised⟩
  · rcases aside.remembers thread member with before | none
    · exact known.remembers thread before reason inside
    · exact absurd inside (none reason)

/-- What the next step demands is added to what was demanded before. -/
theorem Coordinated.goes (known : Coordinated demands sc) {t : Nat} (goes : sc.Goes t sc') :
    Coordinated (demands ++ (sc.world.demand? t).toList) sc' := by
  obtain ⟨w, hands⟩ := sc
  obtain ⟨v, hands'⟩ := sc'
  obtain ⟨thread, thread', s', here, steps, rfl⟩ := World.steps_of_step goes.1
  have demand : w.demand? t = thread.demand? := by rw [World.demand?, here]; rfl
  rw [demand]
  exact known.step hands' here steps

theorem Coordinated.move (known : Coordinated demands sc) (h : Move offered sc sc')
    (still : ∀ t, ¬ sc.Goes t sc') : Coordinated demands sc' := by
  rcases h.goes_or_aside with ⟨t, goes⟩ | aside
  · exact absurd goes (still t)
  · exact known.aside aside

theorem Traced.coordinated (traced : Traced offered first demands sc) {before : List Demand}
    (begins : Coordinated before first) : Coordinated (before ++ demands) sc := by
  induction traced with
  | begins => rwa [List.append_nil]
  | goes _ h ih =>
    rw [← List.append_assoc]
    exact ih.goes h
  | aside _ h still ih => exact ih.move h still

theorem coordinated_opening (rig : Rig) (devices : DeviceSet) (robin : RoundRobin) :
    Coordinated [] (.opening rig devices robin) := by
  refine ⟨rfl, rfl, .inl rfl, fun thread member => ?_, by simp, by simp⟩
  rw [List.mem_singleton.1 member]
  simp [Thread.idle]

end Scene

end DispatchServer
