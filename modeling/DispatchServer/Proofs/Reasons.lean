import DispatchServer.Proofs.Demands
import DispatchServer.Proofs.Lifecycle

/-! The reason that a server reports at its end. The reason that counts is that of the request which
takes the state out of running, but it is recorded by a later step of the same call. -/
namespace DispatchServer

namespace Demand

variable {demands : List Demand}

theorem exists_of_asked? {reason : ShutdownReason} (first : asked? demands = some reason) :
    ∃ rest, demands = .request reason :: rest := by
  cases demands with
  | nil => cases first
  | cons demand rest =>
    cases demand with
    | request => cases first; exact ⟨rest, rfl⟩
    | finish => cases first

theorem asked?_of_stages {later : List ServerState}
    (begun : stages demands = .shuttingDown :: later) : ∃ reason, asked? demands = some reason := by
  unfold stages at begun
  cases first : asked? demands with
  | some reason => exact ⟨reason, rfl⟩
  | none =>
    rw [first] at begun
    by_cases finished : .finish ∈ demands <;> simp [finished] at begun

end Demand

def Server.demanded (server : Server) : List Demand :=
  if server.pool.spawnError = none then [] else [.request .spawnFailure]

theorem Thread.Waits.apart {thread : Thread} (waits : thread.Waits) (reason : ShutdownReason) :
    .remember reason ∉ thread.frames := by
  cases waits with
  | serves | handles => simp
  | @awaits _ f _ _ awaits =>
    have apart : f ≠ .remember reason := by
      rintro rfl
      cases awaits
    simp [apart.symm]

namespace Scene

theorem coordinated_of_idling {w : World} (idling : Idling w)
    (main : w.threads[mainNumber]? = some (.idle mainThread)) (hands : List Message) :
    Coordinated [] ⟨w, hands⟩ := by
  refine ⟨idling.state, idling.stages, .inl idling.reason, fun thread member reason => ?_,
    by simp, by simp⟩
  obtain ⟨t, here⟩ := List.getElem?_of_mem member
  by_cases own : t = mainNumber
  · subst own
    obtain rfl := Option.some.inj (main.symm.trans here)
    simp [Thread.idle]
  · exact fun inside => absurd inside ((idling.waits t thread here own).apart reason)

theorem coordinated_of_asking {w : World} (asking : Asking w)
    (back : ∃ thread ∈ w.threads[mainNumber]?, thread.frames = []) (hands : List Message) :
    Coordinated [.request .spawnFailure] ⟨w, hands⟩ := by
  obtain ⟨⟨frames, answer, main, requesting⟩, others, -⟩ := asking
  obtain ⟨thread, here, none⟩ := back
  obtain rfl := Option.some.inj (main.symm.trans here)
  obtain rfl : frames = [] := none
  cases requesting with
  | ends _ state stages reason cancelled =>
    refine ⟨state, stages, .inl reason, fun thread member other inside => ?_,
      fun _ _ => .inl cancelled, by simp⟩
    obtain ⟨t, there⟩ := List.getElem?_of_mem member
    by_cases own : t = mainNumber
    · subst own
      obtain rfl := Option.some.inj (main.symm.trans there)
      cases inside
    · rcases others t thread there own with waits | ⟨gone, -⟩
      · exact absurd inside (waits.apart other)
      · rw [gone] at inside
        cases inside

end Scene

section

variable {σ : Type} {spawner : Spawner σ} {seed : σ} {server : Server}

theorem Server.Rises.coordinated {requested : Nat} {opening : World} {segment : Segment}
    {table : ZoneTable}
    (rises : Server.Rises spawner requested opening seed segment table server)
    (serving : ∀ index state text, (spawner index state).1 ≠ .doomed text)
    (main : opening.threads[mainNumber]? = some (.idle mainThread)) (idle : Idling opening) :
    Scene.Coordinated server.demanded ⟨server.world, []⟩ := by
  cases rises with
  | @up pool w state launched calm =>
    have up := (launched.idling serving main idle).log (.threadsUp pool.started)
    rw [demanded, if_pos calm]
    exact Scene.coordinated_of_idling up (launched.main main) []
  | @missing pool w v state cause launched short run back =>
    have missing := (launched.idling serving main idle).log .threadsMissing
    have asking := Asking.reaches run (missing.asking (launched.main main))
    rw [demanded, if_neg (by simp [short])]
    exact Scene.coordinated_of_asking asking back []

theorem Server.Starts.coordinated {rig : Rig} {surroundings : Surroundings} {devices : List Device}
    {settings : Settings}
    (starts : Server.Starts rig surroundings devices settings spawner seed server)
    (fresh : rig.history = .empty)
    (serving : ∀ index state text, (spawner index state).1 ≠ .doomed text) :
    Scene.Coordinated server.demanded ⟨server.world, []⟩ := by
  obtain ⟨segment, table, set, robin, rig', size, rises, deeds⟩ := starts.rises fresh
  exact rises.coordinated serving rfl (idling_fresh deeds set robin)

end

/-- The reason that a report names. -/
def Answer.reported? : Answer → Option (Option ShutdownReason)
  | report _ _ _ reason => some reason
  | _ => none

def Frame.plain : Frame → Bool
  | give answer | leave _ answer => answer.reported?.isNone
  | _ => true

section

variable {f : Frame} {thread : String} {answer answer' : Answer} {exits : Nat → Option Exit}
  {s s' : Shared} {frames : List Frame} {goesOn : Bool}

theorem Frame.step_reported (own : f.plain)
    (h : f.step thread answer exits s = .moved s' frames answer') :
    frames.all plain ∧ (answer'.reported? = none ∨ answer' = answer ∨
      ∃ requested started, f = .report requested started ∧
        answer'.reported? = some s.reason) := by
  cases moves_of_step h with
  | leaves | gives => exact ⟨rfl, .inl (Option.isNone_iff_eq_none.1 own)⟩
  | drops => exact ⟨(Bool.and_true _).trans own, .inl rfl⟩
  | @reports requested started => exact ⟨rfl, .inr (.inr ⟨requested, started, rfl, rfl⟩)⟩
  | unpinned | unpins | unmaps => exact ⟨rfl, .inr (.inl rfl)⟩
  | _ => exact ⟨rfl, .inl rfl⟩

theorem Frame.unwind_plain (own : f.plain) (h : f.unwind thread s = (s', frames, goesOn)) :
    frames.all plain := by
  cases f with
  | run device script held => cases held <;> cases h <;> rfl
  | leave held given =>
    cases held <;> cases h
    · rfl
    · exact (Bool.and_true _).trans own
  | unpin buffers => cases buffers <;> cases h <;> rfl
  | _ => cases h; rfl

end

theorem Thread.Steps.reported {thread thread' : Thread} {exits : Nat → Option Exit} {s s' : Shared}
    (steps : thread.Steps exits s s' thread') (plain : thread.frames.all Frame.plain) :
    thread'.frames.all Frame.plain ∧ ∀ reason, thread'.answer.reported? = some reason →
      thread.answer.reported? = some reason ∨ reason = s.reason ∧ ∃ requested started rest,
        thread.frames = .report requested started :: rest ∧ thread.panicking = none := by
  cases steps with
  | moved top calm h =>
    rw [top, List.all_cons, Bool.and_eq_true] at plain
    obtain ⟨own, told⟩ := Frame.step_reported plain.1 h
    refine ⟨by rw [List.all_append, own, plain.2]; rfl, fun reason reported => ?_⟩
    rcases told with none | rfl | ⟨requested, started, rfl, now⟩
    · cases none.symm.trans reported
    · exact .inl reported
    · exact .inr ⟨Option.some.inj (reported.symm.trans now), requested, started, _, top, calm⟩
  | panicked => exact ⟨plain, fun _ => .inl⟩
  | unwound top _ h =>
    rw [top, List.all_cons, Bool.and_eq_true] at plain
    exact ⟨by rw [List.all_append, Frame.unwind_plain plain.1 h, plain.2]; rfl, fun _ => .inl⟩

namespace Scene

/-- A life of the server, and what was demanded meanwhile. -/
inductive Recounts (server : Server) : Option Nat → List Demand → Scene → Prop
  | begins : Recounts server none [] ⟨server.world, []⟩
  | goes {waiter : Option Nat} {demands : List Demand} {sc sc' : Scene} {t : Nat}
      (before : Recounts server waiter demands sc) (h : sc.Goes t sc') :
      Recounts server waiter (demands ++ (sc.world.demand? t).toList) sc'
  | aside {waiter : Option Nat} {demands : List Demand} {sc sc' : Scene}
      (before : Recounts server waiter demands sc)
      (h : Move (.server server.pool.threads) sc sc') (still : ∀ t, ¬ sc.Goes t sc') :
      Recounts server waiter demands sc'
  | waits {demands : List Demand} {sc : Scene} {t : Nat}
      (before : Recounts server none demands sc) (outside : t ∉ server.pool.threads)
      (idle : ∃ thread ∈ sc.world.threads[t]?, thread.idles) :
      Recounts server (some t) demands ⟨sc.world.assign t server.ending, sc.hands⟩

variable {server : Server} {waiter : Option Nat} {demands : List Demand} {sc sc' : Scene}

theorem Recounts.lives (recounts : Recounts server waiter demands sc) :
    Lives server waiter sc := by
  induction recounts with
  | begins => exact .begins
  | goes _ h ih => exact ih.moves h.move
  | aside _ h _ ih => exact ih.moves h
  | waits _ outside idle ih => exact ih.waits outside idle

/-- In every life something is demanded, or nothing. -/
theorem Lives.recounts (lives : Lives server waiter sc) :
    ∃ demands, Recounts server waiter demands sc := by
  induction lives with
  | begins => exact ⟨[], .begins⟩
  | @moves waiter sc sc' _ h ih =>
    obtain ⟨demands, recounts⟩ := ih
    by_cases goes : ∃ t, sc.Goes t sc'
    · obtain ⟨t, goes⟩ := goes
      exact ⟨_, recounts.goes goes⟩
    · exact ⟨demands, recounts.aside h (not_exists.1 goes)⟩
  | waits _ outside idle ih =>
    obtain ⟨demands, recounts⟩ := ih
    exact ⟨demands, recounts.waits outside idle⟩

theorem aside_ending {t : Nat} (idle : ∃ thread ∈ sc.world.threads[t]?, thread.idles) :
    sc.Aside ⟨sc.world.assign t server.ending, sc.hands⟩ := by
  obtain ⟨thread, there, none, -⟩ := idle
  exact aside_assign there (.inl none) (by simp [Server.ending, Pool.finishing, Pool.joining])

theorem Recounts.coordinated (recounts : Recounts server waiter demands sc)
    {before : List Demand} (begins : Coordinated before ⟨server.world, []⟩) :
    Coordinated (before ++ demands) sc := by
  induction recounts with
  | begins => rwa [List.append_nil]
  | goes _ h ih =>
    rw [← List.append_assoc]
    exact ih.goes h
  | aside _ h still ih => exact ih.move h still
  | waits _ _ idle ih => exact ih.aside (aside_ending idle)

end Scene

/-- What the thread has reported is the reason of the first demand, or no reason. -/
structure Thread.Names (demands : List Demand) (thread : Thread) : Prop where
  plain : thread.frames.all Frame.plain
  names : ∀ reason, thread.answer.reported? = some reason →
    ∃ first rest, demands = .request first :: rest ∧ (reason = some first ∨ reason = none)

namespace Thread.Names

variable {demands : List Demand} {thread : Thread}

theorem append (names : thread.Names demands) (later : List Demand) :
    thread.Names (demands ++ later) := by
  refine ⟨names.plain, fun reason reported => ?_⟩
  obtain ⟨first, rest, rfl, named⟩ := names.names reason reported
  exact ⟨first, rest ++ later, rfl, named⟩

theorem calling {frames : List Frame} (name : String) (plain : frames.all Frame.plain) :
    (Thread.calling name frames).Names demands :=
  ⟨plain, nofun⟩

/-- Whoever has reported nothing. -/
theorem of_quotes (quotes : ∀ requested started, thread.Quotes requested started) :
    thread.Names demands := by
  have silent {answer : Answer} (all : ∀ requested started, answer.quotes requested started) :
      answer.reported? = none := by
    cases answer with
    | report requested started drained reason =>
      have other := of_decide_eq_true (all (requested + 1) started)
      omega
    | _ => rfl
  refine ⟨List.all_eq_true.2 fun f member => ?_, fun reason reported => ?_⟩
  · have own (requested started : Nat) : f.quotes requested started :=
      List.all_eq_true.1 (quotes requested started).frames f member
    cases f with
    | give answer | leave _ answer => exact Option.isNone_iff_eq_none.2 (silent own)
    | _ => rfl
  · have none := silent fun requested started => (quotes requested started).answer
    cases none.symm.trans reported

end Thread.Names

namespace Scene

variable {server : Server} {waiter : Option Nat} {demands : List Demand} {sc sc' : Scene}

/-- A server reports only when it was requested to shut down, and the reason of that request is
recorded, unless the thread that made it has not come so far yet. -/
theorem Coordinated.reporting (known : Coordinated demands sc) (tended : Tended server waiter sc)
    (alive : Alive server sc waiter) {t requested started : Nat} {thread : Thread}
    {rest : List Frame} (here : sc.world.threads[t]? = some thread)
    (top : thread.frames = .report requested started :: rest) : ∃ first later,
      demands = .request first :: later ∧ (sc.world.shared.reason = some first ∨
        sc.world.shared.reason = none ∧
          ∃ winner ∈ sc.world.threads, winner.Poised (.remember first)) := by
  have waits : t ∈ waiter := by
    rcases alive.serves here with own | ⟨drained, rfl, -⟩
    · have own := own (.report requested started) (by simp [top])
      simp [Frame.Serves, Frame.attends, Frame.produces] at own
    · rfl
  have stopped : sc.world.shared.state = .stopped := by
    refine (tended.halting t waits).resolve_right ?_
    rintro ⟨other, there, halting⟩
    obtain rfl := Option.some.inj (here.symm.trans there)
    cases halting <;> cases top
  obtain ⟨later, stages⟩ : ∃ later, Demand.stages demands = .shuttingDown :: later := by
    cases tended.staged with
    | stopped _ stages => exact ⟨_, known.stages.symm.trans stages⟩
    | running state | shuttingDown state => cases stopped.symm.trans state
  obtain ⟨first, asked⟩ := Demand.asked?_of_stages stages
  obtain ⟨rest, demanded⟩ := Demand.exists_of_asked? asked
  refine ⟨first, rest, demanded, ?_⟩
  rcases known.reason with recorded | ⟨none, other, asked', winner⟩
  · exact .inl (recorded.trans asked)
  · obtain rfl := Option.some.inj (asked'.symm.trans asked)
    exact .inr ⟨none, winner⟩

/-- What was reported so far. -/
def Named (demands : List Demand) (sc : Scene) : Prop :=
  ∀ thread ∈ sc.world.threads, thread.Names demands

theorem plain_of_errand {frames : List Frame} (errand : Errand frames) :
    frames.all Frame.plain := by
  cases errand with
  | service service => cases service <;> rfl
  | use use => cases use <;> rfl
  | nothing => rfl

theorem Named.aside {offered : Interface} (named : Named demands sc) (h : Move offered sc sc')
    (still : ∀ t, ¬ sc.Goes t sc') : Named demands sc' := by
  cases h.shift with
  | steps t goes => exact absurd ⟨goes, rfl⟩ (still t)
  | starts name =>
    intro thread member
    rcases List.mem_append.1 member with member | member
    · exact named thread member
    · rw [List.mem_singleton.1 member]
      exact .calling name rfl
  | builds | spills | signals => exact named
  | @calls _ _ _ _ caller _ there _ errand =>
    rw [Named, World.assign_eq there]
    exact forall_mem_set named (.calling caller.name (plain_of_errand errand))

theorem Named.goes (named : Named demands sc) (known : Coordinated demands sc)
    (tended : Tended server waiter sc) (alive : Alive server sc waiter) {t : Nat}
    (goes : sc.Goes t sc') : Named (demands ++ (sc.world.demand? t).toList) sc' := by
  obtain ⟨w, hands⟩ := sc
  obtain ⟨v, hands'⟩ := sc'
  obtain ⟨thread, thread', s', here, steps, rfl⟩ := World.steps_of_step goes.1
  have names := named thread (List.mem_of_getElem? here)
  obtain ⟨plain, reported⟩ := steps.reported names.plain
  refine forall_mem_set (fun other member => (named other member).append _) ⟨plain, ?_⟩
  intro reason now
  rcases reported reason now with before | ⟨rfl, requested, started, rest, top, -⟩
  · exact (names.append _).names reason before
  · obtain ⟨first, later, rfl, recorded⟩ := known.reporting tended alive here top
    exact ⟨first, _, rfl, recorded.imp_right And.left⟩

theorem Recounts.named (recounts : Recounts server waiter demands sc) {before : List Demand}
    (begins : Coordinated before ⟨server.world, []⟩)
    (tended : Tended server none ⟨server.world, []⟩)
    (alive : Alive server ⟨server.world, []⟩ none) (named : Named before ⟨server.world, []⟩) :
    Named (before ++ demands) sc := by
  induction recounts with
  | begins => rwa [List.append_nil]
  | goes recounts h ih =>
    rw [← List.append_assoc]
    exact ih.goes (recounts.coordinated begins) (recounts.lives.tended alive tended)
      (recounts.lives.alive alive) h
  | aside _ h still ih => exact ih.aside h still
  | waits _ _ idle ih =>
    obtain ⟨thread, there, -⟩ := idle
    rw [Named, World.assign_eq there]
    exact forall_mem_set ih (.calling thread.name rfl)

end Scene

/-- A server that ends was requested to, and whatever it reports as the reason is that of the
request which took it out of running. It reports no reason only if it comes to the report when the
thread that made this request has not yet recorded it, while somebody else's request has already
cancelled the token. -/
theorem report_names_first_request {σ : Type} {rig : Rig} {surroundings : Surroundings}
    {devices : List Device} {settings : Settings} {spawner : Spawner σ} {seed : σ} {server : Server}
    (fresh : rig.history = .empty)
    (serving : ∀ index state text, (spawner index state).1 ≠ .doomed text)
    (starts : Server.Starts rig surroundings devices settings spawner seed server)
    {waiter : Option Nat} {demands : List Demand} {sc : Scene}
    (recounts : Scene.Recounts server waiter demands sc) :
    (∀ t name requested started below left, sc.world.threads[t]? =
        some ⟨name, .report requested started :: below, left, none⟩ →
      ∃ v drained first later, sc.world.step t = some v ∧
        v.threads[t]? = some ⟨name, below,
          .report requested started drained sc.world.shared.reason, none⟩ ∧
        server.demanded ++ demands = .request first :: later ∧
        (sc.world.shared.reason = some first ∨ sc.world.shared.reason = none ∧
          ∃ winner ∈ sc.world.threads, winner.Poised (.remember first))) ∧
    ∀ thread ∈ sc.world.threads, ∀ reason, thread.answer.reported? = some reason →
      ∃ first later, server.demanded ++ demands = .request first :: later ∧
        (reason = some first ∨ reason = none) := by
  have silent := Rig.messages_of_fresh fresh
  obtain ⟨staffed, opened⟩ := staffed_of_starts silent starts
  have start : Scene.Alive server ⟨server.world, []⟩ none := .serving staffed opened
  obtain ⟨-, -, begins, -⟩ := starts.ready fresh serving
  have coordinated := starts.coordinated fresh serving
  have named : Scene.Named server.demanded ⟨server.world, []⟩ := by
    obtain ⟨segment, table, set, robin, rig', size, rises, -⟩ := starts.rises fresh
    exact fun thread member => .of_quotes fun requested started =>
      rises.quotes rfl (quotes_fresh rig' set robin) requested started thread member
  refine ⟨fun t name requested started below left here => ?_, fun thread member reason reported =>
    (recounts.named coordinated begins start named thread member).names reason reported⟩
  obtain ⟨first, later, demanded, recorded⟩ := (recounts.coordinated coordinated).reporting
    (recounts.lives.tended start begins) (recounts.lives.alive start) here rfl
  exact ⟨_, _, first, later, World.step_of_moved here rfl, getElem?_set_here here, demanded,
    recorded⟩

/-- A server that is short of a thread requests its own end. -/
theorem report_names_first_request_of_short :
    ∃ server demands later, Server.short = .ok (server, ()) ∧
      Scene.Recounts server (some mainNumber) demands ⟨server.waitForShutdown, []⟩ ∧
      (∃ thread ∈ server.waitForShutdown.threads[mainNumber]?,
        thread.answer.reported? = some (some .spawnFailure)) ∧
      server.demanded ++ demands = .request .spawnFailure :: later := by
  obtain ⟨server, started, ⟨thread, here, reported⟩, lives, -⟩ := @Server.short_lives
    (fun server => ∃ thread ∈ server.waitForShutdown.threads[mainNumber]?,
      thread.answer.reported? = some (some .spawnFailure)) (by decide +kernel)
  have fresh : (Rig.ofHost (.ofSizes [10] false) .always .none).history = .empty := rfl
  obtain ⟨demands, recounts⟩ := lives.recounts
  obtain ⟨-, names⟩ :=
    report_names_first_request fresh Server.short_serving (starts_of_start started) recounts
  obtain ⟨first, later, demanded, named⟩ :=
    names thread (List.mem_of_getElem? here) _ reported
  obtain rfl : .spawnFailure = first := by simpa using named
  exact ⟨server, demands, later, started, recounts, ⟨thread, here, reported⟩, demanded⟩

def Frame.records? : Frame → Option ShutdownReason
  | remember reason => some reason
  | _ => none

theorem Frame.eq_of_records? {f : Frame} {reason : ShutdownReason}
    (h : f.records? = some reason) : f = .remember reason := by
  cases f <;> cases h
  rfl

/-- A server with one thread, in whose life two more threads come. -/
def Server.single : Except (ServerError × Rig) (Server × Unit) :=
  start (.ofHost (.ofSizes [10] false) .always .none) ⟨0x1000, none⟩ (Host.simulated 0 [10])
    ⟨1, 25⟩ (fun _ state => (.serving, state)) ()

namespace World

def requestedOnce (w : World) (ending : List Frame) : World :=
  ((((w.start (.idle "first")).start (.idle "second")).assign mainNumber ending).assign 2
    [.request .terminate]).advanceFor 2 1

/-- Meanwhile the other one requests it too, so that the server's thread leaves. -/
def overtaken (w : World) (ending : List Frame) : World :=
  (((w.requestedOnce ending).call 3 [.request .reconfigure]).advance 1).advance mainNumber

end World

/-- The server reports that it has ended without a reason, though it was requested to end. -/
theorem report_misses_first_request : ∃ server demands later,
    Server.single = .ok (server, ()) ∧
      Scene.Recounts server (some mainNumber) demands ⟨server.world.overtaken server.ending, []⟩ ∧
      server.demanded ++ demands = .request .terminate :: later ∧
      ∃ thread ∈ (server.world.overtaken server.ending).threads[mainNumber]?,
        thread.idles ∧ thread.answer.reported? = some none := by
  have runs : ∃ pair ∈ Server.single.toOption,
      (mainNumber ∉ pair.1.pool.threads ∧ 2 ∉ pair.1.pool.threads ∧ 3 ∉ pair.1.pool.threads) ∧
      (∃ thread ∈ ((pair.1.world.start (.idle "first")).start
        (.idle "second")).threads[mainNumber]?, thread.idles) ∧
      (∃ thread ∈ (((pair.1.world.start (.idle "first")).start
        (.idle "second")).assign mainNumber pair.1.ending).threads[2]?, thread.idles) ∧
      (∃ thread ∈ (pair.1.world.requestedOnce pair.1.ending).threads[3]?, thread.idles) ∧
      (∃ thread ∈ (pair.1.world.overtaken pair.1.ending).threads[mainNumber]?,
        thread.idles ∧ thread.answer.reported? = some none) ∧
      ∃ thread ∈ (pair.1.world.overtaken pair.1.ending).threads[2]?,
        ∃ f ∈ thread.frames.head?, f.records? = some .terminate := by decide +kernel
  obtain ⟨⟨server, state⟩, here, ⟨main, first, second⟩, waits, requests, overtakes, reported,
    winner, there, f, top, records⟩ := runs
  have started : Server.single = .ok (server, ()) := eq_ok_of_mem_toOption here
  have starts : Scene.Lives server none ⟨server.world, []⟩ := .begins
  have called := ((starts.moves (.start "first")).moves (.start "second")).waits main waits
  have requested := called.moves (.call 2 (.request .terminate) trivial first requests)
  have once : Scene.Lives server (some mainNumber)
      ⟨server.world.requestedOnce server.ending, []⟩ :=
    requested.of_steps (World.reaches_advanceFor _ 2 1)
  -- The first request has changed the state but not recorded its reason yet; the second cancels
  -- the token, and the server comes to its end before the first goes on.
  have again := once.moves (.call 3 (.request .reconfigure) trivial second overtakes)
  have lives : Scene.Lives server (some mainNumber)
      ⟨server.world.overtaken server.ending, []⟩ :=
    again.of_steps (((World.reaches_advanceFor _ 3 _).trans (World.reaches_advanceFor _ 1 _)).trans
      (World.reaches_advanceFor _ mainNumber _))
  obtain ⟨demands, recounts⟩ := lives.recounts
  have coordinated := (starts_of_start started).coordinated rfl fun _ _ _ => Spawn.noConfusion
  have remembers : .remember .terminate ∈ winner.frames := by
    rw [← Frame.eq_of_records? records]
    exact List.mem_of_mem_head? top
  obtain ⟨later, demanded⟩ := Demand.exists_of_asked?
    ((recounts.coordinated coordinated).remembers winner (List.mem_of_getElem? there) .terminate
      remembers)
  exact ⟨server, demands, later, started, recounts, demanded, reported⟩

end DispatchServer
