import DispatchServer.Proofs.Ending
import DispatchServer.Proofs.Launch
import DispatchServer.Proofs.Refusals

/-! What a server promises of its end, whatever its threads and its producers do meanwhile and
however many of its threads could be started. -/
namespace DispatchServer

namespace Server

def releasing (server : Server) : List Frame :=
  [.unpin server.table.buffers, .unmap server.segment.size]

/-- The call that ends the server. -/
def shutdown (server : Server) : Service :=
  .shutdown server.pool.threads.reverse server.pool.requested server.pool.started
    server.table.buffers server.segment.size

theorem frames_shutdown (server : Server) : server.shutdown.frames = server.ending := rfl

end Server

/-- How many messages were drained, in the report that the thread has just got. -/
def Thread.reported? : Thread → Option Nat
  | ⟨_, [], .report _ _ drained _, none⟩ => some drained
  | _ => none

theorem Thread.eq_of_reported? {thread : Thread} {drained : Nat}
    (h : thread.reported? = some drained) :
    ∃ name requested started reason,
      thread = ⟨name, [], .report requested started drained reason, none⟩ := by
  unfold reported? at h
  split at h <;> cases h
  exact ⟨_, _, _, _, rfl⟩

namespace Scene

variable {server : Server} {t : Nat} {thread : Thread} {drained : Multiset Nat} {sc sc' : Scene}

/-- A thread that is not one of the server's ends it, and has come so far. -/
structure Finishing (server : Server) (t : Nat) (drained : Multiset Nat) (thread : Thread)
    (sc : Scene) : Prop where
  staffed : sc.Staffed server.pool.threads server.pool.staff (some t) drained
  outside : t ∉ server.pool.threads
  here : sc.world.threads[t]? = some thread
  own : thread.Ends
  ending : sc.Ending server.pool.threads server.pool.requested server.pool.started
    server.releasing drained thread

theorem Finishing.turn (finishing : Finishing server t drained thread sc)
    (h : Move (.server server.pool.threads) sc sc') (busy : thread.frames ≠ []) :
    Finishing server t drained thread sc' ∨
      (∃ s' drained' thread', thread.Steps sc.world.exits sc.world.shared s' thread' ∧
        sc' = ⟨⟨s', sc.world.threads.set t thread'⟩, sc.hands⟩ ∧
        Finishing server t drained' thread' sc') ∨
      (∃ ticket, thread.frames = [.awaitReply ticket]) ∧
        sc'.world.threads[t]? = some (.idle thread.name) := by
  obtain ⟨staffed, outside, here, own, ending⟩ := finishing
  have onward := h.onward staffed.sound staffed.rooted
  have alone : ∀ u ∈ some t, ∀ other ∈ sc.world.threads[u]?, other.frames ≠ [] := by
    rintro u ⟨rfl⟩ other there
    obtain rfl := Option.some.inj (here.symm.trans there)
    exact busy
  rcases h.staffed staffed alone with ⟨staffed', kept, same⟩ | ⟨u, ⟨rfl⟩, other, there, moved⟩
  · exact .inl ⟨staffed', outside, same t rfl thread here, own, ending.aside onward kept⟩
  · obtain rfl : thread = other := Option.some.inj (here.symm.trans there)
    rcases moved with ⟨s', thread', steps, rfl⟩ | idle
    · have confined := staffed.confined here
      refine .inr (.inl ⟨s', _, thread', steps, rfl, staffed.ends here outside own steps, outside,
        ?_, steps.ends confined own, ?_⟩)
      · exact getElem?_set_here here
      · exact ending.step staffed.sound here (by simp [Server.releasing, Frame.releases]) confined
          steps own onward rfl rfl
    · exact .inr (.inr idle)

theorem Finishing.move (finishing : Finishing server t drained thread sc)
    (h : Move (.server server.pool.threads) sc sc') (busy : thread.frames ≠ []) :
    (∃ drained' thread', Finishing server t drained' thread' sc') ∨
      sc'.world.threads[t]? = some (.idle thread.name) := by
  rcases finishing.turn h busy with finishing | ⟨_, drained', thread', _, _, finishing⟩ | ⟨_, idle⟩
  · exact .inl ⟨drained, thread, finishing⟩
  · exact .inl ⟨drained', thread', finishing⟩
  · exact .inr idle

/-- The end of the server begins. -/
theorem Staffed.finishing
    (staffed : sc.Staffed server.pool.threads server.pool.staff none 0)
    (opened : sc.world.shared.Opened) (outside : t ∉ server.pool.threads)
    (idle : ∃ thread ∈ sc.world.threads[t]?, thread.idles) :
    ∃ thread, thread.frames ≠ [] ∧
      Finishing server t 0 thread ⟨sc.world.assign t server.ending, sc.hands⟩ := by
  obtain ⟨thread, here, none, -⟩ := idle
  have typed : (Thread.calling thread.name server.ending).Typed := by
    rw [← server.frames_shutdown]
    exact .calling_service _ _
  have own : ∀ f ∈ server.ending, f.Ends := by
    simp [Server.ending, Pool.finishing, Pool.joining, Frame.Ends, Frame.finishes]
  have formed : ∀ f ∈ server.ending, f.formed := by
    simp [Server.ending, Pool.finishing, Pool.joining, Frame.formed]
  have all : ∀ f ∈ server.ending, f.Aloof ∧ f.brief = false := by
    refine fun f member => ⟨Frame.aloof_of_ends (own f member), ?_⟩
    revert f
    simp [Server.ending, Pool.finishing, Pool.joining, Frame.brief]
  have apart : sc.Staffed server.pool.threads server.pool.staff (some t) 0 :=
    { staffed with produces := fun u out _ => staffed.produces u out (by simp) }
  have busy : (Thread.calling thread.name server.ending).frames ≠ [] := by
    simp [Thread.calling, Server.ending, Pool.finishing]
  refine ⟨.calling thread.name server.ending, busy, ?_, outside, ?_, own,
    .joins ⟨opened.closing, opened.sealed, opened.state⟩
      fun u worker => .inl (List.mem_reverse.2 worker)⟩
  · exact apart.assign here (by simp [none]) (by simp [none]) (fun f member => (all f member).1)
      typed (.calling_all formed all)
      (by simp [Server.ending, Pool.finishing, Pool.joining, Frame.waiting, Frame.owned])
      (fun worker => absurd worker outside) (fun _ other => absurd rfl other)
  · rw [World.assign_eq here]
    exact getElem?_set_here here

theorem finishing_of_within {first : Scene}
    (run : Within (.server server.pool.threads) t [] first sc)
    (start : ∃ thread, thread.frames ≠ [] ∧ Finishing server t 0 thread first) :
    ∃ drained thread, thread.frames ≠ [] ∧ Finishing server t drained thread sc := by
  induction run with
  | refl => exact ⟨0, start⟩
  | @tail a b run move ih =>
    obtain ⟨drained, thread, busy, finishing⟩ := ih
    obtain ⟨thread', there, above, some, high⟩ := move.2
    rw [List.append_nil] at high
    rcases finishing.move move.1 busy with ⟨drained', next, finishing⟩ | idle
    · obtain rfl : next = thread' := Option.some.inj (finishing.here.symm.trans there)
      exact ⟨drained', next, high ▸ some, finishing⟩
    · obtain rfl : Thread.idle thread.name = thread' := Option.some.inj (idle.symm.trans there)
      exact absurd high.symm some

namespace Finishing

variable (finishing : Finishing server t drained thread sc)
  (deserted : Deserted server.pool.threads sc)
include finishing deserted

theorem aloof : ∀ other ∈ sc.world.threads, ∀ f ∈ other.frames, f.Aloof := by
  intro other member f top
  obtain ⟨u, there⟩ := List.getElem?_of_mem member
  by_cases worker : u ∈ server.pool.threads
  · obtain ⟨gone, there', none⟩ := deserted u worker
    obtain rfl := Option.some.inj (there.symm.trans there')
    simp [none] at top
  · rcases eq_or_ne u t with rfl | apart
    · obtain rfl := Option.some.inj (finishing.here.symm.trans there)
      exact Frame.aloof_of_ends (finishing.own f top)
    · exact Frame.aloof_of_produces
        (finishing.staffed.produces u worker (by simpa using apart.symm) other there f top)

variable (empty : sc.traffic.channel = [])
include empty

theorem sent_eq : (sc.traffic.sent : Multiset Nat) = sc.traffic.begun + drained := by
  have order := finishing.staffed.accounts.custody.order
  rw [empty, List.map_nil, List.append_nil] at order
  have none : sc.taken = 0 := sum_map_eq_zero fun other here =>
    Thread.taken_of_aloof (finishing.staffed.rooted other here)
      (finishing.aloof deserted other here)
  rw [← order, finishing.staffed.accounts.received, none, Multiset.map_zero, add_zero]

theorem gone {n k : Nat} (shut : sc.Shut drained n) (member : k ∈ sc.traffic.sent) :
    (sc.traffic.begun.count k = 1 ∧ sc.traffic.failures k = []) ∨
      (k ∉ sc.traffic.begun ∧ sc.traffic.failures k = [.queueClosed]) := by
  have custody := finishing.staffed.accounts.custody
  have member : k ∈ (sc.traffic.begun : Multiset Nat) + drained := by
    rwa [← finishing.sent_eq deserted empty]
  rcases Multiset.mem_add.1 member with begun | drained
  · have some : 0 < sc.traffic.begun.count k := List.count_pos_iff.2 begun
    have consumed := custody.consumed_le k
    unfold Traffic.consumed at consumed
    exact .inl ⟨by omega, List.length_eq_zero_iff.1 (by omega)⟩
  · have failed := shut.failed k drained
    exact .inr ⟨(custody.of_failed (by simp [failed])).1, failed⟩

theorem settled {n k : Nat} (shut : sc.Shut drained n)
    (past : k ∈ sc.traffic.sent ∨ sc.traffic.failures k ≠ []) :
    sc.traffic.ledger.status? k ≠ some .queued := by
  intro queued
  obtain ⟨m, here, -, rfl⟩ := finishing.staffed.accounts.expects k queued
  have none : sc.working = 0 := sum_map_eq_zero fun other here =>
    Thread.working_of_aloof (finishing.aloof deserted other here)
  rw [DispatchServer.present, none, empty, add_zero] at here
  have held : 0 < copies m.ticket sc.held := copies_pos (by simpa using here)
  have once := finishing.staffed.accounts.custody.once m.ticket
  have bound := sc.traffic.ledger.issued_le m.ticket
  have unconsumed : sc.traffic.consumed m.ticket = 0 := by omega
  obtain ⟨absent, unfailed, -⟩ := sc.traffic.of_consumed_eq_zero unconsumed
  rcases past with member | failed
  · rcases finishing.gone deserted empty shut member with ⟨once, -⟩ | ⟨-, failed⟩
    · rw [List.count_eq_zero.2 absent] at once
      cases once
    · rw [unfailed] at failed
      cases failed
  · exact failed unfailed

end Finishing

/-- A thread that is not one of the server's waits for the end of the server from the first scene,
in which it is in no call, to the last one, in which it has just got its report. -/
def Ended (server : Server) (t : Nat) (first last : Scene) (drained : Nat) : Prop :=
  t ∉ server.pool.threads ∧ (∃ thread ∈ first.world.threads[t]?, thread.idles) ∧
    ∃ before, Within (.server server.pool.threads) t []
        ⟨first.world.assign t server.ending, first.hands⟩ before ∧
      Move (.server server.pool.threads) before last ∧
      ∃ thread ∈ last.world.threads[t]?, thread.reported? = some drained

theorem Ended.reaches {first last : Scene} {drained : Nat}
    (ended : Ended server t first last drained) : Reaches .queue first last := by
  obtain ⟨-, idle, before, run, move, -⟩ := ended
  have called : Reaches .queue first ⟨first.world.assign t server.ending, first.hands⟩ :=
    .single (.call t server.shutdown trivial trivial idle)
  have within := Reaches.widen (reaches_of_within run)
  exact (called.trans within).tail move.widen

theorem ended_of_steps {first w v : World} {drained : Nat} (hands : List Message)
    (outside : t ∉ server.pool.threads) (idle : ∃ thread ∈ first.threads[t]?, thread.idles)
    (run : World.Reaches (first.assign t server.ending) w) (h : w.step t = some v)
    (reported : ∃ thread ∈ v.threads[t]?, thread.reported? = some drained) :
    Ended server t ⟨first, hands⟩ ⟨v, hands⟩ drained := by
  have ⟨_, _, _, here, steps, _⟩ := World.steps_of_step h
  exact ⟨outside, idle, ⟨w, hands⟩, within_of_steps _ run ⟨_, here, steps.busy⟩, .step t h,
    reported⟩

end Scene

/-- When the end of a server has been waited for, none of its threads keeps a message. Every message
that was sent was processed once, by one of these threads, and never failed, or it was drained,
which means that it was failed once and never processed; the report tells how many were drained. No
reply is queued whose message was sent or failed, and whoever enqueues from now on is refused. -/
theorem shutdown_accounts {σ : Type} {rig : Rig} {surroundings : Surroundings}
    {devices : List Device} {settings : Settings} {spawner : Spawner σ} {seed : σ}
    {server : Server} {first last : Scene} {t drained : Nat}
    (starts : Server.Starts { rig with history := .empty } surroundings devices settings spawner
      seed server)
    (lives : Scene.Reaches (.server server.pool.threads) ⟨server.world, []⟩ first)
    (ended : Scene.Ended server t first last drained) :
    (∀ u ∈ server.pool.threads,
      ∃ thread ∈ last.world.threads[u]?, thread.frames = [] ∧ thread.owned = []) ∧
    last.traffic.sent.length = last.traffic.begun.length + drained ∧
    (∀ k ∈ last.traffic.sent,
      (last.traffic.begun.count k = 1 ∧ last.traffic.failures k = []) ∨
      (k ∉ last.traffic.begun ∧ last.traffic.failures k = [.queueClosed])) ∧
    (∀ k device thread, .begun k device thread ∈ last.traffic.events →
      ∃ index < server.pool.started, thread = workerName index) ∧
    (∀ k, k ∈ last.traffic.sent ∨ last.traffic.failures k ≠ [] →
      last.traffic.ledger.status? k ≠ some .queued) ∧
    Scene.Reaches .queue ⟨server.world, []⟩ last ∧
    (∀ offered m answer, Scene.Answered offered ⟨server.world, []⟩ last m answer →
      ((answer = .accepted ∧ m.ticket ∈ last.traffic.sent) ∨
        (answer = .refused ∧ last.traffic.failures m.ticket = [.queueClosed])) ∧
      last.traffic.ledger.status? m.ticket ≠ some .queued) ∧
    ∀ offered later u name m below left, Scene.Reaches offered last later →
      later.world.threads[u]? = some ⟨name, .enqueue m :: below, left, none⟩ →
      ∀ now, Scene.Within offered u below later now →
        (∀ final answer, Scene.Leaves offered u below now final answer →
          answer = .refused ∧ final.traffic.failures m.ticket = [.queueClosed]) ∧
        (m.plan.calm → ∃ final, Scene.Leaves offered u below now final .refused) := by
  have whole := (Scene.Reaches.widen lives).trans ended.reaches
  obtain ⟨outside, idle, before, run, move, thread, back, reported⟩ := ended
  obtain ⟨name, requested, started', reason, rfl⟩ := thread.eq_of_reported? reported
  obtain ⟨staffed, opened⟩ := staffed_of_starts rfl starts
  have sound := staffed.sound
  obtain ⟨staffed, opened⟩ := Scene.Reaches.staffed lives staffed opened
  obtain ⟨tickets, thread, busy, finishing⟩ :=
    Scene.finishing_of_within run (staffed.finishing opened outside idle)
  rcases finishing.move move busy with ⟨tickets, thread, finishing⟩ | idle
  · obtain rfl := Option.some.inj (back.symm.trans finishing.here)
    obtain ⟨n, _, _, _, report, shut, empty, deserted⟩ := finishing.ending.reported rfl rfl
    cases report
    have accounts := finishing.staffed.accounts
    have settled {k : Nat} (past : k ∈ last.traffic.sent ∨ last.traffic.failures k ≠ []) :
        last.traffic.ledger.status? k ≠ some .queued :=
      finishing.settled deserted empty shut past
    refine ⟨fun u worker => ?_, ?_, fun k => finishing.gone deserted empty shut,
      fun k device thread member => ?_, fun k => settled, whole,
      fun offered m answer answered => ?_, ?_⟩
    · obtain ⟨thread, here, none⟩ := deserted u worker
      have clear := (finishing.staffed.rooted thread (List.mem_of_getElem? here)).clear
        (by simp [none])
      exact ⟨thread, here, none, by simp [Thread.owned, none, clear]⟩
    · have count := congrArg Multiset.card (finishing.sent_eq deserted empty)
      rwa [Multiset.card_add, Multiset.coe_card, Multiset.coe_card, shut.count] at count
    · obtain ⟨index, bound, rfl⟩ := List.mem_map.1 (accounts.begun k device thread member)
      exact ⟨index, List.mem_range.1 bound, rfl⟩
    · have returned := sound.answered answered
      refine ⟨returned, settled ?_⟩
      rcases returned with ⟨-, sent⟩ | ⟨-, failed⟩
      · exact .inl sent
      · exact .inr (by simp [failed])
    · intro offered later u name m below left run here now within
      have sound := finishing.staffed.sound
      have closing := (run.closing sound).1 shut.closing
      exact (run.sound sound).refuses closing here within
  · have report := Option.some.inj (back.symm.trans idle)
    cases report

def partingPlan : Blueprint :=
  .mk .closure "" "" 0 (.act (.shutdown .terminate) (.enqueue default .done)) .done

namespace Server

/-- A server with a single thread. -/
def lone : Except (ServerError × Rig) (Server × Unit) :=
  start { Rig.ofHost (.ofSizes [10] false) .always .none with history := .empty } ⟨0x1000, none⟩
    (Host.simulated 0 [10]) ⟨1, 10⟩ (fun _ state => (.serving, state)) ()

def handed (server : Server) : World :=
  let (m, s) := server.world.shared.build partingPlan
  ({ server.world with shared := s } : World).assign mainNumber [.enqueue m]

def parted (server : Server) : World := server.handed.run ([0, 0] ++ List.replicate 40 1)

end Server

/-- The message that was processed ends the server, and the one it submitted is drained. -/
theorem shutdown_accounts_of_parting :
    ∃ server first last, Server.lone = .ok (server, ()) ∧
      Scene.Reaches (.server server.pool.threads) ⟨server.world, []⟩ first ∧
      Scene.Ended server mainNumber first last 1 ∧ last.traffic.begun = [0] ∧
      last.traffic.sent.length = last.traffic.begun.length + 1 := by
  have runs : ∃ pair ∈ Server.lone.toOption, pair.1.pool.threads = [1] ∧
      (∃ thread ∈ pair.1.world.threads[mainNumber]?, thread.idles) ∧
      (∃ thread ∈ pair.1.parted.threads[mainNumber]?, thread.idles) ∧
      ∃ v ∈ ((pair.1.parted.assign mainNumber pair.1.ending).run
          (List.replicate 14 mainNumber)).step mainNumber,
        (∃ thread ∈ v.threads[mainNumber]?, thread.reported? = some 1) ∧
        (Scene.traffic ⟨v, []⟩).begun = [0] := by decide +kernel
  obtain ⟨⟨server, state⟩, here, threads, idle, idle', v, step, reported, begun⟩ := runs
  dsimp only at threads idle idle' step
  have started : Server.lone = .ok (server, ()) := eq_ok_of_mem_toOption here
  have outside : mainNumber ∉ server.pool.threads := by
    rw [threads]
    decide
  have built : Scene.Reaches (.server server.pool.threads) ⟨server.world, []⟩ _ :=
    .single (.build partingPlan rfl)
  have called : Scene.Reaches (.server server.pool.threads) ⟨server.world, []⟩
      ⟨server.handed, []⟩ :=
    built.tail (@Scene.Move.use _ _ [] [] mainNumber _ .enqueue trivial outside idle)
  have lives : Scene.Reaches (.server server.pool.threads) ⟨server.world, []⟩ ⟨server.parted, []⟩ :=
    called.trans (Scene.reaches_of_steps [] (World.reaches_run _ _))
  have ended : Scene.Ended server mainNumber ⟨server.parted, []⟩ ⟨v, []⟩ 1 :=
    Scene.ended_of_steps [] outside idle' (World.reaches_run _ _) step reported
  have accounts := shutdown_accounts (starts_of_start started) lives ended
  exact ⟨server, _, _, started, lives, ended, begun, accounts.2.1⟩

end DispatchServer
