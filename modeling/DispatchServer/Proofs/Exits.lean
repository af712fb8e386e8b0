import DispatchServer.Proofs.Configuration
import DispatchServer.Proofs.Loading
import DispatchServer.Proofs.Watch

/-! How a run of the daemon ends. -/
namespace DispatchServer

namespace Signal

theorem mem_all (signal : Signal) : signal ∈ all := by cases signal <;> decide

theorem number_inj {a b : Signal} : a.number = b.number ↔ a = b := by
  rw [number, number, Nat.add_right_cancel_iff, List.idxOf_inj a.mem_all]

@[simp] theorem mem_pend (signal : Signal) {pending : List Signal} {other : Signal} :
    other ∈ signal.pend pending ↔ other = signal ∨ other ∈ pending := by
  have apart : other ≠ signal ↔ other.number < signal.number ∨ signal.number < other.number :=
    number_inj.not.symm.trans Nat.ne_iff_lt_or_gt
  simp only [pend, List.mem_append, List.mem_cons, List.mem_filter, decide_eq_true_eq]
  by_cases same : other = signal
  · simp [same]
  · simp only [same, false_or, ← and_or_left, apart.1 same, and_true]

theorem sorted_pend (signal : Signal) {pending : List Signal}
    (sorted : pending.Pairwise (·.number < ·.number)) :
    (signal.pend pending).Pairwise (·.number < ·.number) := by
  refine List.pairwise_append.2 ⟨sorted.filter _, List.pairwise_cons.2 ⟨?_, sorted.filter _⟩, ?_⟩
  · simp
  · intro before low after high
    simp only [List.mem_cons, List.mem_filter, decide_eq_true_eq] at low high
    rcases high with rfl | ⟨-, high⟩
    · exact low.2
    · exact low.2.trans high

end Signal

namespace Frame

def listens : Frame → Bool
  | listen => true
  | _ => false

variable {s : Shared}

theorem tolls_le_work (frames : List Frame) :
    tolls s frames ≤ total (frames.map work) + 8 * s.signals.length * frames.countP listens := by
  rw [total, ← List.sum_eq_foldl]
  induction frames with
  | nil => exact Nat.zero_le _
  | cons f frames ih =>
    rw [tolls_cons, List.map_cons, List.sum_cons, List.countP_cons]
    by_cases deaf : f = .listen
    · subst deaf
      simp only [toll, listens, if_true, Nat.mul_add]
      omega
    · have own := toll_le_work (s := s) f deaf
      have more := Nat.mul_le_mul_left (8 * s.signals.length)
        (Nat.le_add_right (frames.countP listens) (if f.listens = true then 1 else 0))
      omega

end Frame

theorem World.reaches_advance (w : World) (t : Nat) : World.Reaches w (w.advance t) :=
  reaches_advanceFor w t _

namespace Server

variable {server : Server} {heard : List Signal} {called : Bool} {w v : World}

/-- No thread listens more than once. -/
theorem Watched.listens_le (watched : server.Watched heard called w) {t : Nat} {thread : Thread}
    (here : w.threads[t]? = some thread) : thread.frames.countP Frame.listens ≤ 1 := by
  obtain ⟨-, -, -, ⟨frames, answer, main, finale⟩, ⟨listening, last, there, listens⟩,
    workers, all⟩ := watched
  rcases all t thread here with rfl | rfl | member
  · obtain rfl := Option.some.inj (main.symm.trans here)
    have deaf : frames.countP Frame.listens = 0 := by
      cases called with
      | false => rw [finale.1]; rfl
      | true =>
        cases finale with
        | closes closes => cases closes <;> rfl
        | unmaps _ _ left =>
          rcases List.suffix_cons_iff.1 left with rfl | left
          · rfl
          · rw [List.suffix_nil.1 left]
            rfl
        | _ => rfl
    exact deaf.le.trans (Nat.zero_le 1)
  · obtain rfl := Option.some.inj (there.symm.trans here)
    cases listens with
    | repeats _ again => cases again <;> exact Nat.le_refl 1
    | _ => exact Nat.le_refl 1
  · obtain ⟨worker, there, rests⟩ := workers t member
    obtain rfl := Option.some.inj (there.symm.trans here)
    cases rests with
    | @awaits _ f _ _ awaits => cases f <;> first | exact Nat.zero_le 1 | cases awaits
    | gone none => simp [none]
    | _ => exact Nat.zero_le 1

theorem Watched.restOf_le (watched : server.Watched heard called w) (t : Nat) :
    w.restOf t ≤ 2 * w.work t := by
  unfold World.restOf World.work
  cases here : w.threads[t]? with
  | none => exact Nat.zero_le _
  | some thread =>
    have bound := Frame.tolls_le_work (s := w.shared) thread.frames
    have once := Nat.mul_le_mul_left (8 * w.shared.signals.length) (watched.listens_le here)
    simp only [Option.map_some, Option.getD_some, operationWork]
    omega

theorem Watched.reaches (watched : server.Watched heard called w) (manned : server.Manned)
    (run : World.Reaches w v) :
    (∃ taken, server.Watched (heard ++ taken) called v) ∧ w.shared.Passes v.shared ∧
      ∀ t, w.exits t ≠ none → v.exits t ≠ none := by
  induction run generalizing heard with
  | refl => exact ⟨⟨[], by rwa [List.append_nil]⟩, .refl _, fun _ => id⟩
  | step t h _ ih =>
    obtain ⟨rolls, taken, -, next⟩ := watched.step manned h
    obtain ⟨⟨more, watched⟩, passes, gone⟩ := ih next
    exact ⟨⟨taken ++ more, by rwa [← List.append_assoc]⟩, rolls.passes.trans passes,
      fun u ended => gone u (World.exits_of_step h ended)⟩

theorem Watched.advance_stops (watched : server.Watched heard called w) (manned : server.Manned)
    (t : Nat) : (w.advance t).step t = none := by
  have lowers (w v : World) (watched : ∃ heard, server.Watched heard called w)
      (h : w.step t = some v) :
      (∃ heard, server.Watched heard called v) ∧ v.restOf t < w.restOf t := by
    obtain ⟨heard, watched⟩ := watched
    obtain ⟨rolls, taken, -, next⟩ := watched.step manned h
    exact ⟨⟨_, next⟩, rolls.restOf_lt⟩
  exact (World.advanceFor_stops ⟨heard, watched⟩ lowers (watched.restOf_le t)).2

theorem Watched.advanceAll_gone (watched : server.Watched heard called w) (manned : server.Manned)
    (woken : w.shared.woken = true) {threads : List Nat}
    (among : ∀ t ∈ threads, t ∈ server.pool.threads) :
    ∀ t ∈ threads, (w.advanceAll threads).exits t ≠ none := by
  induction threads generalizing heard w with
  | nil => simp
  | cons t threads ih =>
    have stuck := watched.advance_stops manned t
    obtain ⟨⟨taken, next⟩, passes, -⟩ := watched.reaches manned (w.reaches_advance t)
    have woken := passes.woken woken
    intro u member
    rcases List.mem_cons.1 member with rfl | member
    · have left := next.left woken (among u List.mem_cons_self) stuck
      exact (next.reaches manned (World.reaches_advanceAll _ threads)).2.2 u left
    · exact ih next woken (fun u member => among u (List.mem_cons_of_mem _ member)) u member

theorem Watched.waits {first : Signal} {later : List Signal}
    (watched : server.Watched (first :: later) false w) (manned : server.Manned)
    (woken : w.shared.woken = true) : server.Ended first
      (((w.call mainNumber server.ending).advanceAll server.pool.threads).advance mainNumber) := by
  obtain ⟨⟨_, began⟩, passes, -⟩ :=
    (watched.call manned).reaches manned (World.reaches_advance _ mainNumber)
  have gone := began.advanceAll_gone manned (passes.woken woken) fun _ member => member
  obtain ⟨⟨_, joined⟩, -⟩ := began.reaches manned (World.reaches_advanceAll _ server.pool.threads)
  have stuck := joined.advance_stops manned mainNumber
  obtain ⟨⟨_, last⟩, -, kept⟩ := joined.reaches manned (World.reaches_advance _ mainNumber)
  obtain ⟨_, ⟨rfl⟩, ended⟩ := last.ended (fun t member => kept t (gone t member)) stuck
  exact ended

end Server

theorem Rig.buffers_of_initialise {rig rig' : Rig} {devices : List Device} {segment : Segment}
    {set : DeviceSet} {table : ZoneTable} (bare : ∀ h, rig.host.buffer? h = none)
    (initialised : rig.initialise devices segment = (.ok (set, table), rig')) (h : Handle)
    (pinned : rig'.host.buffer? h ≠ none) : h ∈ table.buffers := by
  cases initialises_of_initialise initialised with
  | pinned created setup =>
    obtain ⟨drawn, zones, -, -, prepares, pins, -, same⟩ := pins_of_setup created setup
    rw [ZoneTable.buffers, same table rfl]
    refine Decidable.byContradiction fun other => pinned ?_
    exact (pins.others h other).trans ((prepares.buffer? h).trans (bare h))

structure Rising (opening : World) (pool : Pool) (w : World) : Prop where
  untouched : w.shared.Untouched
  empty : w.shared.channel.pop? = none
  opened : w.shared.sealed = false
  signals : w.shared.signals = []
  host : w.shared.rig.host = opening.shared.rig.host
  faults : w.shared.rig.faults = opening.shared.rig.faults
  main : w.threads[mainNumber]? = some (.idle mainThread)
  workers : ∀ t thread, w.threads[t]? = some thread → t ≠ mainNumber → thread.Rests w.shared
  calm : pool.spawnError = none
  numbers : pool.threads = List.range' 1 pool.threads.length
  count : w.threads.length = pool.threads.length + 1

theorem World.Launches.rising {requested : Nat} {opening w : World} {state : Unit} {pool : Pool}
    (launches : World.Launches Spawner.always requested opening () pool w state)
    (begins : Rising opening ⟨[], requested, none⟩ opening) : Rising opening pool w := by
  induction launches with
  | begins => exact begins
  | @step pool w v state before t h ih =>
    obtain ⟨thread, thread', s', here, steps, rfl⟩ := World.steps_of_step h
    have apart : t ≠ mainNumber := by
      rintro rfl
      obtain rfl := Option.some.inj (here.symm.trans ih.main)
      exact steps.busy rfl
    obtain ⟨rfl, rests, -⟩ := (ih.workers t thread here apart).step steps ih.empty (by
      simp [ih.opened, ih.untouched.woken])
    refine { ih with
      main := World.idle_of_step h ih.main rfl
      workers := fun u other there outside => ?_
      count := by rw [List.length_set, ih.count] }
    rcases eq_or_ne t u with rfl | other'
    · obtain rfl := Option.some.inj ((getElem?_set_here here).symm.trans there)
      exact rests
    · rw [List.getElem?_set_ne other'] at there
      exact ih.workers u other there outside
  | @spawned pool w state state' spawn before _ _ answer starts ih =>
    cases answer
    have alive : mainNumber < w.threads.length := (List.getElem?_eq_some_iff.1 ih.main).1
    refine { untouched := ⟨ih.untouched.state, ih.untouched.reason, ih.untouched.cancelled,
               ih.untouched.woken⟩
             empty := ih.empty
             opened := ih.opened
             signals := ih.signals
             host := ih.host
             faults := ih.faults
             main := ?_
             workers := fun t thread here outside => ?_
             calm := ih.calm
             numbers := ?_
             count := by simp [World.start, ih.count] }
    · rw [World.start, List.getElem?_append_left alive]
      exact ih.main
    · rcases lt_trichotomy t w.threads.length with less | rfl | more
      · rw [World.start, List.getElem?_append_left less] at here
        exact (ih.workers t thread here outside).mono ⟨id, id, id, id, Nat.le_refl _⟩
      · rw [World.start, List.getElem?_concat_length] at here
        obtain rfl := Option.some.inj here
        exact .serves
      · rw [World.start, List.getElem?_eq_none (by simp; omega)] at here
        cases here
    · rw [List.length_append, List.length_singleton, List.range'_concat, ← ih.numbers, ih.count]
      simp [Nat.add_comm]
  | refused _ _ _ answer => cases answer

section

variable {opening : World} {server : Server}

theorem Rising.mem_threads {pool : Pool} {w : World} (rising : Rising opening pool w) {t : Nat} :
    t ∈ pool.threads ↔ 1 ≤ t ∧ t < w.threads.length := by
  rw [rising.numbers, List.mem_range'_1, rising.count, Nat.add_comm 1]

theorem Rising.log {pool : Pool} {w : World} (rising : Rising opening pool w) (thread : String)
    (notice : Notice) : Rising opening pool { w with shared := w.shared.log thread notice } :=
  { rising with
    untouched := ⟨rising.untouched.state, rising.untouched.reason, rising.untouched.cancelled,
      rising.untouched.woken⟩
    workers := fun t thread here outside =>
      (rising.workers t thread here outside).mono ⟨id, id, id, id, Nat.le_refl _⟩ }

theorem Rising.manned (rising : Rising opening server.pool server.world)
    (some : server.pool.threads ≠ []) : server.Manned where
  some := some
  outside worker := absurd (rising.mem_threads.1 worker).1 (by decide)
  aside worker := absurd (rising.mem_threads.1 worker).2 (Nat.lt_irrefl _)
  apart := by
    rw [rising.count]
    exact Nat.succ_ne_zero _

/-- The listener is started after all others. -/
theorem Rising.watched (rising : Rising opening server.pool server.world)
    (outside : mainNumber ∉ server.pool.threads)
    (pinned : ∀ h, server.world.shared.rig.host.buffer? h ≠ none → h ∈ server.table.buffers)
    (faults : server.world.shared.rig.faults = .none) :
    server.Watched [] false server.listening.world := by
  have within {t : Nat} (bound : t < server.world.threads.length) :
      server.listening.world.threads[t]? = server.world.threads[t]? :=
    List.getElem?_append_left bound
  refine ⟨faults, rising.empty, fun closed => ?_, ⟨[], .done, ?_, rfl, pinned⟩,
    ⟨[.listen], .done, ?_, .waits rising.untouched⟩,
    fun t worker => ?_, fun t thread here => ?_⟩
  · exact absurd (rising.opened.symm.trans closed) Bool.false_ne_true
  · exact (within (List.getElem?_eq_some_iff.1 rising.main).1).trans rising.main
  · exact List.getElem?_concat_length
  · have bound := (rising.mem_threads.1 worker).2
    have here := List.getElem?_eq_getElem bound
    have rests := rising.workers t _ here (by rintro rfl; exact outside worker)
    exact ⟨_, (within bound).trans here, rests⟩
  · have bound : t < (server.world.threads ++ [_]).length := (List.getElem?_eq_some_iff.1 here).1
    rw [List.length_append, List.length_singleton] at bound
    show t = 0 ∨ t = server.world.threads.length ∨ t ∈ server.pool.threads
    rw [rising.mem_threads]
    omega

end

namespace Server

variable {rig : Rig} {surroundings : Surroundings} {devices : List Device} {settings : Settings}
  {server : Server}

/-- The listener is started, and nobody has asked for anything. -/
structure Poised (server : Server) : Prop where
  manned : server.Manned
  watched : server.Watched [] false server.listening.world
  silent : server.world.shared.signals = []

/-- If threads can be created, the server comes up with all of them, the listener beside them. -/
theorem Starts.poised
    (starts : Starts rig surroundings devices settings Spawner.always () server)
    (bare : ∀ h, rig.host.buffer? h = none) (faults : rig.faults = .none) :
    server.Poised ∧ server.pool.started = server.pool.requested := by
  obtain ⟨segment, set, table, rig', -, initialised, rises⟩ := starts
  have faults : rig'.faults = .none := (Rig.lasts_faults .none).of_initialise initialised faults
  have bare (h : Handle) : (rig.record (.mapped segment.size)).host.buffer? h = none := bare h
  have pinned := Rig.buffers_of_initialise bare initialised
  generalize positive : threadCount settings.threads surroundings.processors = requested at rises
  replace positive : 0 < requested := positive ▸ threadCount_pos _ _
  have begins : Rising (.fresh (rig'.log .starting) set ⟨0, devices.length⟩)
      ⟨[], requested, none⟩ (.fresh (rig'.log .starting) set ⟨0, devices.length⟩) := by
    refine ⟨⟨rfl, rfl, rfl, rfl⟩, rfl, rfl, rfl, rfl, rfl, rfl, fun t thread here outside => ?_,
      rfl, rfl, rfl⟩
    cases t with
    | zero => exact absurd rfl outside
    | succ t => cases here
  cases rises with
  | missing launched short =>
    rw [(launched.rising begins).calm] at short
    cases short
  | @up pool w state launched calm full =>
    have rising := (launched.rising begins).log mainThread (.threadsUp pool.started)
    have some : pool.threads ≠ [] := by
      rintro none
      rw [Pool.started, none] at full
      exact positive.ne full
    have manned := @Rising.manned _ ⟨_, pool, segment, table⟩ rising some
    refine ⟨⟨manned, rising.watched manned.outside (fun h here => pinned h ?_)
      (rising.faults.trans faults), rising.signals⟩, full.trans launched.requested_eq.symm⟩
    have host : w.shared.rig.host = rig'.host := rising.host
    rw [← host]
    exact here

end Server

theorem Host.maxAlloc_simulated (index : Nat) (sizes : List Nat) :
    (Host.simulated index sizes).map (·.maxAlloc) = sizes := by
  induction sizes generalizing index with
  | nil => rfl
  | cons size sizes ih => exact congrArg (size :: ·) (ih (index + 1))

namespace Daemon

/-- Whatever can happen once a server is up: all threads take their steps, signals are sent, and the
main thread calls for the end, in any order. The signals that were sent so far are told, those that
the listener has taken, and whether the end was called for. -/
inductive Runs (server : Server) : (sent heard : List Signal) → Bool → World → Prop
  | begins : Runs server [] [] false server.listening.world
  | step {sent heard taken : List Signal} {called : Bool} {w v : World}
      (before : Runs server sent heard called w) (t : Nat) (h : w.step t = some v)
      (takes : taken ++ v.shared.signals = w.shared.signals) :
      Runs server sent (heard ++ taken) called v
  | signal {sent heard : List Signal} {called : Bool} {w : World}
      (before : Runs server sent heard called w) (signal : Signal) :
      Runs server (sent ++ [signal]) heard called (w.signalled signal)
  | ends {sent heard : List Signal} {w : World} (before : Runs server sent heard false w) :
      Runs server sent heard true (w.assign mainNumber server.ending)

/-- While the listener has taken nothing, all that was sent is pending; and the signal that it takes
first has the lowest number of those sent before. -/
inductive Heeds : (sent heard pending : List Signal) → Prop
  | none {sent pending : List Signal} (same : ∀ signal, signal ∈ pending ↔ signal ∈ sent)
      (sorted : pending.Pairwise (·.number < ·.number)) : Heeds sent [] pending
  | some {first : Signal} {soon late later pending : List Signal} (member : first ∈ soon)
      (lowest : ∀ signal ∈ soon, first.number ≤ signal.number) :
      Heeds (soon ++ late) (first :: later) pending

theorem Heeds.take {sent heard taken pending rest : List Signal}
    (heeds : Heeds sent heard pending) (takes : taken ++ rest = pending) :
    Heeds sent (heard ++ taken) rest := by
  cases heeds with
  | none same sorted =>
    subst takes
    cases taken with
    | nil => exact .none same sorted
    | cons first taken =>
      have lowest (signal : Signal) (member : signal ∈ sent) : first.number ≤ signal.number := by
        rcases List.mem_cons.1 ((same signal).2 member) with rfl | later
        · exact Nat.le_refl _
        · exact Nat.le_of_lt ((List.pairwise_cons.1 sorted).1 signal later)
      rw [← List.append_nil sent]
      exact .some ((same first).1 List.mem_cons_self) lowest
  | some member lowest => exact .some member lowest

theorem Heeds.send {sent heard pending : List Signal} (heeds : Heeds sent heard pending)
    (signal : Signal) : Heeds (sent ++ [signal]) heard (signal.pend pending) := by
  cases heeds with
  | none same sorted =>
    refine .none (fun other => ?_) (signal.sorted_pend sorted)
    rw [signal.mem_pend, same, List.mem_append, List.mem_singleton, or_comm]
  | some member lowest =>
    rw [List.append_assoc]
    exact .some member lowest

theorem Runs.heeds {server : Server} {sent heard : List Signal} {called : Bool} {w : World}
    (runs : Runs server sent heard called w) (silent : server.world.shared.signals = []) :
    Heeds sent heard w.shared.signals := by
  induction runs with
  | begins =>
    refine .none (fun signal => ?_) ?_ <;>
      simp [show server.listening.world.shared.signals = [] from silent]
  | step before t h takes ih => exact ih.take takes
  | signal before signal ih => exact ih.send signal
  | ends before ih =>
    exact ih

section

variable {server : Server} {sent heard : List Signal} {called : Bool} {w v : World}
  (poised : server.Poised)
include poised

theorem Runs.watched (runs : Runs server sent heard called w) :
    server.Watched heard called w := by
  induction runs with
  | begins => exact poised.watched
  | step before t h takes ih =>
    obtain ⟨-, taken, same, watched⟩ := ih.step poised.manned h
    obtain rfl := List.append_cancel_right (takes.trans same.symm)
    exact watched
  | signal _ signal ih => exact ih.signal signal
  | ends _ ih => exact ih.call poised.manned

theorem Runs.reaches (runs : Runs server sent heard called w) (run : World.Reaches w v) :
    ∃ taken, taken ++ v.shared.signals = w.shared.signals ∧
      Runs server sent (heard ++ taken) called v := by
  induction run generalizing heard with
  | refl => exact ⟨[], rfl, by rwa [List.append_nil]⟩
  | step t h _ ih =>
    obtain ⟨-, taken, takes, -⟩ := (runs.watched poised).step poised.manned h
    obtain ⟨more, takes', last⟩ := ih (runs.step t h takes)
    exact ⟨taken ++ more, by rw [List.append_assoc, takes', takes],
      by rwa [← List.append_assoc]⟩

theorem Runs.hear (runs : Runs server sent heard called w) (signal : Signal) :
    ((w.signalled signal).advance server.world.threads.length).step
        server.world.threads.length = none ∧
      ∃ taken, taken ++ ((w.signalled signal).advance server.world.threads.length).shared.signals =
          signal.pend w.shared.signals ∧
        Runs server (sent ++ [signal]) (heard ++ taken) called
          ((w.signalled signal).advance server.world.threads.length) :=
  ⟨((runs.signal signal).watched poised).advance_stops poised.manned _,
    (runs.signal signal).reaches poised (World.reaches_advance _ _)⟩

theorem Runs.deliver (runs : Runs server sent heard called w)
    (stuck : w.step server.world.threads.length = none) (signals : List Signal) :
    (signals.foldl (fun w signal => (w.signalled signal).advance server.world.threads.length)
        w).step server.world.threads.length = none ∧
      ∃ more, Runs server (sent ++ signals) (heard ++ more) called
        (signals.foldl (fun w signal => (w.signalled signal).advance server.world.threads.length)
          w) := by
  induction signals generalizing sent heard w with
  | nil => exact ⟨stuck, [], by simpa using runs⟩
  | cons signal signals ih =>
    obtain ⟨stuck, taken, -, next⟩ := runs.hear poised signal
    obtain ⟨stuck, more, last⟩ := ih next stuck
    refine ⟨stuck, taken ++ more, ?_⟩
    rwa [List.append_cons, ← List.append_assoc]

/-- The order of the daemon itself: the signals come first, each with all that the listener does,
and then the main thread waits for the end. In that order the first signal is heard first. -/
theorem runs_waitForShutdown (first : Signal) (later : List Signal) :
    server.Ended first (server.listening.deliver (first :: later)).waitForShutdown ∧
      ∃ more, Runs server (first :: later) (first :: more) true
        (server.listening.deliver (first :: later)).waitForShutdown := by
  have listener : server.listening.world.threads.length - 1 = server.world.threads.length := by
    simp [Server.listening, World.start]
  have opening : Runs server [] [] false server.listening.world := .begins
  obtain ⟨stuck, taken, takes, heard⟩ := opening.hear poised first
  have alone : first.pend server.listening.world.shared.signals = [first] := by
    rw [show server.listening.world.shared.signals = [] from poised.silent]
    rfl
  rw [alone] at takes
  obtain rfl : taken = [first] := by
    have given : [] ++ taken ≠ [] ∨ ((server.listening.world.signalled first).advance
        server.world.threads.length).shared.signals ≠ [] := by
      cases taken with
      | nil => exact .inr (by rw [List.nil_append] at takes; simp [takes])
      | cons => exact .inl (List.cons_ne_nil _ _)
    obtain ⟨_, named, -⟩ := (heard.watched poised).halted given stuck
    cases taken with
    | nil => cases named
    | cons other taken =>
      obtain ⟨rfl, none⟩ := List.cons.inj takes
      rw [(List.append_eq_nil_iff.1 none).1]
  obtain ⟨stuck, more, delivered⟩ := heard.deliver poised stuck later
  have same : server.listening.deliver (first :: later) = { server.listening with
      world := later.foldl
        (fun w signal => (w.signalled signal).advance server.world.threads.length)
        ((server.listening.world.signalled first).advance server.world.threads.length) } := by
    rw [Server.deliver, listener]
    rfl
  obtain ⟨_, -, halted⟩ := (delivered.watched poised).halted
    (.inl (List.cons_ne_nil _ _)) stuck
  have ended := (delivered.watched poised).waits poised.manned halted.woken
  have waits := Server.reaches_waitForShutdown (server.listening.deliver (first :: later))
  rw [same] at waits ⊢
  obtain ⟨taken, -, last⟩ := delivered.ends.reaches poised waits
  exact ⟨ended, more ++ taken, by simpa using last⟩

/-- In every order of the steps there is an end, and the signal that was heard first decides it. -/
theorem Runs.settles (runs : Runs server sent heard true w)
    (given : sent ≠ []) {n : Nat}
    (takes : World.Takes n w v) :
    n ≤ w.rest ∧ ∃ more, Runs server sent (heard ++ more) true v ∧
      ((∀ t, v.step t = none) → ∃ first ∈ (heard ++ more).head?, server.Ended first v) := by
  have lowers (w v : World) (t : Nat) (runs : ∃ more, Runs server sent (heard ++ more) true w)
      (h : w.step t = some v) :
      (∃ more, Runs server sent (heard ++ more) true v) ∧ v.rest < w.rest := by
    obtain ⟨more, runs⟩ := runs
    obtain ⟨rolls, taken, takes, -⟩ := (runs.watched poised).step poised.manned h
    have next := runs.step t h takes
    rw [List.append_assoc] at next
    exact ⟨⟨_, next⟩, rolls.rest_lt⟩
  obtain ⟨⟨more, last⟩, bound⟩ := takes.bounded ⟨[], by rwa [List.append_nil]⟩ lowers
  refine ⟨(Nat.le_add_right _ _).trans bound, more, last, fun stuck => ?_⟩
  refine (last.watched poised).rests ?_ stuck
  have heeds := last.heeds poised.silent
  generalize heard ++ more = all at heeds
  cases heeds with
  | none same =>
    obtain ⟨signal, member⟩ := List.exists_mem_of_ne_nil _ given
    exact .inr (List.ne_nil_of_mem ((same signal).2 member))
  | some => exact .inl (List.cons_ne_nil _ _)

end

def Plan.rig (plan : Plan) : Rig :=
  let host := Host.ofSizes (plan.sizes.map (·.toNat)) plan.config.lockPages
  (Rig.ofHost host .always .none).log (.devicesDiscovered host.devices.length)

def Plan.start {σ : Type} (plan : Plan) (surroundings : Surroundings) (spawner : Spawner σ)
    (seed : σ) : Except (ServerError × Rig) (Server × σ) :=
  Server.start plan.rig surroundings plan.rig.host.devices plan.settings spawner seed

theorem Plan.start_eq {σ : Type} (plan : Plan) (surroundings : Surroundings) (spawner : Spawner σ)
    (seed : σ) : plan.start surroundings spawner seed =
      let host := Host.ofSizes (plan.sizes.map (·.toNat)) plan.config.lockPages
      let rig := (Rig.ofHost host .always .none).log (.devicesDiscovered host.devices.length)
      Server.start rig surroundings host.devices plan.settings spawner seed := rfl

theorem Plan.bare (plan : Plan) (h : Handle) : plan.rig.host.buffer? h = none := by
  simp [rig, Rig.ofHost, Rig.log, Rig.record, Host.ofSizes, Host.buffer?]

/-- The plan is made of a configuration that keeps the limits. -/
structure Plan.Sound (plan : Plan) : Prop where
  valid : plan.config.Valid
  settings : plan.config.settings = .ok plan.settings
  bytes : plan.config.deviceBytes = .ok plan.sizes
  threads : plan.settings.threads = plan.config.threads.toNat
  memory : plan.settings.memory = plan.config.memoryMb.toNat * 2 ^ 20
  sizes : plan.sizes.map UInt64.toNat = plan.config.deviceMb.map fun mb => mb.toNat * 2 ^ 20

variable {texts : List String} {arguments : Arguments}

namespace Plan.Sound

variable {σ : Type} {made : Plan} (sound : made.Sound)
include sound

theorem devices :
    made.rig.host.devices ≠ [] ∧ ∀ d ∈ made.rig.host.devices, 0 < d.maxAlloc := by
  have limits : made.rig.host.devices.map (·.maxAlloc) =
      made.config.deviceMb.map fun mb => mb.toNat * 2 ^ 20 := by
    rw [← sound.sizes]
    exact Host.maxAlloc_simulated 0 _
  constructor
  · intro none
    rw [none] at limits
    exact sound.valid.some (List.map_eq_nil_iff.1 limits.symm)
  · intro d member
    have among : d.maxAlloc ∈ made.rig.host.devices.map (·.maxAlloc) := List.mem_map_of_mem member
    rw [limits] at among
    obtain ⟨mb, here, same⟩ := List.mem_map.1 among
    have positive := (sound.valid.devices mb here).1
    omega

/-- A plan can fail only because its memory cannot be mapped. -/
theorem start_cases (surroundings : Surroundings) (spawner : Spawner σ) (seed : σ) :
    (2 ^ 47 ≤ made.settings.memory ∧ made.start surroundings spawner seed =
      .error (.sharedMemory (.mapFailed made.settings.memory .outOfMemory), made.rig)) ∨
    made.settings.memory < 2 ^ 47 ∧
      ∃ server state, made.start surroundings spawner seed = .ok (server, state) := by
  have unmappable : Segment.unmappable = 2 ^ 47 := rfl
  have positive : made.settings.memory ≠ 0 := by
    have memory := sound.valid.memory.1
    rw [sound.memory]
    omega
  rcases Nat.lt_or_ge made.settings.memory (2 ^ 47) with small | large
  · right
    have allocated : Segment.allocate surroundings.base made.settings.memory =
        .ok ⟨surroundings.base, made.settings.memory⟩ := by
      rw [Segment.allocate, if_neg positive, unmappable, if_neg (Nat.not_le.2 small)]
    have willing : (made.rig.record (.mapped made.settings.memory)).Willing
        ⟨surroundings.base, made.settings.memory⟩ := ⟨rfl, fun _ _ _ _ _ => rfl⟩
    have arises : (made.rig.record (.mapped made.settings.memory)).host.Arises 0 := .fresh _ _
    obtain ⟨ok, -⟩ := Server.start_eq_ok_iff made.rig made.rig.host.devices spawner seed allocated
    obtain ⟨⟨server, state⟩, started⟩ := ok.2 ((Rig.initialise_discovered arises willing
      (Nat.pos_of_ne_zero positive)).2 sound.devices)
    exact ⟨small, server, state, started⟩
  · left
    have refused : Segment.allocate surroundings.base made.settings.memory =
        .error (.sharedMemory (.mapFailed made.settings.memory .outOfMemory)) := by
      rw [Segment.allocate, if_neg positive, unmappable, if_pos large]
    refine ⟨large, ?_⟩
    simp only [start, Server.start, refused]

end Plan.Sound

variable {made : Plan} {surroundings : Surroundings} {server : Server} {first : Signal}
  {later : List Signal}

theorem Plan.poised (starts : Server.Starts made.rig surroundings made.rig.host.devices
    made.settings Spawner.always () server) :
    server.Poised ∧ server.pool.started = server.pool.requested :=
  starts.poised made.bare rfl

theorem serve_of_started (handled : ∀ signal ∈ first :: later, signal.handled)
    (begun : made.start surroundings Spawner.always () = .ok (server, ()))
    (ended : server.Ended first (server.listening.deliver (first :: later)).waitForShutdown) :
    serve surroundings made (first :: later) = .ended 0 made.config.verbosity
      ((server.listening.deliver (first :: later)).waitForShutdown.shared.rig.log
        (.exiting (some first.reason) server.pool.started 0)).history.logLines := by
  have survives : killedBy (first :: later) = false := by
    have handles := handled first List.mem_cons_self
    simp [killedBy, handles]
  have all : (first :: later).filter Signal.handled = first :: later :=
    List.filter_eq_self.2 handled
  have code : exitCode (some first.reason) = 0 := by cases first <;> rfl
  have answer : (server.listening.deliver (first :: later)).waitForShutdown.answer mainNumber =
      .report server.pool.requested server.pool.started 0 (some first.reason) := by
    rw [World.answer, ended.report]
  rw [Plan.start_eq] at begun
  simp only [serve, begun, survives, all, answer, code, Bool.false_eq_true, if_false]

theorem serve_of_failed {signals : List Signal} {error : ServerError} {rig : Rig}
    (failed : made.start surroundings Spawner.always () = .error (error, rig)) :
    serve surroundings made signals = .ended 1 made.config.verbosity
      (rig.log (.startFailed error)).history.logLines := by
  rw [Plan.start_eq] at failed
  simp only [serve, failed]

/-- The memory cannot be mapped. Nothing else goes wrong, also if no thread can be created. -/
structure Plan.Unmapped (made : Plan) (surroundings : Surroundings) (run : DaemonRun) : Prop where
  large : 2 ^ 47 ≤ made.settings.memory
  refused : ∀ (σ : Type) (spawner : Spawner σ) (seed : σ),
    made.start surroundings spawner seed =
      .error (.sharedMemory (.mapFailed made.settings.memory .outOfMemory), made.rig)
  bare : ∀ h, made.rig.host.buffer? h = none
  run_eq : run = .ended 1 made.config.verbosity (made.rig.log (.startFailed
    (.sharedMemory (.mapFailed made.settings.memory .outOfMemory)))).history.logLines

/-- The server comes up, and ends after the first signal. The daemon does all of it in one order of
the steps; in every other order there is an end too, and the signal that the listener has taken
first decides it. It has the lowest number of those that were sent by then. -/
structure Plan.Served (made : Plan) (surroundings : Surroundings) (first : Signal)
    (later : List Signal) (run : DaemonRun) : Prop where
  small : made.settings.memory < 2 ^ 47
  starts : ∀ (σ : Type) (spawner : Spawner σ) (seed : σ), ∃ server state,
    made.start surroundings spawner seed = .ok (server, state)
  run_eq : ∃ server w, made.start surroundings Spawner.always () = .ok (server, ()) ∧
    (∃ more, Runs server (first :: later) (first :: more) true w) ∧ server.Ended first w ∧
    run = .ended 0 made.config.verbosity (w.shared.rig.log
      (.exiting (some first.reason) server.pool.started 0)).history.logLines
  orders : ∀ server, Server.Starts made.rig surroundings made.rig.host.devices made.settings
    Spawner.always () server → server.pool.started = server.pool.requested ∧
    ∀ sent heard w, Runs server sent heard true w →
      (∀ signal ∈ heard.head?, ∃ soon late, sent = soon ++ late ∧ signal ∈ soon ∧
        ∀ other ∈ soon, signal.number ≤ other.number) ∧
      (sent ≠ [] → ∃ bound, ∀ n v, World.Takes n w v → n ≤ bound ∧
        ∃ more, Runs server sent (heard ++ more) true v ∧
          ((∀ t, v.step t = none) → ∃ signal ∈ (heard ++ more).head?, server.Ended signal v))

theorem Plan.Unmapped.exit {run : DaemonRun} (unmapped : made.Unmapped surroundings run) :
    run.exit? = some 1 := by
  rw [unmapped.run_eq]
  rfl

theorem Plan.Served.exit {run : DaemonRun} (served : made.Served surroundings first later run) :
    run.exit? = some 0 := by
  obtain ⟨server, w, -, -, -, ends⟩ := served.run_eq
  rw [ends]
  rfl

/-- The run of a plan is decided by the size of its memory. -/
theorem Plan.Sound.serves (sound : made.Sound) (surroundings : Surroundings)
    (handled : ∀ signal ∈ first :: later, signal.handled) :
    made.Unmapped surroundings (serve surroundings made (first :: later)) ∨
      made.Served surroundings first later (serve surroundings made (first :: later)) := by
  rcases sound.start_cases surroundings Spawner.always () with
    ⟨large, failed⟩ | ⟨small, server, ⟨⟩, begun⟩
  · refine .inl ⟨large, fun σ spawner seed => ?_, made.bare, serve_of_failed failed⟩
    rcases sound.start_cases surroundings spawner seed with ⟨-, failed⟩ | ⟨small, -⟩
    · exact failed
    · exact absurd small (Nat.not_lt.2 large)
  · have starts := starts_of_start begun
    obtain ⟨poised, -⟩ := Plan.poised starts
    obtain ⟨ended, runs⟩ := runs_waitForShutdown poised first later
    refine .inr ⟨small, fun σ spawner seed => ?_,
      ⟨server, _, begun, runs, ended, serve_of_started handled begun ended⟩, fun other starts => ?_⟩
    · rcases sound.start_cases surroundings spawner seed with ⟨large, -⟩ | ⟨-, started⟩
      · exact absurd small (Nat.not_lt.2 large)
      · exact started
    · obtain ⟨poised, all⟩ := Plan.poised starts
      refine ⟨all, fun sent heard w runs => ⟨fun signal named => ?_, fun given =>
        ⟨w.rest, fun n v takes => runs.settles poised given takes⟩⟩⟩
      cases runs.heeds poised.silent with
      | none => cases named
      | some member lowest =>
        obtain rfl := Option.some.inj named
        exact ⟨_, _, rfl, member, lowest⟩

def files : Directory :=
  [("large.json", .file "\x7b\"shmem_size_mb\": 134217728\x7d".toUTF8),
    ("broken.json", .file "\x7b\"shmem_size_mb\": \x7d".toUTF8)]

end Daemon

end DispatchServer
