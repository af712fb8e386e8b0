import DispatchServer.Proofs.Closing

/-! How an enqueue ends. Between its test of the closing flag and its send anything can happen to
the queue, but nobody else has the message; so when the call returns, its answer tells what became
of the message. -/
namespace DispatchServer

def Traffic.SameFor (k : Nat) (T T' : Traffic) : Prop :=
  T'.sent.count k = T.sent.count k ∧ T'.failures k = T.failures k

theorem Flow.same_apply {flow : Flow} {T : Traffic} {k : Nat} (takes : copies k flow.takes = 0) :
    T.SameFor k (flow.apply T) := by
  unfold Traffic.SameFor
  rw [sent_apply, failures_apply]
  cases flow with
  | sent m => simp_all [Event.sent?, Event.failure?, eq_comm]
  | returned m error => simp_all [Event.sent?, Event.failure?, eq_comm]
  | _ => simp [Event.sent?, Event.failure?]

theorem Flow.Links.same {flow : Flow} {panics : Bool} {s s' : Shared}
    {held held' working working' : Multiset Message}
    (links : flow.Links panics s s' held held' working working')
    (custody : Custody s.traffic held working) {k : Nat}
    (stays : copies k held' ≠ 0 ∨ s.traffic.consumed k ≠ 0) :
    s.traffic.SameFor k s'.traffic := by
  rw [links.traffic]
  apply Flow.same_apply
  have once := custody.once k
  have bound := s.traffic.ledger.issued_le k
  have balance := congrArg (copies k) links.waiting
  simp only [copies_add] at balance
  by_contra takes
  rw [Flow.gives_eq_zero takes, copies_zero] at balance
  omega

theorem Flow.Links.failed {flow : Flow} {panics : Bool} {s s' : Shared}
    {held held' working working' : Multiset Message}
    (links : flow.Links panics s s' held held' working working')
    (custody : Custody s.traffic held working) {k : Nat} (failed : s.traffic.failures k ≠ []) :
    s'.traffic.failures k = s.traffic.failures k := by
  have some := List.length_pos_iff.2 failed
  refine (links.same custody (.inr ?_)).2
  unfold Traffic.consumed
  omega

theorem Flow.Links.sent {flow : Flow} {panics : Bool} {s s' : Shared}
    {held held' working working' : Multiset Message}
    (links : flow.Links panics s s' held held' working working') :
    s.traffic.sent <+: s'.traffic.sent := by
  rw [links.traffic, Flow.sent_apply]
  exact List.prefix_append _ _

namespace Scene

variable {offered : Interface} {sc sc' : Scene} {t : Nat} {thread : Thread}

/-- A move changes the thread of a step, a thread that is in no call, or one whose wait for a reply
takes too long. -/
theorem Move.thread_cases (h : Move offered sc sc') (here : sc.world.threads[t]? = some thread) :
    sc'.world.threads[t]? = some thread ∨
      (∃ s' thread', thread.Steps sc.world.exits sc.world.shared s' thread' ∧
        sc'.world.shared = s' ∧ sc'.world.threads[t]? = some thread') ∨
      thread.frames = [] ∨
      ∃ ticket, thread.frames = [.awaitReply ticket] ∧
        sc.traffic.ledger.status? ticket = some .queued ∧ sc'.traffic = sc.traffic ∧
        sc'.world.threads[t]? = some (.idle thread.name) := by
  have assigned {u : Nat} {frames : List Frame}
      (free : ∃ thread ∈ sc.world.threads[u]?, thread.frames = []) :
      (sc.world.assign u frames).threads[t]? = some thread ∨ thread.frames = [] := by
    obtain ⟨caller, there, free⟩ := free
    rw [World.assign_eq there]
    rcases eq_or_ne u t with rfl | other
    · obtain rfl : thread = caller := by rw [here] at there; exact Option.some.inj there
      exact .inr free
    · exact .inl (by rw [List.getElem?_set_ne other, here])
  cases h with
  | step u h =>
    obtain ⟨mover, mover', s', there, steps, rfl⟩ := World.steps_of_step h
    rcases eq_or_ne u t with rfl | other
    · obtain rfl : mover = thread := by rw [here] at there; exact (Option.some.inj there).symm
      exact .inr (.inl ⟨s', mover', steps, rfl,
        getElem?_set_here here⟩)
    · exact .inl (by rw [List.getElem?_set_ne other, here])
  | start name =>
    have bound := (List.getElem?_eq_some_iff.1 here).1
    exact .inl (by rw [World.start, List.getElem?_append_left bound, here])
  | build | spill | signal => exact .inl here
  | call u service _ _ idle =>
    obtain ⟨caller, there, none, -⟩ := idle
    exact (assigned ⟨caller, there, none⟩).imp_right fun none => .inr (.inl none)
  | use u m use _ _ idle =>
    obtain ⟨caller, there, none, -⟩ := idle
    exact (assigned ⟨caller, there, none⟩).imp_right fun none => .inr (.inl none)
  | take u m given =>
    obtain ⟨caller, there, none, -⟩ := given
    exact (assigned ⟨caller, there, none⟩).imp_right fun none => .inr (.inl none)
  | @expire w hands u ticket waits queued =>
    obtain ⟨caller, there, frames⟩ := waits
    rw [World.assign_eq there]
    rcases eq_or_ne u t with rfl | other
    · obtain rfl : thread = caller := by rw [here] at there; exact Option.some.inj there
      exact .inr (.inr (.inr ⟨ticket, frames, queued, rfl,
        getElem?_set_here here⟩))
    · exact .inl (by rw [List.getElem?_set_ne other, here])

theorem Move.same (h : Move offered sc sc') (sound : sc.Sound) {k : Nat}
    (stays : copies k sc'.held ≠ 0 ∨ sc.traffic.consumed k ≠ 0) :
    sc.traffic.SameFor k sc'.traffic := by
  obtain ⟨flow, _, links⟩ := h.flow sound.typed
  exact links.same sound.custody stays

theorem Move.failed (h : Move offered sc sc') (sound : sc.Sound) {k : Nat}
    (failed : sc.traffic.failures k ≠ []) : sc'.traffic.failures k = sc.traffic.failures k := by
  obtain ⟨flow, _, links⟩ := h.flow sound.typed
  exact links.failed sound.custody failed

theorem Reaches.sent (run : Reaches offered sc sc') (sound : sc.Sound) :
    sc.traffic.sent <+: sc'.traffic.sent := by
  induction run with
  | refl => exact List.prefix_rfl
  | tail run move ih =>
    obtain ⟨flow, _, links⟩ := move.flow (Reaches.sound run sound).typed
    exact ih.trans links.sent

theorem Reaches.failed (run : Reaches offered sc sc') (sound : sc.Sound) {k : Nat}
    (failed : sc.traffic.failures k ≠ []) : sc'.traffic.failures k = sc.traffic.failures k := by
  induction run with
  | refl => rfl
  | tail run move ih =>
    have later := move.failed (Reaches.sound run sound) (k := k) (by rwa [ih])
    rw [later, ih]

def Inside (sc : Scene) (t : Nat) (below : List Frame) : Prop :=
  ∃ thread ∈ sc.world.threads[t]?, ∃ above, above ≠ [] ∧ thread.frames = above ++ below

variable (offered) in
abbrev Within (t : Nat) (below : List Frame) : Scene → Scene → Prop :=
  Relation.ReflTransGen fun a b => Move offered a b ∧ b.Inside t below

variable (offered) in
/-- The thread comes back to what stands below its call, with an answer. -/
def Leaves (t : Nat) (below : List Frame) (sc last : Scene) (answer : Answer) : Prop :=
  ∃ name before, Within offered t below sc before ∧ Move offered before last ∧
    last.world.threads[t]? = some ⟨name, below, answer, none⟩

variable (offered) in
/-- In the first scene the thread is about to do what the frame says, and in the last one it has
just come back from that with an answer. -/
def Returns (t : Nat) (f : Frame) (first last : Scene) (answer : Answer) : Prop :=
  ∃ name left below, first.world.threads[t]? = some ⟨name, f :: below, left, none⟩ ∧
    Leaves offered t below first last answer

theorem reaches_of_within {below : List Frame} (run : Within offered t below sc sc') :
    Reaches offered sc sc' :=
  Relation.ReflTransGen.mono (fun _ _ h => h.1) _ _ run

theorem reaches_of_steps {w v : World} (hands : List Message) (run : World.Reaches w v) :
    Reaches offered ⟨w, hands⟩ ⟨v, hands⟩ := by
  induction run with
  | refl w => exact .refl
  | step t h rest ih => exact .head (.step t h) ih

theorem busy_of_steps {w v : World} (run : World.Reaches w v)
    (busy : ∃ thread ∈ v.threads[t]?, thread.frames ≠ []) :
    ∃ thread ∈ w.threads[t]?, thread.frames ≠ [] := by
  induction run with
  | refl => exact busy
  | step u h rest ih =>
    obtain ⟨thread, there, some⟩ := ih busy
    obtain ⟨mover, mover', s', here, steps, rfl⟩ := World.steps_of_step h
    rcases eq_or_ne u t with rfl | other
    · exact ⟨mover, here, steps.busy⟩
    · rw [List.getElem?_set_ne other] at there
      exact ⟨thread, there, some⟩

theorem within_of_steps {w v : World} (hands : List Message) (run : World.Reaches w v)
    (busy : ∃ thread ∈ v.threads[t]?, thread.frames ≠ []) :
    Within offered t [] ⟨w, hands⟩ ⟨v, hands⟩ := by
  induction run with
  | refl => exact .refl
  | step u h rest ih =>
    obtain ⟨thread, here, some⟩ := busy_of_steps rest busy
    exact .head ⟨.step u h, thread, here, thread.frames, some, by simp⟩ (ih busy)

end Scene

def Frame.Parting (m : Message) (below frames : List Frame) : Prop :=
  frames = .enqueue m :: below ∨ frames = .send m :: below ∨
    frames = .fail m .queueClosed :: .reject :: below

namespace Thread

variable {thread thread' : Thread} {exits : Nat → Option Exit} {s s' : Shared} {m : Message}
  {below : List Frame}

theorem waits_of_parting (frames : Frame.Parting m below thread.frames) : m ∈ thread.waiting := by
  rcases frames with frames | frames | frames <;>
    simp [waiting, frames, Frame.waiting, Frame.owned]

/-- The enqueuer tests, sends or fails. -/
theorem Steps.parting (steps : thread.Steps exits s s' thread') (calm : thread.panicking = none)
    (frames : Frame.Parting m below thread.frames) :
    (Frame.Parting m below thread'.frames ∧ thread'.panicking = none ∧
        (s.closing = true → thread'.frames ≠ .send m :: below)) ∨
      (thread.frames = .send m :: below ∧ thread'.frames = below ∧ thread'.answer = .accepted ∧
        s'.traffic = (Flow.sent m).apply s.traffic) ∨
      ∃ above, thread'.frames = above ++ .reject :: below ∧
        s'.traffic = (Flow.returned m .queueClosed).apply s.traffic := by
  cases steps with
  | moved top _ h =>
    rcases frames with frames | frames | frames
    all_goals
      rw [frames] at top
      obtain ⟨rfl, rfl⟩ := List.cons.inj top
    · cases Frame.moves_of_step h with
      | rejects => exact .inl ⟨.inr (.inr rfl), calm, fun _ => by simp⟩
      | admits opened =>
        exact .inl ⟨.inr (.inl rfl), calm, fun closing => by simp [opened] at closing⟩
    · cases Frame.moves_of_step h with
      | rejectsLate => exact .inl ⟨.inr (.inr rfl), calm, fun _ => by simp⟩
      | sends => exact .inr (.inl ⟨frames, rfl, rfl, s.traffic_send m⟩)
    · exact .inr (.inr ⟨_, rfl, Frame.traffic_fail h⟩)
  | panicked top => rcases frames with frames | frames | frames <;> rw [frames] at top <;> cases top
  | unwound _ panics => rw [calm] at panics; cases panics

/-- What was failed stays failed; only then the enqueuer tells its caller. -/
theorem Steps.rejecting {above : List Frame} (steps : thread.Steps exits s s' thread')
    (frames : thread.frames = above ++ .reject :: below) :
    (∃ above, thread'.frames = above ++ .reject :: below) ∨
      (thread'.frames = below ∧ (thread'.panicking = none → thread'.answer = .refused)) := by
  rcases steps.beneath frames with stays | frames
  · exact .inl stays
  right
  cases steps with
  | moved top _ h =>
    obtain ⟨rfl, rfl⟩ := List.cons.inj (frames.symm.trans top)
    cases h
    exact ⟨rfl, fun _ => rfl⟩
  | panicked top =>
    rw [frames] at top
    cases top
  | unwound top _ h =>
    obtain ⟨rfl, rfl⟩ := List.cons.inj (frames.symm.trans top)
    cases h
    exact ⟨rfl, by simp⟩

end Thread

namespace Scene

variable {offered : Interface} {sc sc' : Scene} {t : Nat} {m : Message} {below : List Frame}

/-- How far the enqueuer has come, if it has not come back. If it has found the queue closing, it
will not send. -/
inductive Enqueuing (sc : Scene) (t : Nat) (m : Message) (below : List Frame) (closing : Bool)
    (sent : Nat) : Prop
  | parting {thread : Thread} (here : sc.world.threads[t]? = some thread)
      (frames : Frame.Parting m below thread.frames) (calm : thread.panicking = none)
      (gate : closing = true →
        sc.world.shared.closing = true ∧ thread.frames ≠ .send m :: below)
      (unsent : sc.traffic.sent.count m.ticket = sent)
  | failed {thread : Thread} {above : List Frame} (here : sc.world.threads[t]? = some thread)
      (frames : thread.frames = above ++ .reject :: below)
      (unsent : sc.traffic.sent.count m.ticket = sent)
      (failed : sc.traffic.failures m.ticket = [.queueClosed])

theorem copies_held_ne_zero {thread : Thread} (here : sc.world.threads[t]? = some thread)
    (keeps : m ∈ thread.waiting) : copies m.ticket sc.held ≠ 0 := by
  have sum := sum_map_set Thread.waiting (.idle thread.name) here
  rw [show (Thread.idle thread.name).waiting = 0 from rfl, add_zero] at sum
  have member : m ∈ sc.held := by simp [held, ← sum, keeps]
  exact (copies_pos member).ne'

theorem Sound.unfailed (sound : sc.Sound) {k : Nat} (held : copies k sc.held ≠ 0) :
    sc.traffic.failures k = [] := by
  have once := sound.custody.once k
  have bound := sc.traffic.ledger.issued_le k
  exact (sc.traffic.of_consumed_eq_zero (by omega)).2.1

/-- The enqueuer comes nearer to its answer, or gets it. -/
theorem Enqueuing.move {closing : Bool} {sent : Nat} (h : Move offered sc sc') (sound : sc.Sound)
    (progress : sc.Enqueuing t m below closing sent) :
    sc'.Enqueuing t m below closing sent ∨ ∃ thread, sc'.world.threads[t]? = some thread ∧
      thread.frames = below ∧ (thread.panicking = none →
        (thread.answer = .accepted ∧ closing = false ∧ sc'.traffic.sent.count m.ticket = sent + 1 ∧
          sc'.traffic.failures m.ticket = []) ∨
        (thread.answer = .refused ∧ sc'.traffic.sent.count m.ticket = sent ∧
          sc'.traffic.failures m.ticket = [.queueClosed])) := by
  cases progress with
  | @parting thread here frames calm gate unsent =>
    have unfailed := sound.unfailed (copies_held_ne_zero here (Thread.waits_of_parting frames))
    have again {thread : Thread} (here : sc'.world.threads[t]? = some thread)
        (frames : Frame.Parting m below thread.frames) (calm : thread.panicking = none)
        (unsend : closing = true → thread.frames ≠ .send m :: below) :
        sc'.Enqueuing t m below closing sent := by
      have held := copies_held_ne_zero here (Thread.waits_of_parting frames)
      exact .parting here frames calm
        (fun shut => ⟨(h.closing sound).1 (gate shut).1, unsend shut⟩)
        ((h.same sound (.inl held)).1.trans unsent)
    rcases h.thread_cases here with
      here' | ⟨s', thread', steps, shared, here'⟩ | none | ⟨_, none, -⟩
    · exact .inl (again here' frames calm fun shut => (gate shut).2)
    · rcases steps.parting calm frames with ⟨frames, calm, unsend⟩ | ⟨send, back, answer, flow⟩ |
        ⟨above, frames, flow⟩
      · exact .inl (again here' frames calm fun shut => unsend (gate shut).1)
      · have opened : closing = false := by
          by_contra shut
          exact (gate (by simpa using shut)).2 send
        refine .inr ⟨thread', here', back, fun _ => .inl ⟨answer, opened, ?_, ?_⟩⟩
        · rw [traffic, shared, flow, Flow.sent_apply]
          simp [Event.sent?, unsent]
        · rw [traffic, shared, flow, Flow.failures_apply]
          simp [Event.failure?, unfailed]
      · refine .inl (.failed here' frames ?_ ?_)
        · rw [traffic, shared, flow, Flow.sent_apply]
          simp [Event.sent?, unsent]
        · rw [traffic, shared, flow, Flow.failures_apply]
          simp [Event.failure?, unfailed]
    · rcases frames with frames | frames | frames <;> rw [frames] at none <;> cases none
    · rcases frames with frames | frames | frames <;> rw [frames] at none <;> cases none
  | @failed thread above here frames unsent failed =>
    have gone : sc.traffic.consumed m.ticket ≠ 0 := by
      simp [Traffic.consumed, failed]
    obtain ⟨unsent', failed'⟩ := h.same sound (.inr gone)
    rw [unsent] at unsent'
    rw [failed] at failed'
    rcases h.thread_cases here with here' | ⟨s', thread', steps, -, here'⟩ | none | ⟨_, none, -⟩
    · exact .inl (.failed here' frames unsent' failed')
    · rcases steps.rejecting frames with ⟨above, frames⟩ | ⟨back, answer⟩
      · exact .inl (.failed here' frames unsent' failed')
      · exact .inr ⟨thread', here', back, fun calm => .inr ⟨answer calm, unsent', failed'⟩⟩
    · rw [frames] at none; simp at none
    · rw [frames] at none
      cases above <;> simp at none

/-- An enqueue answers that it accepted the message if and only if it sent it, which it never does
if closing began before; and otherwise it has failed the message once, with the error that the queue
is closed. -/
theorem Sound.enqueue_returns {first last : Scene} {answer : Answer} (sound : first.Sound)
    (returns : Returns offered t (.enqueue m) first last answer) :
    (answer = .accepted ∧ first.world.shared.closing = false ∧
      last.traffic.sent.count m.ticket = first.traffic.sent.count m.ticket + 1 ∧
      last.traffic.failures m.ticket = []) ∨
    (answer = .refused ∧
      last.traffic.sent.count m.ticket = first.traffic.sent.count m.ticket ∧
      last.traffic.failures m.ticket = [.queueClosed]) := by
  obtain ⟨name, left, below, here, _, before, run, final, back⟩ := returns
  have progress : before.Enqueuing t m below first.world.shared.closing
      (first.traffic.sent.count m.ticket) := by
    clear final
    -- As long as the call goes on, the message is still held or was failed once.
    induction run with
    | refl => exact .parting here (.inl rfl) rfl (fun shut => ⟨shut, by simp⟩) rfl
    | @tail a b run move ih =>
      have sound := (reaches_of_within run).sound sound
      rcases ih.move move.1 sound with progress | ⟨thread, here', frames, -⟩
      · exact progress
      · -- The call has not returned yet.
        obtain ⟨thread', there, above, some, high⟩ := move.2
        obtain rfl : thread = thread' := by rw [here'] at there; exact Option.some.inj there
        rw [frames] at high
        simp [List.self_eq_append_left, some] at high
  have sound := (reaches_of_within run).sound sound
  rcases progress.move final sound with progress | ⟨thread, here', -, returned⟩
  · -- The stack is no longer higher than below the call.
    exfalso
    rcases progress with ⟨here', frames⟩ | ⟨here', frames⟩
    all_goals
      obtain rfl := Option.some.inj (back.symm.trans here')
    · rcases frames with frames | frames | frames <;>
        have := congrArg List.length frames <;> simp only [List.length_cons] at this <;> omega
    · have := congrArg List.length frames
      simp only [List.length_append, List.length_cons] at this
      omega
  · obtain rfl := Option.some.inj (back.symm.trans here')
    exact returned rfl

variable (offered) in
/-- Between the two scenes some enqueue of the message came back with the answer. -/
def Answered (first last : Scene) (m : Message) (answer : Answer) : Prop :=
  ∃ u a b, Reaches offered first a ∧ Returns offered u (.enqueue m) a b answer ∧
    Reaches offered b last

theorem Sound.answered {first last : Scene} {answer : Answer} (sound : first.Sound)
    (answered : Answered offered first last m answer) :
    (answer = .accepted ∧ m.ticket ∈ last.traffic.sent) ∨
      (answer = .refused ∧ last.traffic.failures m.ticket = [.queueClosed]) := by
  obtain ⟨u, a, b, run, returns, rest⟩ := answered
  have sound := run.sound sound
  have returned := sound.enqueue_returns returns
  obtain ⟨_, _, _, _, _, before, within, move, -⟩ := returns
  have sound := move.sound ((reaches_of_within within).sound sound)
  rcases returned with ⟨accepted, -, sent, -⟩ | ⟨refused, -, failed⟩
  · have member : m.ticket ∈ b.traffic.sent := List.count_pos_iff.1 (by omega)
    exact .inl ⟨accepted, (rest.sent sound).subset member⟩
  · refine .inr ⟨refused, ?_⟩
    rw [rest.failed sound (by simp [failed]), failed]

end Scene

end DispatchServer
