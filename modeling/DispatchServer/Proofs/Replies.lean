import DispatchServer.Proofs.Calls

/-! What producers learn. A reply is queued as long as its message is anywhere, and is settled by
the one thing that ends the message. -/
namespace DispatchServer

namespace Ledger

variable (ledger : Ledger)

theorem status?_publish (m : Message) (status : ReplyStatus) (k : Nat) :
    (ledger.publish m status).status? k =
      if m.isReply ∧ m.ticket = k then some status else ledger.status? k := by
  unfold publish status?
  cases m.isReply
  · simp
  · simp [Std.TreeMap.getElem?_insert]

theorem status?_issue (plan : Blueprint) (k : Nat) :
    (ledger.issue plan).2.status? k =
      if plan.kind = .reply ∧ ledger.next = k then some .queued else ledger.status? k := by
  unfold issue status?
  cases plan.kind
  · simp
  · simp [Std.TreeMap.getElem?_insert]

theorem status?_drop_of_ne (m : Message) (panicking : Bool) {k : Nat} (other : m.ticket ≠ k) :
    (ledger.drop m panicking).status? k = ledger.status? k := by
  unfold drop
  split
  · rw [status?_publish, if_neg fun h => other h.2]
  · rfl

theorem status?_drop_of_queued {m : Message} (panicking : Bool) (reply : m.isReply)
    (queued : ledger.status? m.ticket = some .queued) :
    (ledger.drop m panicking).status? m.ticket =
      some (.failed (.processingFailed (droppedText panicking))) := by
  rw [drop, if_pos queued, status?_publish, if_pos ⟨reply, rfl⟩]

end Ledger

/-- What can become of a message: its work ran to its end, with the text of its error if there was
one, or it was failed, or it went without an outcome, taken by a panic or not. -/
inductive Fate
  | worked (failure : Option String)
  | returned (error : ServerError)
  | lost (unwinding : Bool)

/-- What the producer of a reply message is told of its fate. -/
def Fate.status : Fate → ReplyStatus
  | worked failure => workedStatus failure
  | returned error => .failed error
  | lost unwinding => .failed (.processingFailed (Ledger.droppedText unwinding))

/-- The history of a message that is gone shows its fate. -/
def Traffic.Shows (T : Traffic) (m : Message) : Fate → Prop
  | .worked failure =>
    m.ticket ∈ T.begun ∧ T.losses m.ticket = [] ∧ m.plan.process.result = some failure
  | .returned error => T.failures m.ticket = [error]
  | .lost unwinding => T.losses m.ticket = [unwinding]

def Script.last : Script → Script
  | .act _ next | .enqueue _ next | .hold _ next => next.last
  | last => last

theorem Script.last_of_result {script : Script} {failure : Option String}
    (h : script.result = some failure) :
    (failure = none ∧ script.last = .done) ∨
      ∃ chain, failure = some (": ".intercalate chain.reverse) ∧ script.last = .fault chain := by
  induction script using Script.last.induct with
  | case1 _ next ih | case2 _ next ih | case3 _ next ih => exact ih h
  | case4 script ends₁ ends₂ ends₃ =>
    cases script with
    | done => exact .inl ⟨(Option.some.inj h).symm, rfl⟩
    | fault chain => exact .inr ⟨chain, (Option.some.inj h).symm, rfl⟩
    | panic => cases h
    | act action next => exact absurd rfl (ends₁ action next)
    | enqueue plan next => exact absurd rfl (ends₂ plan next)
    | hold plan next => exact absurd rfl (ends₃ plan next)

/-- What the reply of a message says of its fate; a chain of causes has the outermost first. -/
inductive Message.Says (m : Message) : Fate → ReplyStatus → Prop
  | done (ends : m.plan.process.last = .done) : m.Says (.worked none) .done
  | failed {chain : List String} {text : String} (ends : m.plan.process.last = .fault chain)
      (joined : text = ": ".intercalate chain.reverse) :
      m.Says (.worked (some text)) (.failed (.processingFailed text))
  | returned (error : ServerError) : m.Says (.returned error) (.failed error)
  | panicked : m.Says (.lost true) (.failed (.processingFailed "processing panicked"))
  | dropped : m.Says (.lost false) (.failed (.processingFailed "dropped before it was processed"))

theorem Traffic.Shows.says {T : Traffic} {m : Message} {fate : Fate} (shows : T.Shows m fate) :
    m.Says fate fate.status := by
  cases fate with
  | worked failure =>
    rcases Script.last_of_result shows.2.2 with ⟨rfl, ends⟩ | ⟨chain, rfl, ends⟩
    · exact .done ends
    · exact .failed ends rfl
  | returned error => exact .returned error
  | lost unwinding => cases unwinding <;> constructor

def present (T : Traffic) (held working : Multiset Message) : Multiset Message :=
  held + T.channel + working

namespace Custody

variable {T : Traffic} {held working : Multiset Message}

theorem consumed_le (custody : Custody T held working) (k : Nat) : T.consumed k ≤ 1 := by
  have once := custody.once k
  have bound := T.ledger.issued_le k
  omega

theorem begun_le (T : Traffic) (k : Nat) : T.begun.count k ≤ T.consumed k := by
  unfold Traffic.consumed
  omega

theorem copies_present_le (custody : Custody T held working) (k : Nat) :
    copies k (present T held working) ≤ T.ledger.issued k := by
  have once := custody.once k
  have begun := custody.begun k
  have consumed := begun_le T k
  simp only [present, copies_add]
  omega

theorem unique (custody : Custody T held working) {a b : Message}
    (here : a ∈ present T held working) (here' : b ∈ present T held working)
    (same : a.ticket = b.ticket) : a = b := by
  have few := (custody.copies_present_le a.ticket).trans (T.ledger.issued_le _)
  obtain ⟨rest, split⟩ := Multiset.exists_cons_of_mem here
  rw [split] at here' few
  rcases Multiset.mem_cons.1 here' with rfl | here'
  · rfl
  · have more : 0 < copies a.ticket rest := by
      rw [same]
      exact copies_pos here'
    simp only [copies, Multiset.map_cons, Multiset.count_cons_self] at few more
    omega

theorem of_failed (custody : Custody T held working) {k : Nat} (failed : T.failures k ≠ []) :
    k ∉ T.begun ∧ T.losses k = [] := by
  have consumed := custody.consumed_le k
  have some := List.length_pos_iff.2 failed
  unfold Traffic.consumed at consumed
  have absent : k ∉ T.begun := List.count_eq_zero.1 (by omega)
  rw [if_neg absent] at consumed
  exact ⟨absent, List.length_eq_zero_iff.1 (by omega)⟩

/-- A message has one fate. -/
theorem fate_unique (custody : Custody T held working) {m : Message} {a b : Fate}
    (shows₁ : T.Shows m a) (shows₂ : T.Shows m b) : a = b := by
  have failed {error : ServerError} (h : T.failures m.ticket = [error]) :=
    custody.of_failed (k := m.ticket) (by simp [h])
  cases a with
  | worked failure =>
    obtain ⟨begun, kept, result⟩ := shows₁
    cases b with
    | worked failure' => simpa [result] using shows₂.2.2
    | returned error => exact absurd begun (failed shows₂).1
    | lost unwinding => simp [Traffic.Shows, kept] at shows₂
  | returned error =>
    cases b with
    | worked failure => exact absurd shows₂.1 (failed shows₁).1
    | returned error' => simpa [Traffic.Shows] using shows₁.symm.trans shows₂
    | lost unwinding => simp [Traffic.Shows, (failed shows₁).2] at shows₂
  | lost unwinding =>
    cases b with
    | worked failure => simp [Traffic.Shows, shows₂.2.1] at shows₁
    | returned error => simp [Traffic.Shows, (failed shows₂).2] at shows₁
    | lost unwinding' => simpa [Traffic.Shows] using shows₁.symm.trans shows₂

end Custody

namespace Flow

variable {flow : Flow} {T : Traffic} {k : Nat}

@[simp] def enters : Flow → Multiset Message
  | built m => {m}
  | _ => 0

@[simp] def leaves : Flow → Multiset Message
  | begun m _ => if m.isReply then 0 else {m}
  | worked m _ | returned m _ | dropped m _ | abandoned m => {m}
  | _ => 0

theorem enters_eq_zero (leaves : copies k flow.leaves ≠ 0) : flow.enters = 0 := by
  cases flow <;> simp_all

theorem issued_apply (k : Nat) : T.ledger.issued k ≤ (flow.apply T).ledger.issued k := by
  cases flow <;> simp [Ledger.issued_issue]

/-- Nothing happens to a ticket whose message does not leave. -/
theorem apply_of_leaves {panics : Bool} (fits : flow.Fits panics T) (old : T.ledger.issued k = 1)
    (leaves : copies k flow.leaves = 0) :
    (flow.apply T).ledger.status? k = T.ledger.status? k ∧
      (flow.apply T).losses k = T.losses k ∧ (flow.apply T).failures k = T.failures k := by
  rw [losses_apply, failures_apply]
  cases flow with
  | built m =>
    refine ⟨?_, by simp [Event.loss?], by simp [Event.failure?]⟩
    simp only [apply, Traffic.ledger_record]
    have other : T.ledger.next ≠ k := by rintro rfl; simp [Ledger.issued] at old
    rw [Ledger.status?_issue, if_neg fun h => other h.2]
  | worked m failure =>
    have other : m.ticket ≠ k := by rintro rfl; simp at leaves
    refine ⟨?_, by simp, by simp⟩
    simp only [apply, Traffic.ledger_publish]
    rw [Ledger.status?_publish, if_neg fun h => other h.2]
  | returned m error =>
    have other : m.ticket ≠ k := by rintro rfl; simp at leaves
    refine ⟨?_, by simp [Event.loss?], by simp [Event.failure?, other]⟩
    simp only [apply, Traffic.ledger_record, Traffic.ledger_publish]
    rw [Ledger.status?_publish, if_neg fun h => other h.2]
  | dropped m unwinding =>
    have other : m.ticket ≠ k := by rintro rfl; simp at leaves
    exact ⟨Ledger.status?_drop_of_ne _ _ _ other, by simp [Event.loss?, other],
      by simp [Event.failure?]⟩
  | abandoned m =>
    have other : m.ticket ≠ k := by rintro rfl; simp at leaves
    exact ⟨Ledger.status?_drop_of_ne _ _ _ other, by simp [Event.loss?, other],
      by simp [Event.failure?]⟩
  | _ => simp [Event.loss?, Event.failure?]

theorem Links.moves {panics : Bool} {s s' : Shared}
    {held held' working working' : Multiset Message}
    (links : flow.Links panics s s' held held' working working') :
    present s'.traffic held' working' + flow.leaves =
      present s.traffic held working + flow.enters := by
  have waiting := links.waiting
  have worked := links.working
  have fits := links.fits
  unfold DispatchServer.present
  rw [links.traffic]
  cases flow with
  | sent m =>
    simp [← Multiset.coe_add] at *
    rw [← waiting, worked]
    abel
  | received m =>
    obtain ⟨rest, order⟩ := List.head?_eq_some_iff.1
      (show s.traffic.channel.head? = some m from fits)
    simp [order, ← Multiset.cons_coe, ← Multiset.singleton_add] at *
    rw [waiting, worked]
    abel
  | begun m =>
    simp at *
    rw [← waiting, worked]
    split <;> simp <;> abel
  | built m =>
    simp at *
    rw [waiting, worked]
    abel
  | dropped m | returned m =>
    simp at *
    rw [← waiting, worked]
    abel
  | worked m | abandoned m =>
    simp at *
    rw [waiting, ← worked]
    abel
  | quiet | rejected m =>
    simp at *
    rw [waiting, worked]

end Flow

/-- The message is somewhere, and its producer is told to wait. -/
structure Awaits (T : Traffic) (held working : Multiset Message) (m : Message) : Prop where
  here : m ∈ present T held working
  queued : T.ledger.status? m.ticket = some .queued
  kept : T.losses m.ticket = []

/-- The message is gone, and its producer is told why. -/
structure Settles (T : Traffic) (held working : Multiset Message) (m : Message) (fate : Fate) :
    Prop where
  gone : copies m.ticket (present T held working) = 0
  old : T.ledger.issued m.ticket = 1
  shows : T.Shows m fate
  status : T.ledger.status? m.ticket = some fate.status

namespace Flow.Links

variable {flow : Flow} {panics : Bool} {s s' : Shared}
  {held held' working working' : Multiset Message} {m : Message}

theorem issued (links : flow.Links panics s s' held held' working working') {k : Nat}
    (old : s.traffic.ledger.issued k = 1) : s'.traffic.ledger.issued k = 1 := by
  have bound := s'.traffic.ledger.issued_le k
  have more := flow.issued_apply (T := s.traffic) k
  rw [← links.traffic] at more
  omega

/-- A flow with which an awaited message leaves settles it. -/
theorem settles_of_leaves (links : flow.Links panics s s' held held' working working')
    (custody : Custody s.traffic held working) (reply : m.isReply)
    (awaits : Awaits s.traffic held working m) (old : s.traffic.ledger.issued m.ticket = 1)
    (leaves : copies m.ticket flow.leaves ≠ 0) :
    ∃ fate, Settles s'.traffic held' working' m fate := by
  obtain ⟨here, queued, kept⟩ := awaits
  have few := custody.copies_present_le m.ticket
  have old' := links.issued old
  have moves := links.moves
  rw [enters_eq_zero leaves, add_zero] at moves
  have gone : copies m.ticket (present s'.traffic held' working') = 0 := by
    have moves := congrArg (copies m.ticket) moves
    rw [copies_add] at moves
    omega
  have itself {m₀ : Message} (h : flow.leaves = {m₀}) : m₀ = m := by
    refine custody.unique ?_ here ?_
    · rw [← moves, h]
      exact Multiset.mem_add.2 (.inr (Multiset.mem_singleton_self _))
    · rw [h] at leaves
      simpa [eq_comm] using leaves
  have fits := links.fits
  rw [links.traffic] at gone old' ⊢
  have waiting := congrArg (copies m.ticket) links.waiting
  have working := congrArg (copies m.ticket) links.working
  cases flow with
  | begun m₀ =>
    have itself (h : (begun m₀ _).leaves = {m₀}) : m₀ = m := itself h
    rw [Flow.leaves] at itself leaves
    split at leaves
    · simp at leaves
    · rename_i closure
      rw [if_neg closure] at itself
      exact absurd (itself rfl ▸ reply) closure
  | worked m₀ failure =>
    obtain rfl := itself rfl
    refine ⟨.worked failure, gone, old', ⟨?_, ?_, fits.2⟩, ?_⟩
    · have begun := custody.begun m₀.ticket
      simp only [copies_add, ends, starts, copies_singleton, copies_zero, if_pos] at working
      rw [Flow.begun_apply]
      exact List.mem_append_left _ (List.count_pos_iff.1 (by omega))
    · rw [Flow.losses_apply, kept]
      rfl
    · simp only [apply, Traffic.ledger_publish, Fate.status]
      rw [Ledger.status?_publish, if_pos ⟨reply, rfl⟩]
  | returned m₀ error =>
    obtain rfl := itself rfl
    refine ⟨.returned error, gone, old', ?_, ?_⟩
    · have once := custody.once m₀.ticket
      simp only [copies_add, takes, gives, copies_singleton, copies_zero, if_pos] at waiting
      have none := s.traffic.of_consumed_eq_zero (k := m₀.ticket) (by omega)
      rw [Traffic.Shows, failures_apply, none.2.1]
      simp [Event.failure?]
    · simp only [apply, Traffic.ledger_record, Traffic.ledger_publish, Fate.status]
      rw [Ledger.status?_publish, if_pos ⟨reply, rfl⟩]
  | dropped m₀ unwinding =>
    obtain rfl := itself rfl
    refine ⟨.lost unwinding, gone, old', ?_, ?_⟩
    · rw [Traffic.Shows, losses_apply, kept]
      simp [Event.loss?]
    · exact Ledger.status?_drop_of_queued _ _ reply queued
  | abandoned m₀ =>
    obtain rfl := itself rfl
    refine ⟨.lost true, gone, old', ?_, ?_⟩
    · rw [Traffic.Shows, losses_apply, kept]
      simp [Event.loss?]
    · exact Ledger.status?_drop_of_queued _ _ reply queued
  | _ => simp at leaves

theorem awaits (links : flow.Links panics s s' held held' working working')
    (custody : Custody s.traffic held working) (reply : m.isReply)
    (awaits : Awaits s.traffic held working m) :
    Awaits s'.traffic held' working' m ∨ ∃ fate, Settles s'.traffic held' working' m fate := by
  have some := copies_pos awaits.here
  have few := custody.copies_present_le m.ticket
  have bound := s.traffic.ledger.issued_le m.ticket
  have old : s.traffic.ledger.issued m.ticket = 1 := by omega
  by_cases leaves : copies m.ticket flow.leaves = 0
  · left
    obtain ⟨status, losses, -⟩ := apply_of_leaves links.fits old leaves
    refine ⟨?_, by rw [links.traffic, status, awaits.queued],
      by rw [links.traffic, losses, awaits.kept]⟩
    have member : m ∈ present s'.traffic held' working' + flow.leaves := by
      rw [links.moves]
      exact Multiset.mem_add.2 (.inl awaits.here)
    rcases Multiset.mem_add.1 member with member | member
    · exact member
    · exact absurd leaves (copies_pos member).ne'
  · exact .inr (links.settles_of_leaves custody reply awaits old leaves)

/-- What is settled stays so. -/
theorem settles {fate : Fate} (links : flow.Links panics s s' held held' working working')
    (settles : Settles s.traffic held working m fate) :
    Settles s'.traffic held' working' m fate := by
  obtain ⟨gone, old, shows, status⟩ := settles
  have moves := congrArg (copies m.ticket) links.moves
  rw [copies_add, copies_add, gone, zero_add] at moves
  have enters : copies m.ticket flow.enters = 0 := by
    have fits := links.fits
    cases flow with
    | built m₀ =>
      have fits : m₀.ticket = s.traffic.ledger.next := fits
      have new : m.ticket ≠ m₀.ticket := by
        intro same
        rw [same, fits, Ledger.issued, if_neg (lt_irrefl _)] at old
        cases old
      simp [new]
    | _ => rfl
  obtain ⟨status', losses, failures⟩ := apply_of_leaves links.fits old (by omega)
  refine ⟨by omega, links.issued old, ?_, by rw [links.traffic, status', status]⟩
  rw [links.traffic]
  cases fate with
  | worked failure =>
    refine ⟨?_, losses.trans shows.2.1, shows.2.2⟩
    rw [Flow.begun_apply]
    exact List.mem_append_left _ shows.1
  | returned error => exact failures.trans shows
  | lost unwinding => exact losses.trans shows

theorem losses (links : flow.Links panics s s' held held' working working') (k : Nat) :
    s'.traffic.losses k = s.traffic.losses k ∨
      s'.traffic.losses k = s.traffic.losses k ++ [panics] := by
  have fits := links.fits
  rw [links.traffic, Flow.losses_apply]
  cases flow with
  | dropped m unwinding =>
    obtain rfl : unwinding = panics := fits
    by_cases other : m.ticket = k <;> simp [Event.loss?, other]
  | abandoned m =>
    rw [fits.2]
    by_cases other : m.ticket = k <;> simp [Event.loss?, other]
  | _ => simp [Event.loss?]

/-- Nobody is told that a message is gone that is there, and flows keep it so. -/
theorem truthful (links : flow.Links panics s s' held held' working working')
    (custody : Custody s.traffic held working)
    (truthful : ∀ m ∈ present s.traffic held working, m.isReply → Awaits s.traffic held working m) :
    ∀ m ∈ present s'.traffic held' working', m.isReply → Awaits s'.traffic held' working' m := by
  intro m here reply
  have member : m ∈ present s.traffic held working + flow.enters := by
    rw [← links.moves]
    exact Multiset.mem_add.2 (.inl here)
  rcases Multiset.mem_add.1 member with old | new
  · rcases links.awaits custody reply (truthful m old reply) with awaits | ⟨fate, settles⟩
    · exact awaits
    · exact absurd settles.gone (copies_pos here).ne'
  · have fits := links.fits
    have traffic := links.traffic
    cases flow with
    | built m₀ =>
      obtain rfl := Multiset.mem_singleton.1 new
      have fits : m.ticket = s.traffic.ledger.next := fits
      have once := custody.once m.ticket
      rw [Ledger.issued, if_neg (by omega)] at once
      have none := s.traffic.of_consumed_eq_zero (k := m.ticket) (by omega)
      refine ⟨here, ?_, ?_⟩
      · rw [traffic]
        simp only [Flow.apply, Traffic.ledger_record]
        rw [Ledger.status?_issue, if_pos ⟨by simpa [Message.isReply] using reply, fits.symm⟩]
      · rw [traffic, Flow.losses_apply]
        simp [Event.loss?, none.2.2]
    | _ => simp at new

end Flow.Links

theorem Thread.Steps.awaiting {thread thread' : Thread} {exits : Nat → Option Exit}
    {s s' : Shared} {k : Nat} {below : List Frame} (steps : thread.Steps exits s s' thread')
    (calm : thread.panicking = none) (frames : thread.frames = .awaitReply k :: below)
    (known : s.ledger.status? k ≠ none) :
    thread'.frames = below ∧ s' = s ∧ ∃ status, status ≠ .queued ∧
      thread'.answer = .status status ∧ s.ledger.status? k = some status := by
  cases steps with
  | moved top _ h =>
    obtain ⟨rfl, rfl⟩ := List.cons.inj (frames.symm.trans top)
    cases Frame.moves_of_step h with
    | awaitsNoReply unknown => exact absurd unknown known
    | awaitsReply settled found => exact ⟨rfl, rfl, _, settled, rfl, found⟩
  | panicked top => rw [frames] at top; cases top
  | unwound _ panics => rw [calm] at panics; cases panics

namespace Scene

variable {offered : Interface} {sc sc' : Scene} {m : Message}

abbrev present (sc : Scene) : Multiset Message :=
  DispatchServer.present sc.traffic sc.held sc.working

abbrev Awaits (sc : Scene) (m : Message) : Prop :=
  DispatchServer.Awaits sc.traffic sc.held sc.working m

abbrev Settles (sc : Scene) (m : Message) (fate : Fate) : Prop :=
  DispatchServer.Settles sc.traffic sc.held sc.working m fate

/-- Nobody is told that a message is gone that is there. -/
def Truthful (sc : Scene) : Prop := ∀ m ∈ sc.present, m.isReply → sc.Awaits m

theorem not_mem_of_settles {fate : Fate} (settles : sc.Settles m fate) : m ∉ sc.present :=
  fun here => (copies_pos here).ne' settles.gone

theorem Move.truthful (h : Move offered sc sc') (sound : sc.Sound) (truthful : sc.Truthful) :
    sc'.Truthful := by
  obtain ⟨flow, _, links⟩ := h.flow sound.typed
  exact links.truthful sound.custody truthful

theorem Reaches.truthful (run : Reaches offered sc sc') (sound : sc.Sound)
    (truthful : sc.Truthful) : sc'.Truthful := by
  induction run with
  | refl => exact truthful
  | tail run move ih => exact move.truthful (Reaches.sound run sound) ih

theorem Reaches.settles {fate : Fate} (run : Reaches offered sc sc') (sound : sc.Sound)
    (settles : sc.Settles m fate) : sc'.Settles m fate := by
  induction run with
  | refl => exact settles
  | tail run move ih =>
    obtain ⟨flow, _, links⟩ := move.flow (Reaches.sound run sound).typed
    exact links.settles ih

theorem Reaches.awaits (run : Reaches offered sc sc') (sound : sc.Sound) (reply : m.isReply)
    (awaits : sc.Awaits m) : sc'.Awaits m ∨ ∃ fate, sc'.Settles m fate := by
  induction run with
  | refl => exact .inl awaits
  | tail run move ih =>
    have sound := Reaches.sound run sound
    obtain ⟨flow, _, links⟩ := move.flow sound.typed
    rcases ih with awaits | ⟨fate, settles⟩
    · exact links.awaits sound.custody reply awaits
    · exact .inr ⟨fate, links.settles settles⟩

theorem losses_of_step (sound : sc.Sound) {t : Nat} {thread : Thread} {v : World}
    (here : sc.world.threads[t]? = some thread) (h : sc.world.step t = some v) (k : Nat) :
    v.shared.traffic.losses k = sc.traffic.losses k ∨
      v.shared.traffic.losses k = sc.traffic.losses k ++ [thread.panicking.isSome] := by
  obtain ⟨mover, mover', s', there, steps, rfl⟩ := World.steps_of_step h
  obtain rfl : mover = thread := Option.some.inj (there.symm.trans here)
  exact (steps.links (sound.typed mover (List.mem_of_getElem? here))).losses k

/-- A thread that is in some call lets the message go. -/
def Loses (sc sc' : Scene) (k : Nat) : Prop :=
  ∃ (t : Nat) (thread : Thread), sc.world.threads[t]? = some thread ∧ thread.frames ≠ [] ∧
    sc'.traffic.losses k = sc.traffic.losses k ++ [thread.panicking.isSome]

theorem losses_of_move (h : Move offered sc sc') (sound : sc.Sound) (k : Nat) :
    sc'.traffic.losses k = sc.traffic.losses k ∨ sc.Loses sc' k := by
  cases h with
  | step t goes =>
    obtain ⟨thread, thread', s', here, steps, -⟩ := World.steps_of_step goes
    exact (losses_of_step sound here goes k).imp_right
      fun lost => ⟨t, thread, here, steps.busy, lost⟩
  | @spill w before after t thread m here busy =>
    have links := links_spill w before after m thread.panicking.isSome
    exact (links.losses k).imp_right fun lost => ⟨t, thread, here, busy, lost⟩
  | @build w hands plan =>
    refine .inl ((congrArg (Traffic.losses · k) (links_build w hands plan).traffic).trans ?_)
    rw [Flow.losses_apply]
    simp [Event.loss?]
  | _ => exact .inl rfl

/-- Whoever waits for a reply that exists comes back with a status that is not queued, or after the
time is over while it still is. -/
theorem awaitReply_returns {first last : Scene} {t k : Nat} {answer : Answer}
    (known : ∀ sc, Reaches offered first sc → sc.traffic.ledger.status? k ≠ none)
    (returns : Returns offered t (.awaitReply k) first last answer) :
    (answer = .done ∧ last.traffic.ledger.status? k = some .queued) ∨
      ∃ status, status ≠ .queued ∧ answer = .status status ∧
        last.traffic.ledger.status? k = some status := by
  obtain ⟨name, left, below, here, _, before, run, final, back⟩ := returns
  have waits : ∃ thread, before.world.threads[t]? = some thread ∧ thread.panicking = none ∧
      thread.frames = .awaitReply k :: below := by
    clear final
    induction run with
    | refl => exact ⟨_, here, rfl, rfl⟩
    | @tail a b run move ih =>
      obtain ⟨thread, here, calm, frames⟩ := ih
      obtain ⟨thread', there, above, some, high⟩ := move.2
      rcases move.1.thread_cases here with same | ⟨s', next, steps, -, here'⟩ | none |
        ⟨ticket, -, -, -, idle⟩
      · exact ⟨thread, same, calm, frames⟩
      · -- The call has not returned yet.
        obtain rfl : next = thread' := Option.some.inj (here'.symm.trans there)
        rw [(steps.awaiting calm frames (known a (reaches_of_within run))).1] at high
        simp [List.self_eq_append_left, some] at high
      · rw [frames] at none; cases none
      · obtain rfl : Thread.idle thread.name = thread' := Option.some.inj (idle.symm.trans there)
        simp [Thread.idle, some] at high
  obtain ⟨thread, here, calm, frames⟩ := waits
  rcases final.thread_cases here with same | ⟨s', next, steps, shared, here'⟩ | none |
    ⟨ticket, waits, queued, same, idle⟩
  · obtain rfl := Option.some.inj (same.symm.trans back)
    simp at frames
  · obtain rfl := Option.some.inj (here'.symm.trans back)
    obtain ⟨-, rfl, status, settled, answer, found⟩ :=
      steps.awaiting calm frames (known before (reaches_of_within run))
    exact .inr ⟨status, settled, answer, by rw [traffic, shared]; exact found⟩
  · rw [frames] at none; cases none
  · obtain ⟨⟨⟩, rfl⟩ := List.cons.inj (frames.symm.trans waits)
    have back := Option.some.inj (idle.symm.trans back)
    refine .inl ⟨(congrArg Thread.answer back).symm, by rw [same]; exact queued⟩

theorem truthful_opening (rig : Rig) (devices : DeviceSet) (robin : RoundRobin) :
    (opening rig devices robin).Truthful := by
  intro m here
  simp [present, DispatchServer.present, opening, World.fresh, held, working, Thread.waiting,
    Thread.working, Thread.idle, Answer.owned, traffic, Shared.traffic] at here

end Scene

/-- A reply is queued as long as its message is anywhere. Then one fate settles it for good, a panic
being to blame just when the thread that drops the message unwinds, and only then, or when the time
is over before, its producer is woken. -/
theorem reply_settles {rig : Rig} {devices : DeviceSet} {robin : RoundRobin} {sc sc' : Scene}
    {m : Message} (run : Scene.Reaches .queue (.opening rig devices robin) sc) (reply : m.isReply)
    (here : m ∈ sc.present) (later : Scene.Reaches .queue sc sc') :
    ((m ∈ sc'.present ∧ sc'.traffic.ledger.status? m.ticket = some .queued) ∨
      (m ∉ sc'.present ∧ ∃ fate status, sc'.traffic.Shows m fate ∧ m.Says fate status ∧
        (∀ other, sc'.traffic.Shows m other → other = fate) ∧
        ∀ last, Scene.Reaches .queue sc' last →
          m ∉ last.present ∧ last.traffic.Shows m fate ∧
          last.traffic.ledger.status? m.ticket = some status)) ∧
    (∀ next, Scene.Move .queue sc' next →
      next.traffic.losses m.ticket = sc'.traffic.losses m.ticket ∨ sc'.Loses next m.ticket) ∧
    (∀ t thread v, sc'.world.threads[t]? = some thread → sc'.world.step t = some v →
      v.shared.traffic.losses m.ticket = sc'.traffic.losses m.ticket ∨
        v.shared.traffic.losses m.ticket =
          sc'.traffic.losses m.ticket ++ [thread.panicking.isSome]) ∧
    (∀ t last answer, Scene.Returns .queue t (.awaitReply m.ticket) sc' last answer →
      (answer = .done ∧ last.traffic.ledger.status? m.ticket = some .queued) ∨
        ∃ status, status ≠ .queued ∧ answer = .status status ∧
          last.traffic.ledger.status? m.ticket = some status) := by
  have opening := Scene.sound_opening rig devices robin
  have sound := run.sound opening
  have truthful := run.truthful opening (Scene.truthful_opening rig devices robin)
  have sound' := Scene.Reaches.sound later sound
  have stands {last : Scene} (run : Scene.Reaches .queue sc last) :=
    Scene.Reaches.awaits run sound reply (truthful m here reply)
  refine ⟨?_, fun next move => Scene.losses_of_move move sound' _,
    fun t thread v there step => Scene.losses_of_step sound' there step _, ?_⟩
  · rcases stands later with awaits | ⟨fate, settles⟩
    · exact .inl ⟨awaits.here, awaits.queued⟩
    · refine .inr ⟨Scene.not_mem_of_settles settles, fate, _, settles.shows, settles.shows.says,
        fun other shows => sound'.custody.fate_unique shows settles.shows, fun last run => ?_⟩
      have settles := Scene.Reaches.settles run sound' settles
      exact ⟨Scene.not_mem_of_settles settles, settles.shows, settles.status⟩
  · intro t last answer returns
    refine Scene.awaitReply_returns (fun mid run => ?_) returns
    rcases stands (later.trans run) with awaits | ⟨fate, settles⟩
    · simp [awaits.queued]
    · simp [settles.status]

/-- One message returns an error with a cause, and another one goes with the callback that had
captured it, which panics. -/
theorem reply_settles_of_failure :
    let opening := Scene.opening (.ofHost (.ofSizes [] false) .always .none) ⟨0, [], []⟩ ⟨0, 1⟩
    let failing : Message := ⟨0, .mk .reply "" "" 0 (.fault ["inner", "outer"]) .done⟩
    let captured : Message := ⟨1, .mk .reply "" "" 0 .done .done⟩
    ∃ sc sc', Scene.Reaches .queue opening sc ∧ failing ∈ sc.present ∧ captured ∈ sc.present ∧
      Scene.Reaches .queue sc sc' ∧ ∀ last, Scene.Reaches .queue sc' last →
        last.traffic.ledger.status? 0 = some (.failed (.processingFailed "outer: inner")) ∧
        last.traffic.ledger.status? 1 =
          some (.failed (.processingFailed "processing panicked")) := by
  intro opening failing captured
  let panicking : Message := ⟨2, .mk .closure "" "" 0 (.panic "") .done⟩
  let w := opening.world
  let first : Scene := ⟨{ w with shared := (((w.shared.build failing.plan).2.build
    captured.plan).2.build panicking.plan).2 }, [panicking, captured, failing]⟩
  have built : Scene.Reaches .queue opening first :=
    ((Relation.ReflTransGen.single (.build failing.plan trivial)).tail
      (.build captured.plan trivial)).tail (.build panicking.plan trivial)
  have here : failing ∈ first.present ∧ captured ∈ first.present := by
    simp [Scene.present, present, Scene.held, first]
  have called : Scene.Reaches .queue first _ := .single (@Scene.Move.use .queue _
    [panicking, captured] [] 0 failing .process trivial trivial ⟨_, rfl, rfl, rfl⟩)
  have begun := called.tail (.step 0 rfl)
  have worked := begun.tail (.step 0 rfl)
  have left := worked.tail (.step 0 rfl)
  have published := left.tail (.step 0 rfl)
  have again := published.tail (@Scene.Move.use .queue _ [] [captured] 0 panicking .process trivial
    trivial ⟨_, rfl, rfl, rfl⟩)
  have begun := again.tail (.step 0 rfl)
  have unwinds := begun.tail (.step 0 rfl)
  have spilled := unwinds.tail (@Scene.Move.spill .queue _ [] [] 0 _ captured rfl
    (List.cons_ne_nil _ _))
  have settled {sc' : Scene} {m : Message} {error : ServerError} (reply : m.isReply)
      (here : m ∈ first.present) (run : Scene.Reaches .queue first sc')
      (failed : sc'.traffic.ledger.status? m.ticket = some (.failed error)) {last : Scene}
      (later : Scene.Reaches .queue sc' last) :
      last.traffic.ledger.status? m.ticket = some (.failed error) := by
    rcases (reply_settles built reply here run).1 with
      ⟨-, queued⟩ | ⟨-, fate, status, -, -, -, stays⟩
    · cases failed.symm.trans queued
    · rw [(stays last later).2.2, ← (stays sc' .refl).2.2, failed]
  exact ⟨first, _, built, here.1, here.2, spilled, fun last later =>
    ⟨settled (m := failing) rfl here.1 spilled rfl later,
      settled (m := captured) rfl here.2 spilled rfl later⟩⟩

end DispatchServer
