import DispatchServer.Proofs.Drain
import DispatchServer.Proofs.Replies

/-! What closing a queue comes to if a fail callback panics. Nothing catches the panic on its way
through the call, so the messages behind it stay where they are, and whoever closes the queue later
is told that it is closing already. -/
namespace DispatchServer

namespace Frame

/-- Frames that a panic unwinds, and what they leave. -/
inductive Unwinds (thread : String) : Shared → List Frame → Shared → Prop
  | ends {s : Shared} : Unwinds thread s [] s
  | step {s s' s'' : Shared} {f : Frame} {frames below : List Frame}
      (unwound : f.unwind thread s = (s', frames, true))
      (rest : Unwinds thread s' (frames ++ below) s'') : Unwinds thread s (f :: below) s''

/-- Frames that come to a panic by their own steps and are unwound by it. -/
inductive Falls (thread : String) : Shared → List Frame → Answer → Shared → String → Prop
  | panics {s s' : Shared} {device : Option Nat} {text : String} {held : List Message}
      {below : List Frame} {answer : Answer}
      (rest : Unwinds thread s (.run device (.panic text) held :: below) s') :
      Falls thread s (.run device (.panic text) held :: below) answer s' text
  | step {s s' s'' : Shared} {f : Frame} {frames below : List Frame} {answer answer' : Answer}
      {text : String} (moved : ∀ exits, f.step thread answer exits s = .moved s' frames answer')
      (rest : Falls thread s' (frames ++ below) answer' s'' text) :
      Falls thread s (f :: below) answer s'' text

variable {thread text : String} {s s' s'' : Shared} {answer answer' : Answer}
  {above below : List Frame}

theorem Unwinds.append (first : Unwinds thread s above s') (second : Unwinds thread s' below s'') :
    Unwinds thread s (above ++ below) s'' := by
  induction first with
  | ends => exact second
  | step unwound _ ih =>
    refine .step unwound ?_
    show Unwinds thread _ (_ ++ (_ ++ below)) _
    rw [← List.append_assoc]
    exact ih second

theorem Falls.append (first : Falls thread s above answer s' text)
    (second : Unwinds thread s' below s'') :
    Falls thread s (above ++ below) answer s'' text := by
  induction first with
  | panics rest => exact .panics (rest.append second)
  | step moved _ ih =>
    refine .step moved ?_
    show Falls thread _ (_ ++ (_ ++ below)) _ _ _
    rw [← List.append_assoc]
    exact ih second

theorem Runs.falls (first : Runs thread s above answer s' answer')
    (second : Falls thread s' below answer' s'' text) :
    Falls thread s (above ++ below) answer s'' text := by
  induction first with
  | ends => exact second
  | step moved _ ih =>
    refine .step moved ?_
    show Falls thread _ (_ ++ (_ ++ below)) _ _ _
    rw [← List.append_assoc]
    exact ih second

theorem unwinds_run (base : Nat) (thread : String) (device : Option Nat) (script : Script)
    (held : List Message) (s : Shared) :
    ∃ s', Unwinds thread s [.run device script held] s' ∧ s.Refuses base s' := by
  induction held generalizing s with
  | nil => exact ⟨s, .step rfl .ends, .of_silent rfl rfl rfl rfl rfl⟩
  | cons m held ih =>
    obtain ⟨s', unwinds, refuses⟩ := ih (s.drop m true)
    exact ⟨s', .step rfl unwinds, (s.refuses_drop m true).trans refuses⟩

end Frame

mutual

/-- A script that is not calm comes to a panic, whatever it has enqueued before. -/
theorem Script.falls {base : Nat} (thread : String) (script : Script) (held : List Message)
    (s : Shared) (answer : Answer) (closing : s.closing = true) (before : base ≤ s.ledger.next)
    (panics : script.calm = false) :
    ∃ s' text, Frame.Falls thread s [.run none script held] answer s' text ∧
      s.Refuses base s' := by
  match script with
  | .done | .fault _ => cases panics
  | .panic text =>
    obtain ⟨s', unwinds, refuses⟩ := Frame.unwinds_run base thread none (.panic text) held s
    exact ⟨s', text, .panics unwinds, refuses⟩
  | .act action next =>
    have acted : s.Refuses base (action.atOnce thread s) := action.refuses thread s
    obtain ⟨between, first⟩ := action.runs thread s .done closing
    obtain ⟨s', text, falls, refuses⟩ := next.falls thread held (action.atOnce thread s) between
      (acted.closing.trans closing) (before.trans acted.grows) panics
    have both := first.falls falls
    rw [← List.append_nil (_ ++ _)] at both
    exact ⟨s', text, .step (fun _ => rfl) both, acted.trans refuses⟩
  | .enqueue plan next =>
    let rejected := (s.build plan).2.record (.rejected s.ledger.next)
    have built : s.Refuses base (s.build plan).2 := s.refuses_build plan
    have next' : base ≤ rejected.ledger.next := before.trans built.grows
    cases first : plan.calm with
    | true =>
      have last : next.calm = false := by simpa [Script.calm, first] using panics
      have failed : s.Refuses base (plan.failAtOnce thread s.ledger.next rejected) :=
        (s.refuses_enqueue plan before).trans (plan.refuses thread _ _ next')
      have noted := failed.write ("enqueue " ++ plan.name ++ ": QueueClosed")
      obtain ⟨_, fails⟩ := plan.runs thread s.ledger.next rejected .done closing first
      obtain ⟨s', text, falls, refuses⟩ := next.falls thread held _ .done
        (noted.closing.trans closing) (before.trans noted.grows) last
      have enqueues : Frame.Runs thread (s.build plan).2 [.enqueue ⟨s.ledger.next, plan⟩] .done
        (plan.failAtOnce thread s.ledger.next rejected) .refused := Frame.runs_enqueue closing fails
      exact ⟨s', text, .step (fun _ => rfl) (enqueues.falls (.step (fun _ => rfl) falls)),
        noted.trans refuses⟩
    | false =>
      obtain ⟨s', text, falls, refuses⟩ :=
        plan.falls thread s.ledger.next rejected .done closing next' first
      obtain ⟨s'', unwinds, dropped⟩ := Frame.unwinds_run base thread none next held s'
      have rest : Frame.Unwinds thread s'
          [.reject, .noteEnqueue plan.name, .run none next held] s'' :=
        .step rfl (.step rfl unwinds)
      exact ⟨s'', text,
        .step (fun _ => rfl) (.step (fun _ => if_pos closing) (falls.append rest)),
        ((s.refuses_enqueue plan before).trans refuses).trans dropped⟩
  | .hold plan next =>
    have built : s.Refuses base (s.build plan).2 := s.refuses_build plan
    obtain ⟨s', text, falls, refuses⟩ := next.falls thread (held ++ [⟨s.ledger.next, plan⟩])
      (s.build plan).2 .done closing (before.trans built.grows) panics
    exact ⟨s', text, .step (fun _ => rfl) falls, built.trans refuses⟩

theorem Blueprint.falls {base : Nat} (thread : String) (plan : Blueprint) (ticket : Nat)
    (s : Shared) (answer : Answer) (closing : s.closing = true) (before : base ≤ s.ledger.next)
    (panics : plan.calm = false) :
    ∃ s' text, Frame.Falls thread s [.fail ⟨ticket, plan⟩ .queueClosed] answer s' text ∧
      (s.record (.returned ticket .queueClosed)).Refuses base s' := by
  match plan with
  | .mk .closure name desc device process fail =>
    let m : Message := ⟨ticket, .mk .closure name desc device process fail⟩
    have same : (s.record (.returned ticket .queueClosed)).Refuses base
      (s.record (.returned ticket .queueClosed)) := .of_silent rfl rfl rfl rfl rfl
    obtain ⟨s', text, falls, refuses⟩ := fail.falls thread [] ((s.record (.returned ticket
      .queueClosed)).write (failedLine m .queueClosed)) .done closing before
      (by simpa [Blueprint.calm] using panics)
    exact ⟨s', text, .step (fun _ => rfl) falls, (same.write _).trans refuses⟩
  | .mk .reply name desc device process fail => simp [Blueprint.calm] at panics

end

namespace Shared

variable {base : Nat} {s : Shared}

theorem exists_pop_of_cons {m : Message} {messages : List Message}
    (list : s.channel.toList = m :: messages) :
    ∃ rest, s.channel.pop? = some (m, rest) ∧ rest.toList = messages := by
  cases popped : s.channel.pop? with
  | none =>
    rw [(Channel.pop?_eq_none_iff _).1 popped] at list
    cases list
  | some pair =>
    obtain ⟨first, rest⟩ := pair
    rw [Channel.toList_of_pop? popped] at list
    obtain ⟨rfl, same⟩ := List.cons.inj list
    exact ⟨rest, rfl, same⟩

theorem falls_drain {m : Message} {before after : List Message} (thread : String) (s : Shared)
    (returned : Nat) (answer : Answer) (list : s.channel.toList = before ++ m :: after)
    (closing : s.closing = true) (next : base ≤ s.ledger.next)
    (built : ∀ k ∈ (before ++ [m]).map Message.ticket, k < base)
    (calm : ∀ m' ∈ before, m'.plan.calm) (panics : m.plan.calm = false) :
    ∃ s' text new, Frame.Falls thread s [.drain returned] answer s' text ∧
      s'.closing = s.closing ∧ s'.sealed = s.sealed ∧ s'.channel.toList = after ∧
      s'.rig.history.events = s.rig.history.events ++ new ∧
      Refusals base ((before ++ [m]).map Message.ticket) new s.ledger.next s'.ledger.next := by
  -- Over the messages in front of the one that panics, each of which is failed to the end.
  induction before generalizing s returned answer with
  | nil =>
    obtain ⟨rest, popped, left⟩ := exists_pop_of_cons list
    obtain ⟨s', text, falls, refuses⟩ := m.plan.falls thread m.ticket
      (Shared.record { s with channel := rest } (.received m.ticket)) .done closing next panics
    obtain ⟨nested, told, refusals⟩ := refuses.events
    have through : Frame.Unwinds thread s' [.drain (returned + 1)] s' := .step rfl .ends
    refine ⟨s', text, [.received m.ticket, .returned m.ticket .queueClosed] ++ nested,
      .step (step_drain popped returned thread answer) (falls.append through), refuses.closing,
      refuses.sealed, ?_, ?_, ?_⟩
    · rw [refuses.channel]
      exact left
    · rw [told, s.events_received m rest, List.append_assoc]
    · exact (Refusals.drains (built _ (by simp))).append refusals
  | cons first before ih =>
    obtain ⟨rest, popped, left⟩ := exists_pop_of_cons list
    let received := Shared.record { s with channel := rest } (.received first.ticket)
    have refuses : (received.record (.returned first.ticket .queueClosed)).Refuses base
      (first.failAtOnce thread received) := first.plan.refuses thread first.ticket received next
    obtain ⟨between, fails⟩ := first.plan.runs thread first.ticket received .done closing
      (calm first List.mem_cons_self)
    obtain ⟨nested, told, refusals⟩ := refuses.events
    obtain ⟨s', text, new, falls, closing', sealed', left', told', refusals'⟩ :=
      ih (first.failAtOnce thread received) (returned + 1) between
        (by rw [refuses.channel]; exact left) (refuses.closing.trans closing)
        (next.trans refuses.grows) (fun k member => built k (List.mem_cons_of_mem _ member))
        (fun m' member => calm m' (List.mem_cons_of_mem _ member))
    refine ⟨s', text,
      [.received first.ticket, .returned first.ticket .queueClosed] ++ nested ++ new,
      .step (step_drain popped returned thread answer) (fails.falls falls),
      closing'.trans refuses.closing,
      sealed'.trans refuses.sealed, left', ?_, ?_⟩
    · rw [told', told, s.events_received first rest, List.append_assoc, List.append_assoc,
        List.append_assoc]
    · exact ((Refusals.drains (built _ List.mem_cons_self)).append refusals).append refusals'

end Shared

namespace World

variable {w : World} {t : Nat} {name text : String} {answer : Answer} {below : List Frame}

theorem advanceFor_of_panicked {device : Option Nat} {held : List Message}
    (here : w.threads[t]? =
      some ⟨name, .run device (.panic text) held :: below, answer, none⟩) :
    ∃ v : World, v.shared = w.shared ∧ v.threads[t]? =
        some ⟨name, .run device (.panic text) held :: below, answer, some text⟩ ∧
      ∀ steps, w.advanceFor t (steps + 1) = v.advanceFor t steps := by
  refine ⟨⟨w.shared, w.threads.set t _⟩, rfl, getElem?_set_here here, fun steps => ?_⟩
  simp only [advanceFor, step, here, Thread.step, Frame.step, Script.step]

theorem advanceFor_of_unwound {f : Frame} {frames : List Frame} {s' : Shared}
    (here : w.threads[t]? = some ⟨name, f :: below, answer, some text⟩)
    (unwound : f.unwind name w.shared = (s', frames, true)) :
    ∃ v : World, v.shared = s' ∧
      v.threads[t]? = some ⟨name, frames ++ below, answer, some text⟩ ∧
      ∀ steps, w.advanceFor t (steps + 1) = v.advanceFor t steps := by
  refine ⟨⟨s', w.threads.set t _⟩, rfl, getElem?_set_here here, fun steps => ?_⟩
  simp only [advanceFor, step, here, Thread.step, unwound, if_true]

end World

theorem Frame.Unwinds.alone {name text : String} {s s' : Shared} {frames : List Frame}
    (unwinds : Unwinds name s frames s') {t : Nat} {w : World} {below : List Frame}
    {answer : Answer} (state : w.shared = s)
    (here : w.threads[t]? = some ⟨name, frames ++ below, answer, some text⟩) :
    ∃ n, (w.advanceFor t n).shared = s' ∧
      (w.advanceFor t n).threads[t]? = some ⟨name, below, answer, some text⟩ := by
  induction unwinds generalizing w with
  | ends => exact ⟨0, state, here⟩
  | @step s s₁ s' f frames rest unwound _ ih =>
    subst state
    obtain ⟨v, state, here', advance⟩ := World.advanceFor_of_unwound here unwound
    replace here' : v.threads[t]? = some ⟨name, (frames ++ rest) ++ below, answer, some text⟩ := by
      rw [here', List.append_assoc]
      rfl
    obtain ⟨n, last, back⟩ := ih state here'
    rw [← advance] at last back
    exact ⟨n + 1, last, back⟩

theorem Frame.Falls.alone {name text : String} {s s' : Shared} {frames : List Frame}
    {answer : Answer} (falls : Falls name s frames answer s' text) {t : Nat} {w : World}
    {below : List Frame} (state : w.shared = s)
    (here : w.threads[t]? = some ⟨name, frames ++ below, answer, none⟩) :
    ∃ n left, (w.advanceFor t n).shared = s' ∧
      (w.advanceFor t n).threads[t]? = some ⟨name, below, left, some text⟩ := by
  induction falls generalizing w with
  | @panics s s' device text held rest answer unwinds =>
    subst state
    obtain ⟨v, state, here', advance⟩ := World.advanceFor_of_panicked here
    obtain ⟨n, last, back⟩ := unwinds.alone state here'
    rw [← advance] at last back
    exact ⟨n + 1, answer, last, back⟩
  | @step s s₁ s' f frames rest answer answer₁ text moved _ ih =>
    subst state
    obtain ⟨v, state, here', advance⟩ := World.advanceFor_of_moved here (moved w.exits)
    replace here' : v.threads[t]? = some ⟨name, (frames ++ rest) ++ below, answer₁, none⟩ := by
      rw [here', List.append_assoc]
      rfl
    obtain ⟨n, left, last, back⟩ := ih state here'
    rw [← advance] at last back
    exact ⟨n + 1, left, last, back⟩

/-- Closing a queue ends with the first message whose fail callback panics: that message and those
before it are taken out of the queue and failed, in their order, and the panic goes on in the frames
below. The messages behind it stay in the queue, which takes no further ones, and their producers
are told to wait. Whoever closes the queue again finds nothing to do. -/
theorem close_strands_rest {rig : Rig} {devices : DeviceSet} {robin : RoundRobin} {sc : Scene}
    {t : Nat} {name : String} {below : List Frame} {left : Answer} {m : Message}
    {before after : List Message}
    (run : Scene.Reaches .queue (.opening rig devices robin) sc)
    (here : sc.world.threads[t]? = some ⟨name, .close :: below, left, none⟩)
    (opened : sc.world.shared.closing = false)
    (waiting : sc.world.shared.channel.toList = before ++ m :: after)
    (calm : ∀ m' ∈ before, m'.plan.calm) (panics : m.plan.calm = false) :
    ∃ steps last text answer new, sc.world.advanceFor t steps = last ∧
      last.threads[t]? = some ⟨name, below, answer, some text⟩ ∧
      last.shared.closing = true ∧ last.shared.sealed = true ∧
      last.shared.channel.toList = after ∧
      last.shared.rig.history.events = sc.world.shared.rig.history.events ++ new ∧
      new.filterMap Event.sent? = [] ∧ new.filterMap Event.begun? = [] ∧
      new.filterMap Event.received? = (before ++ [m]).map Message.ticket ∧
      sc.world.shared.queued.Nodup ∧
      (new.filterMap Event.returned?).filter (·.1 ∈ sc.world.shared.queued) =
        (before ++ [m]).map (·.ticket, .queueClosed) ∧
      (new.filterMap Event.returned?).filter (·.1 ∉ sc.world.shared.queued) =
        (new.filterMap Event.rejected?).map (·, .queueClosed) ∧
      (∀ m' ∈ after, m'.isReply → last.shared.ledger.status? m'.ticket = some .queued) ∧
      ∀ offered later u other rest left, Scene.Reaches offered ⟨last, sc.hands⟩ later →
        later.world.threads[u]? = some ⟨other, .close :: rest, left, none⟩ →
        ∃ v, later.world.step u = some v ∧ v.shared = later.world.shared ∧
          v.threads[u]? = some ⟨other, rest, .count 0, none⟩ := by
  obtain ⟨w, hands⟩ := sc
  have opening := Scene.sound_opening rig devices robin
  have sound := run.sound opening
  obtain ⟨nodup, built⟩ := sound.queued
  replace opened : w.shared.closing = false := opened
  have queued :
      w.shared.queued = (before ++ [m]).map Message.ticket ++ after.map Message.ticket := by
    rw [Shared.queued, waiting, ← List.map_append, List.append_assoc]
    rfl
  have among : (before ++ [m]).map Message.ticket ⊆ w.shared.queued := by
    rw [queued]
    exact List.subset_append_left _ _
  obtain ⟨s', text, new, falls, closing, sealed, rest, told, refusals⟩ :=
    w.shared.shut.falls_drain name 0 .done waiting rfl le_rfl
      (fun k member => built k (among member)) calm panics
  have shuts : Frame.Falls name { w.shared with closing := true } [.closeChannel] .done s' text :=
    .step (fun _ => rfl) falls
  obtain ⟨v, state, here', advance⟩ := World.advanceFor_of_moved here (if_neg (by simp [opened]))
  obtain ⟨n, answer, last, back⟩ := shuts.alone state here'
  rw [← advance] at last back
  obtain ⟨drained, refused⟩ := refusals.failures among built
  rw [List.map_map] at drained
  have alone : Scene.Reaches .queue ⟨w, hands⟩ ⟨w.advanceFor t (n + 1), hands⟩ :=
    Scene.reaches_of_steps hands (World.reaches_advanceFor w t _)
  have final : Scene.Reaches .queue (.opening rig devices robin) _ := run.trans alone
  refine ⟨n + 1, _, text, answer, new, rfl, back, by rw [last, closing]; rfl,
    by rw [last, sealed]; rfl, by rw [last, rest], by rw [last, told]; rfl, refusals.sent,
    refusals.begun, refusals.received, nodup, drained, refused, fun m' member reply => ?_,
    fun offered later u other rest left onward there => ?_⟩
  · have truthful := final.truthful opening (Scene.truthful_opening rig devices robin)
    have here : m' ∈ (w.advanceFor t (n + 1)).shared.channel.toList := by rwa [last, rest]
    exact (truthful m' (Multiset.mem_add.2 (.inl (Multiset.mem_add.2 (.inr here)))) reply).queued
  · have closing' := (onward.closing (alone.sound sound)).1 (by rw [last, closing]; rfl)
    exact World.step_of_close closing' there

def World.stranding : World :=
  (World.enqueuing (Scene.opening (.ofHost (.ofSizes [] false) .always .none) ⟨0, [], []⟩
    ⟨0, 1⟩).world (.mk .closure "" "" 0 .done (.panic "lost"))).enqueuing
      (.mk .reply "" "" 0 .done .done)

theorem World.reaches_stranding :
    Scene.Reaches .queue (.opening (.ofHost (.ofSizes [] false) .always .none) ⟨0, [], []⟩ ⟨0, 1⟩)
      ⟨World.stranding, []⟩ := by
  let opening := Scene.opening (.ofHost (.ofSizes [] false) .always .none) ⟨0, [], []⟩ ⟨0, 1⟩
  have first : Scene.Reaches .queue opening _ := @World.reaches_enqueuing opening.world
    (.mk .closure "" "" 0 .done (.panic "lost")) ⟨.idle mainThread, rfl, rfl, rfl⟩
  exact first.trans (World.reaches_enqueuing (.mk .reply "" "" 0 .done .done) (by decide +kernel))

/-- The reply is left in the queue. -/
theorem close_strands_rest_of_stranding :
    ∃ steps text answer, World.stranding.shared.queued = [0, 1] ∧
      ((World.stranding.assign mainNumber [.close]).advanceFor mainNumber
          steps).threads[mainNumber]? = some ⟨mainThread, [], answer, some text⟩ ∧
      ((World.stranding.assign mainNumber [.close]).advanceFor mainNumber
          steps).shared.queued = [1] := by
  have facts : (∃ thread ∈ World.stranding.threads[mainNumber]?,
      thread.idles ∧ thread.name = mainThread) ∧ World.stranding.shared.closing = false ∧
      World.stranding.shared.queued = [0, 1] ∧
      World.stranding.shared.channel.toList.map (·.plan.calm) = [false, true] := by
    decide +kernel
  obtain ⟨⟨thread, there, idle, name⟩, opened, queued, calm⟩ := facts
  have closes := World.reaches_stranding.tail
    (.call mainNumber .close trivial trivial ⟨thread, there, idle⟩)
  have here : (World.stranding.assign mainNumber [.close]).threads[mainNumber]? =
      some ⟨mainThread, [.close], .done, none⟩ := by
    rw [World.assign_eq there, ← name]
    exact getElem?_set_here there
  obtain ⟨m, r, waiting⟩ : ∃ m r, World.stranding.shared.channel.toList = [m, r] :=
    List.length_eq_two.1 (by simpa using congrArg List.length calm)
  rw [waiting] at calm
  have panics : m.plan.calm = false := by simpa using congrArg List.head? calm
  obtain ⟨steps, last, text, answer, new, rfl, back, -, -, left, -⟩ :=
    @close_strands_rest _ _ _ _ _ _ _ _ m [] [r] closes here opened waiting (by simp) panics
  refine ⟨steps, text, answer, queued, back, ?_⟩
  have tickets : [m.ticket, r.ticket] = [0, 1] := by
    rw [← queued, Shared.queued, waiting]
    rfl
  refine (congrArg (List.map Message.ticket) left).trans ?_
  exact congrArg List.tail tickets

/-- Neither the close that the panic ends nor one after it fails the reply, which is still in the
queue, and its producer is still told to wait. -/
theorem close_leaves_reply_queued :
    let closed := World.stranding.call mainNumber [.close]
    let again := closed.call mainNumber [.close]
    Scene.Reaches .queue
        (.opening (.ofHost (.ofSizes [] false) .always .none) ⟨0, [], []⟩ ⟨0, 1⟩) ⟨again, []⟩ ∧
      World.stranding.shared.closing = false ∧ World.stranding.shared.queued = [0, 1] ∧
      closed.panic? mainNumber = some "lost" ∧ closed.finished mainNumber = true ∧
      again.panic? mainNumber = none ∧ again.finished mainNumber = true ∧
      again.shared.queued = [1] ∧ again.shared.ledger.status? 1 = some .queued ∧
      again.shared.rig.history.events.filterMap Event.returned? = [(0, .queueClosed)] := by
  intro closed again
  have facts : (∃ thread ∈ World.stranding.threads[mainNumber]?, thread.idles) ∧
      (∃ thread ∈ (World.stranding.call mainNumber [.close]).threads[mainNumber]?,
        thread.idles) := by decide +kernel
  obtain ⟨first, second⟩ := facts
  have run {w : World} (reaches : Scene.Reaches .queue (.opening (.ofHost (.ofSizes [] false)
      .always .none) ⟨0, [], []⟩ ⟨0, 1⟩) ⟨w, []⟩)
      (idle : ∃ thread ∈ w.threads[mainNumber]?, thread.idles) :
      Scene.Reaches .queue (.opening (.ofHost (.ofSizes [] false) .always .none) ⟨0, [], []⟩
        ⟨0, 1⟩) ⟨w.call mainNumber [.close], []⟩ :=
    (reaches.tail (.call mainNumber .close trivial trivial idle)).trans
      (Scene.reaches_of_steps [] (World.reaches_advanceFor _ _ _))
  refine ⟨run (run World.reaches_stranding first) second, ?_⟩
  decide +kernel

end DispatchServer
