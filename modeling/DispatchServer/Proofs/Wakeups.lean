import DispatchServer.Proofs.Lineage
import DispatchServer.Proofs.Rounds

/-! A receive tests the token, looks into the channel, and waits for both; a cancellation sets the
flag and then wakes. However their steps interleave, nobody sleeps through a cancellation, and
nobody who is woken by one takes a message with him. -/
namespace DispatchServer

def Frame.rousing : Frame → Nat
  | wake => 1
  | _ => 0

namespace Frame

/-- What a step does to the token. -/
inductive Stirs (s s' : Shared) (f : Frame) (frames : List Frame) : Prop
  | stays (apart : f.rousing = 0) (cancelled : s'.cancelled = s.cancelled)
      (woken : s'.woken = s.woken) (none : (frames.map rousing).sum = 0)
  | sets (own : f = .cancel) (cancelled : s'.cancelled = true) (woken : s'.woken = s.woken)
      (frames : frames = [.wake])
  | wakes (own : f = .wake) (cancelled : s'.cancelled = s.cancelled) (woken : s'.woken = true)
      (frames : frames = [])

variable {f : Frame} {thread : String} {answer answer' : Answer} {exits : Nat → Option Exit}
  {s s' : Shared} {frames : List Frame} {goesOn : Bool}

theorem step_stirs (h : f.step thread answer exits s = .moved s' frames answer') :
    f.Stirs s s' frames := by
  cases moves_of_step h with
  | cancels => exact .sets rfl rfl rfl rfl
  | wakes => exact .wakes rfl rfl rfl rfl
  | _ => exact .stays rfl rfl rfl rfl

theorem unwind_quiet (h : f.unwind thread s = (s', frames, goesOn)) :
    s'.cancelled = s.cancelled ∧ s'.woken = s.woken ∧ (frames.map rousing).sum = 0 := by
  cases f with
  | run device script held => cases held <;> cases h <;> exact ⟨rfl, rfl, rfl⟩
  | leave held given => cases held <;> cases h <;> exact ⟨rfl, rfl, rfl⟩
  | unpin buffers => cases buffers <;> cases h <;> exact ⟨rfl, rfl, rfl⟩
  | _ => cases h; exact ⟨rfl, rfl, rfl⟩

end Frame

namespace Thread

def rousing (thread : Thread) : Nat := (thread.frames.map Frame.rousing).sum

/-- What a step of a thread does to the token: nothing, or it sets the flag, after which it is about
to wake those who wait, or it wakes them. A panic may keep it from that, but not one of its own. -/
inductive Stirs (s s' : Shared) (thread thread' : Thread) : Prop
  | stays (apart : ¬ thread.Poised .wake) (cancelled : s'.cancelled = s.cancelled)
      (woken : s'.woken = s.woken) (fewer : thread'.rousing ≤ thread.rousing)
  | sets (poised : thread'.Poised .wake) (cancelled : s'.cancelled = true)
      (woken : s'.woken = s.woken) (more : thread'.rousing = thread.rousing + 1)
  | wakes (cancelled : s'.cancelled = s.cancelled) (woken : s'.woken = true)
      (fewer : thread'.rousing + 1 = thread.rousing)

variable {thread thread' : Thread} {exits : Nat → Option Exit} {s s' : Shared}

theorem rousing_cons {f : Frame} {rest : List Frame} (top : thread.frames = f :: rest) :
    thread.rousing = f.rousing + (rest.map Frame.rousing).sum := by
  rw [rousing, top, List.map_cons, List.sum_cons]

theorem Steps.stirs (steps : thread.Steps exits s s' thread') : thread.Stirs s s' thread' := by
  have rousing_append (frames rest : List Frame) (answer : Answer) (panicking : Option String) :
      rousing ⟨thread.name, frames ++ rest, answer, panicking⟩ =
        (frames.map Frame.rousing).sum + (rest.map Frame.rousing).sum := by
    rw [rousing, List.map_append, List.sum_append]
  cases steps with
  | @moved f rest frames answer s' top calm h =>
    have before := rousing_cons top
    have after := rousing_append frames rest answer thread.panicking
    cases Frame.step_stirs h with
    | stays apart cancelled woken none =>
      have other : f ≠ .wake := by
        rintro rfl
        cases apart
      exact .stays (not_poised top other) cancelled woken (by omega)
    | sets own cancelled woken frames =>
      subst own frames
      exact .sets ⟨calm, rfl⟩ cancelled woken (by rw [after, before]; simp [Frame.rousing]; omega)
    | wakes own cancelled woken frames =>
      subst own frames
      exact .wakes cancelled woken (by rw [after, before]; simp [Frame.rousing]; omega)
  | panicked top calm => exact .stays (not_poised top (by simp)) rfl rfl le_rfl
  | @unwound f rest frames text s' goesOn top panics h =>
    have before := rousing_cons top
    have after := rousing_append frames rest thread.answer (if goesOn then some text else none)
    obtain ⟨cancelled, woken, none⟩ := Frame.unwind_quiet h
    refine .stays (fun poised => ?_) cancelled woken (by omega)
    rw [poised.1] at panics
    cases panics

end Thread

namespace Scene

variable {offered : Interface} {sc sc' : Scene} {t : Nat}

def rousing (sc : Scene) : Nat := (sc.world.threads.map Thread.rousing).sum

/-- What a move does to the token. -/
inductive Stirs (sc sc' : Scene) : Prop
  | stays (cancelled : sc'.world.shared.cancelled = sc.world.shared.cancelled)
      (woken : sc'.world.shared.woken = sc.world.shared.woken) (fewer : sc'.rousing ≤ sc.rousing)
      (poised : ∀ thread ∈ sc.world.threads, thread.Poised .wake → thread ∈ sc'.world.threads)
  | sets (cancelled : sc'.world.shared.cancelled = true)
      (woken : sc'.world.shared.woken = sc.world.shared.woken)
      (more : sc'.rousing = sc.rousing + 1)
      (poised : ∃ thread ∈ sc'.world.threads, thread.Poised .wake)
  | wakes (cancelled : sc'.world.shared.cancelled = sc.world.shared.cancelled)
      (woken : sc'.world.shared.woken = true) (fewer : sc'.rousing + 1 = sc.rousing)

theorem Move.stirs (h : Move offered sc sc') : sc.Stirs sc' := by
  cases h.shift with
  | steps t goes =>
    obtain ⟨thread, thread', s', here, steps, rfl⟩ := World.steps_of_step goes
    have sum := sum_map_set Thread.rousing thread' here
    cases steps.stirs with
    | stays apart cancelled woken fewer =>
      refine .stays cancelled woken (by simp only [rousing]; omega) fun other member poised => ?_
      refine (mem_set_or_here member).resolve_right fun there => apart ?_
      rwa [Option.some.inj (here.symm.trans there)]
    | sets poised cancelled woken more =>
      exact .sets cancelled woken (by simp only [rousing]; omega)
        ⟨thread', mem_set_here here, poised⟩
    | wakes cancelled woken fewer => exact .wakes cancelled woken (by simp only [rousing]; omega)
  | starts name =>
    refine .stays rfl rfl ?_ fun thread member _ => List.mem_append_left _ member
    simp [rousing, World.start, Thread.rousing, Thread.idle]
  | builds | spills | signals => exact .stays rfl rfl le_rfl fun _ member _ => member
  | @calls w _ _ u caller frames here free errand =>
    have none : (Thread.calling caller.name frames).rousing = 0 := by
      cases errand with
      | service service => cases service <;> rfl
      | use use => cases use <;> rfl
      | nothing => rfl
    have sum := sum_map_set Thread.rousing (.calling caller.name frames) here
    rw [World.assign_eq here]
    refine .stays rfl rfl (by simp only [rousing]; omega) fun thread member poised => ?_
    refine (mem_set_or_here member).resolve_right fun there => ?_
    obtain rfl := Option.some.inj (here.symm.trans there)
    rcases free with none | ⟨ticket, waits⟩
    · exact absurd poised.2 (by simp [none])
    · exact absurd poised (Thread.not_poised waits (by simp))

/-- If the token is cancelled, those who wait for it were woken, or somebody is about to do that. -/
def Rouses (sc : Scene) : Prop :=
  sc.world.shared.cancelled = true →
    sc.world.shared.woken = true ∨ ∃ thread ∈ sc.world.threads, thread.Poised .wake

theorem Stirs.rouses (stirs : sc.Stirs sc') (rouses : sc.Rouses) : sc'.Rouses := by
  intro now
  cases stirs with
  | stays cancelled woken _ poised =>
    refine (rouses (cancelled.symm.trans now)).imp woken.trans ?_
    rintro ⟨thread, member, ready⟩
    exact ⟨thread, poised thread member ready, ready⟩
  | sets _ _ _ poised => exact .inr poised
  | wakes _ woken => exact .inl woken

/-- The token is in the state that cancellations have brought one to, and whoever has yet to wake
those who wait for it is one of them. -/
structure Mirrors (sc : Scene) (l : Lineage) : Prop where
  reaches : Lineage.Reaches .none l
  known : 0 < l.origins.length
  family : l.tokens.family? 0 = some ⟨sc.world.shared.cancelled, sc.world.shared.woken⟩
  pending : sc.rousing ≤ l.tokens.calls.countP (· = ⟨.cancel, 0, .wakeup⟩)

theorem Stirs.mirrors (stirs : sc.Stirs sc') {l : Lineage} (mirrors : sc.Mirrors l) :
    ∃ m, sc'.Mirrors m := by
  obtain ⟨reaches, known, family, pending⟩ := mirrors
  cases stirs with
  | stays cancelled woken fewer =>
    exact ⟨l, reaches, known, by rw [family, cancelled, woken], fewer.trans pending⟩
  | sets cancelled woken more =>
    have here : (l.tokens.begin .cancel 0).calls[l.tokens.calls.length]? =
        some ⟨.cancel, 0, .flag⟩ := List.getElem?_concat_length
    refine ⟨_, (reaches.tail (.begin .cancel known)).tail (.step (Tokens.step_sets here)), known,
      ?_, ?_⟩
    · have same : (l.tokens.begin .cancel 0).family? 0 = l.tokens.family? 0 := rfl
      refine (Tokens.family?_modify ..).trans ?_
      rw [if_pos rfl, same, family, cancelled, woken]
      rfl
    · rw [more]
      simpa [Tokens.answered, Tokens.begin] using pending
  | wakes cancelled woken fewer =>
    have some : 0 < l.tokens.calls.countP (· = ⟨.cancel, 0, .wakeup⟩) := by omega
    obtain ⟨call, member, same⟩ := List.countP_pos_iff.1 some
    obtain ⟨number, here⟩ := List.getElem?_of_mem member
    obtain rfl : call = ⟨.cancel, 0, .wakeup⟩ := by simpa using same
    refine ⟨_, reaches.tail (.step (Tokens.step_wakes here)), known, ?_, ?_⟩
    · refine (Tokens.family?_modify ..).trans ?_
      rw [if_pos rfl, family, cancelled, woken]
      rfl
    · obtain ⟨bound, own⟩ := List.getElem?_eq_some_iff.1 here
      simp only [Tokens.answered, Tokens.calls_modify]
      rw [List.countP_set bound, own]
      simp
      omega

theorem mirrors_opening (rig : Rig) (devices : DeviceSet) (robin : RoundRobin) :
    ∃ l, (opening rig devices robin).Mirrors l :=
  ⟨_, .single .fresh, by simp, rfl, le_rfl⟩

theorem Reaches.stirred (run : Reaches offered sc sc') (rouses : sc.Rouses)
    (mirrors : ∃ l, sc.Mirrors l) : sc'.Rouses ∧ ∃ l, sc'.Mirrors l := by
  induction run with
  | refl => exact ⟨rouses, mirrors⟩
  | tail _ move ih =>
    obtain ⟨l, mirrors⟩ := ih.2
    exact ⟨move.stirs.rouses ih.1, move.stirs.mirrors mirrors⟩

end Scene

namespace Frame

def patience : Frame → Nat
  | park => 3
  | poll _ => 2
  | _ => 1

theorem patience_pos (f : Frame) : 0 < f.patience ∧ f.patience ≤ 3 := by
  cases f <;> simp [patience]

variable {f : Frame} {thread : String} {answer answer' : Answer} {exits : Nat → Option Exit}
  {s s' : Shared} {frames : List Frame}

/-- A step within a receive takes the oldest message for its caller, or gives nothing, or goes on;
in the two latter cases the channel stays as it is. -/
theorem step_receives (awaits : f.awaits)
    (h : f.step thread answer exits s = .moved s' frames answer') :
    (∃ m, frames = [] ∧ answer' = .received (some m) ∧
      s.channel.toList = m :: s'.channel.toList) ∨
    (frames = [] ∧ answer' = .received none ∧ s' = s ∧
      (s.cancelled = true ∨ s.woken = true ∨ (s.sealed = true ∧ s.channel.toList = []))) ∨
    ∃ g, frames = [g] ∧ answer' = .done ∧ s' = s ∧ g.awaits ∧
      (s.cancelled = true → s.woken = true → g.patience < f.patience) := by
  cases moves_of_step h with
  | dequeuesNone cancelled | heedsNone cancelled =>
    exact .inr (.inl ⟨rfl, rfl, rfl, .inl cancelled⟩)
  | dequeues going | heeds going =>
    exact .inr (.inr ⟨_, rfl, rfl, rfl, rfl, fun set => by simp [going] at set⟩)
  | receives popped => exact .inl ⟨_, rfl, rfl, Channel.toList_of_pop? popped⟩
  | pollsNone empty shut =>
    exact .inr (.inl ⟨rfl, rfl, rfl, .inr (.inr ⟨shut, (Channel.pop?_eq_none_iff _).1 empty⟩)⟩)
  | awaitsNone woken => exact .inr (.inl ⟨rfl, rfl, rfl, .inr (.inl woken)⟩)
  | awaits asleep =>
    exact .inr (.inr ⟨_, rfl, rfl, rfl, rfl, fun _ woken => by simp [asleep] at woken⟩)
  | polls | pollsAgain | rises =>
    exact .inr (.inr ⟨_, rfl, rfl, rfl, rfl, fun _ _ => by simp [patience]⟩)
  | _ => cases awaits

end Frame

namespace Scene

variable {sc sc' : Scene} {t : Nat} {name : String} {f : Frame} {below : List Frame} {left : Answer}

/-- What a step of its own does to a thread that is in a receive at this frame. -/
inductive Receipt (sc sc' : Scene) (t : Nat) (name : String) (f : Frame) (below : List Frame) : Prop
  | goesOn {g : Frame} (here : sc'.world.threads[t]? = some ⟨name, g :: below, .done, none⟩)
      (awaits : g.awaits) (same : sc'.world.shared = sc.world.shared)
      (nearer : sc.world.shared.woken = true → g.patience < f.patience)
  | takes {m : Message}
      (here : sc'.world.threads[t]? = some ⟨name, below, .received (some m), none⟩)
      (channel : sc.world.shared.channel.toList = m :: sc'.world.shared.channel.toList)
  | leaves (here : sc'.world.threads[t]? = some ⟨name, below, .received none, none⟩)
      (same : sc'.world.shared = sc.world.shared)
      (reason : sc.world.shared.cancelled = true ∨
        sc.world.shared.sealed = true ∧ sc.world.shared.channel.toList = [])

theorem receipt_of_steps {thread' : Thread} (alert : sc.world.Alert) (awaits : f.awaits)
    (steps : Thread.Steps ⟨name, f :: below, left, none⟩ sc.world.exits sc.world.shared
      sc'.world.shared thread') (here' : sc'.world.threads[t]? = some thread') :
    sc.Receipt sc' t name f below := by
  obtain ⟨frames, answer, h, rfl⟩ := steps.of_calm (by rintro _ _ _ rfl; cases awaits)
  rcases Frame.step_receives awaits h with ⟨m, rfl, rfl, channel⟩ | ⟨rfl, rfl, same, reason⟩ |
    ⟨g, rfl, rfl, same, awaits, nearer⟩
  · exact .takes here' channel
  · refine .leaves here' same ?_
    rcases reason with cancelled | woken | closed
    · exact .inl cancelled
    · exact .inl (alert.woken woken)
    · exact .inr closed
  · exact .goesOn here' awaits same fun woken => nearer (alert.woken woken) woken

theorem Goes.receipt (goes : sc.Goes t sc') (alert : sc.world.Alert)
    (here : sc.world.threads[t]? = some ⟨name, f :: below, left, none⟩) (awaits : f.awaits) :
    sc.Receipt sc' t name f below := by
  obtain ⟨thread, thread', s', there, steps, same⟩ := World.steps_of_step goes.1
  obtain rfl := Option.some.inj (here.symm.trans there)
  have here' : sc'.world.threads[t]? = some thread' := by
    rw [same]
    exact getElem?_set_here here
  exact receipt_of_steps alert awaits (by rwa [same]) here'

theorem Move.receipt {offered : Interface} (h : Move offered sc sc') (alert : sc.world.Alert)
    (here : sc.world.threads[t]? = some ⟨name, f :: below, left, none⟩) (awaits : f.awaits) :
    sc'.world.threads[t]? = some ⟨name, f :: below, left, none⟩ ∨
      sc.Receipt sc' t name f below := by
  rcases h.thread_cases here with here' | ⟨s', thread', steps, rfl, here'⟩ | none | ⟨_, waits, -⟩
  · exact .inl here'
  · exact .inr (receipt_of_steps alert awaits steps here')
  · cases none
  · obtain ⟨rfl, -⟩ := List.cons.inj waits
    cases awaits

theorem step_of_woken {w : World}
    (here : w.threads[t]? = some ⟨name, f :: below, left, none⟩) (awaits : f.awaits)
    (woken : w.shared.woken = true) : ∃ v, w.step t = some v := by
  refine Option.ne_none_iff_exists'.1 fun stuck => ?_
  cases World.blocks_of_stuck here stuck with
  | parks _ _ asleep => simp [woken] at asleep
  | listens | joins | awaits => cases awaits

/-- If the token is cancelled, nobody is left in a receive: he can go on, or somebody else is about
to wake him, and then he can. -/
theorem Rouses.released (rouses : sc.Rouses)
    (here : sc.world.threads[t]? = some ⟨name, f :: below, left, none⟩) (awaits : f.awaits)
    (cancelled : sc.world.shared.cancelled = true) :
    (∃ v, sc.world.step t = some v) ∨ ∃ u rouser v, u ≠ t ∧ sc.world.threads[u]? = some rouser ∧
      rouser.Poised .wake ∧ sc.world.step u = some v ∧ v.shared.woken = true ∧
        v.threads[t]? = some ⟨name, f :: below, left, none⟩ := by
  rcases rouses cancelled with woken | ⟨rouser, member, poised⟩
  · exact .inl (step_of_woken here awaits woken)
  right
  obtain ⟨u, there⟩ := List.getElem?_of_mem member
  have apart : u ≠ t := by
    rintro rfl
    obtain rfl := Option.some.inj (here.symm.trans there)
    obtain rfl : f = .wake := Option.some.inj poised.2
    cases awaits
  obtain ⟨other, frames, answer, panicking⟩ := rouser
  obtain ⟨rfl, head⟩ := poised
  obtain ⟨rest, rfl⟩ := List.head?_eq_some_iff.1 head
  have goes := World.step_of_moved there rfl
  exact ⟨u, _, _, apart, there, ⟨rfl, head⟩, goes, rfl, (List.getElem?_set_ne apart).trans here⟩

inductive Lingers (t : Nat) (below : List Frame) (sc : Scene) : Nat → Scene → Prop
  | begins : Lingers t below sc 0 sc
  | aside {n : Nat} {sc' sc'' : Scene} (run : Lingers t below sc n sc') (h : Move .queue sc' sc'')
      (still : sc''.world.threads[t]? = sc'.world.threads[t]?) : Lingers t below sc n sc''
  | goes {n : Nat} {sc' sc'' : Scene} (run : Lingers t below sc n sc') (h : sc'.Goes t sc'')
      (inside : sc''.Inside t below) : Lingers t below sc (n + 1) sc''

theorem Stirs.woken (stirs : sc.Stirs sc') (woken : sc.world.shared.woken = true) :
    sc'.world.shared.woken = true := by
  cases stirs with
  | stays _ same | sets _ same => rw [same, woken]
  | wakes _ now => exact now

/-- However long a run is, a receive takes three steps at most once those who wait for the token are
woken. -/
theorem Lingers.bounded {n : Nat} (lingers : Lingers t below sc n sc') (alert : sc.world.Alert)
    (woken : sc.world.shared.woken = true)
    (here : sc.world.threads[t]? = some ⟨name, f :: below, left, none⟩) (awaits : f.awaits) :
    sc'.world.Alert ∧ sc'.world.shared.woken = true ∧ ∃ g left, g.awaits ∧
      sc'.world.threads[t]? = some ⟨name, g :: below, left, none⟩ ∧
        n + g.patience ≤ f.patience := by
  induction lingers with
  | begins => exact ⟨alert, woken, f, left, awaits, here, by omega⟩
  | aside _ h still ih =>
    obtain ⟨alert, woken, g, left, awaits, there, bound⟩ := ih
    exact ⟨(h.alert alert).1, h.stirs.woken woken, g, left, awaits, still.trans there, bound⟩
  | goes _ h inside ih =>
    obtain ⟨alert, woken, g, left, awaits, there, bound⟩ := ih
    have move : Move .queue _ _ := h.move
    refine ⟨(move.alert alert).1, move.stirs.woken woken, ?_⟩
    obtain ⟨thread', here', above, some, high⟩ := inside
    cases h.receipt alert there awaits with
    | @goesOn k there' awaits' _ nearer =>
      have := nearer woken
      exact ⟨k, .done, awaits', there', by omega⟩
    | takes there' | leaves there' =>
      obtain rfl := Option.some.inj (there'.symm.trans here')
      simp [List.self_eq_append_left, some] at high

/-- What a receive goes through, whoever uses the queue and its token. -/
structure Receiving (sc : Scene) (t : Nat) (name : String) (f : Frame) (below : List Frame)
    (left : Answer) : Prop where
  moves : ∀ sc', Move .queue sc sc' →
    sc'.world.threads[t]? = some ⟨name, f :: below, left, none⟩ ∨ sc.Receipt sc' t name f below
  released : sc.world.shared.cancelled = true → (∃ v, sc.world.step t = some v) ∨
    ∃ u rouser v, u ≠ t ∧ sc.world.threads[u]? = some rouser ∧ rouser.Poised .wake ∧
      sc.world.step u = some v ∧ v.shared.woken = true ∧
        v.threads[t]? = some ⟨name, f :: below, left, none⟩
  prompt : sc.world.shared.woken = true → ∃ v, sc.world.step t = some v
  brief : sc.world.shared.woken = true → ∀ n sc', Lingers t below sc n sc' → n ≤ 2

/-- Nobody is left in a receive when the token is cancelled, and no message is lost by that. -/
structure Attentive (sc : Scene) : Prop where
  token : ∃ l, Lineage.Reaches .none l ∧
    l.tokens.family? 0 = some ⟨sc.world.shared.cancelled, sc.world.shared.woken⟩
  stays : ∀ sc', Reaches .queue sc sc' → sc.world.shared.cancelled = true →
    sc'.world.shared.cancelled = true
  receiving : ∀ t name f below left,
    sc.world.threads[t]? = some ⟨name, f :: below, left, none⟩ → f.awaits →
      sc.Receiving t name f below left
  passes : ∀ sc', Reaches .queue sc sc' → sc.traffic.Passes sc'.traffic

theorem attentive_of_reaches {rig : Rig} {devices : DeviceSet} {robin : RoundRobin}
    (run : Reaches .queue (.opening rig devices robin) sc) : sc.Attentive := by
  have alert := (run.alert (alert_fresh _ _ _)).1
  obtain ⟨rouses, l, mirrors⟩ := run.stirred nofun (mirrors_opening rig devices robin)
  have sound : sc.Sound := run.sound (sound_opening rig devices robin)
  refine ⟨⟨l, mirrors.reaches, mirrors.family⟩, fun _ rest => (rest.alert alert).2,
    fun t name f below left here awaits => ?_, fun _ rest => rest.passes sound⟩
  refine ⟨fun _ move => move.receipt alert here awaits, rouses.released here awaits,
    step_of_woken here awaits, fun woken n sc' lingers => ?_⟩
  obtain ⟨-, -, g, -, -, -, bound⟩ := lingers.bounded alert woken here awaits
  have some := g.patience_pos
  have most := f.patience_pos
  omega

end Scene

/-- A token is cancelled if and only if somebody has begun to cancel one of its family, and whoever
waits for one is released, however the steps of all this interleave. The same holds for those who
receive from a queue with such a token, and what is in the queue stays there until it is taken. -/
theorem nobody_sleeps_through_cancellation {l : Lineage} {rig : Rig} {devices : DeviceSet}
    {robin : RoundRobin} {sc : Scene} (made : Lineage.Reaches .none l)
    (run : Scene.Reaches .queue (.opening rig devices robin) sc) : l.Lawful ∧ sc.Attentive :=
  ⟨Lineage.lawful_of_reaches made, Scene.attentive_of_reaches run⟩

def Lineage.late : Lineage :=
  ⟨⟨[⟨true, true⟩], [0, 0], [⟨.await, 1, .wakeup⟩, ⟨.cancel, 0, .finished⟩]⟩, [0, 0]⟩

def World.dozing (w : World) : World :=
  ((((w.start (.idle "caller")).assign mainNumber [.dequeue]).run [0, 0, 0, 0]).assign 1
    [.cancel]).run [1]

/-- The wait that found the flag not set ends with its next step, and whoever sleeps in the receive
is about to be woken. -/
theorem nobody_sleeps_through_cancellation_of_late :
    let opening := Scene.opening (.ofHost (.ofSizes [] false) .always .none) ⟨0, [], []⟩ ⟨0, 1⟩
    let dozing := opening.world.dozing
    (Lineage.Reaches .none .late ∧ Scene.Reaches .queue opening ⟨dozing, []⟩) ∧
      Lineage.late.tokens.step 0 =
        some (Lineage.late.tokens.answered 0 ⟨.await, 1, .finished⟩) ∧
      (dozing.shared.cancelled = true ∧ dozing.step mainNumber = none) ∧
      ∃ u v, dozing.step u = some v ∧ ∃ v', v.step mainNumber = some v' := by
  intro opening dozing
  have cloned : Lineage.Reaches .none ⟨⟨[⟨false, false⟩], [0, 0], []⟩, [0, 0]⟩ :=
    (Relation.ReflTransGen.single .fresh).tail (@Lineage.Move.clone _ 0 0 rfl)
  have waits := (cloned.tail (@Lineage.Move.begin _ .await 1 (by decide))).tail
    (@Lineage.Move.step _ 0 _ rfl)
  have made : Lineage.Reaches .none .late :=
    ((waits.tail (@Lineage.Move.begin _ .cancel 0 (by decide))).tail
      (@Lineage.Move.step _ 1 _ rfl)).tail (@Lineage.Move.step _ 1 _ rfl)
  have runs : (∃ thread ∈ (((opening.world.start (.idle "caller")).assign mainNumber
        [.dequeue]).run [0, 0, 0, 0]).threads[1]?, thread.idles) ∧
      dozing.shared.cancelled = true ∧ (dozing.step mainNumber).isNone = true ∧
      ∃ thread ∈ dozing.threads[mainNumber]?, thread.panicking = none ∧
        ∃ f ∈ thread.frames.head?, f.awaits = true := by decide +kernel
  obtain ⟨free, cancelled, stuck, thread, here, calm, f, top, awaits⟩ := runs
  obtain ⟨name, frames, left, panicking⟩ := thread
  obtain ⟨below, rfl⟩ := List.head?_eq_some_iff.1 top
  cases calm
  have asleep : Scene.Reaches .queue opening
      ⟨((opening.world.start (.idle "caller")).assign mainNumber [.dequeue]).run [0, 0, 0, 0],
        []⟩ :=
    ((Relation.ReflTransGen.single (.start "caller")).tail
      (.call mainNumber .dequeue trivial trivial ⟨_, rfl, rfl, rfl⟩)).trans
        (Scene.reaches_of_steps [] (World.reaches_run _ [0, 0, 0, 0]))
  have run : Scene.Reaches .queue opening ⟨dozing, []⟩ :=
    (asleep.tail (.call 1 .cancel trivial trivial free)).trans
      (Scene.reaches_of_steps [] (World.reaches_run _ [1]))
  clear_value dozing
  obtain ⟨lawful, attentive⟩ := nobody_sleeps_through_cancellation made run
  have released := lawful.released 0 _ rfl rfl nofun ⟨_, .tail _ (.head _), ⟨rfl, rfl⟩, 0, rfl, rfl⟩
  have receiving := attentive.receiving mainNumber _ _ _ _ here awaits
  have stuck : dozing.step mainNumber = none := Option.isNone_iff_eq_none.1 stuck
  obtain ⟨u, -, v, -, -, -, goes, woken, there⟩ :=
    (receiving.released cancelled).resolve_left (by simp [stuck])
  exact ⟨⟨made, run⟩, released, ⟨cancelled, stuck⟩, u, v, goes,
    Scene.step_of_woken there awaits woken⟩

end DispatchServer
