import DispatchServer.Proofs.Pinning
import DispatchServer.Proofs.Demands
import DispatchServer.Proofs.Launch

/-! Which device a message is for. Submissions and bare selections take turns at the round robin,
and whoever is refused has had its turn; the message keeps its device until it is processed, and
behind each device stands the queue that was created for it. -/
namespace DispatchServer

/-- A turn of the round robin: the device, and the ticket of the message that was built for it. -/
structure Pick where
  device : Nat
  ticket : Option Nat
  deriving DecidableEq, Repr

def Frame.pick? (s : Shared) : Frame → Option Pick
  | .select => some ⟨s.robin.select.1, none⟩
  | .submit _ => some ⟨s.robin.select.1, some s.ledger.next⟩
  | _ => none

def Frame.picks : Frame → Bool
  | .select | .submit _ | .produce .. | .produced .. => true
  | _ => false

def Thread.pick? (thread : Thread) (s : Shared) : Option Pick :=
  match thread.frames, thread.panicking with
  | f :: _, none => f.pick? s
  | _, _ => none

def World.pick? (w : World) (t : Nat) : Option Pick := (w.threads[t]?).bind (·.pick? w.shared)

/-- What a server has of contexts and queues, which no step changes. -/
structure Shared.Furnishes (s s' : Shared) : Prop where
  devices : s'.devices = s.devices
  contexts : s'.rig.host.contexts = s.rig.host.contexts
  queues : s'.rig.host.queues = s.rig.host.queues

theorem Shared.Furnishes.trans {a b c : Shared} (first : a.Furnishes b) (second : b.Furnishes c) :
    a.Furnishes c where
  devices := second.devices.trans first.devices
  contexts := second.contexts.trans first.contexts
  queues := second.queues.trans first.queues

theorem Shared.furnishes_unpin (s : Shared) (buffer : Handle) :
    s.Furnishes { s with rig := s.rig.unpinZone buffer } := by
  obtain ⟨_, unpins⟩ := s.rig.unpins_unpinZone buffer
  exact ⟨rfl, unpins.contexts, unpins.queues⟩

def RoundRobin.after (robin : RoundRobin) : Option Pick → RoundRobin
  | some _ => robin.select.2
  | none => robin

/-- What a step of the frame does to the round robin, and that it leaves the furniture alone. -/
structure Frame.Rotates (f : Frame) (s s' : Shared) (frames : List Frame) : Prop where
  furnishes : s.Furnishes s'
  robin : s'.robin = s.robin.after (f.pick? s)
  modest : f.picks = false → ∀ g ∈ frames, g.picks = false

namespace Frame

theorem step_rotates {f : Frame} {thread : String} {answer answer' : Answer}
    {exits : Nat → Option Exit} {s s' : Shared} {frames : List Frame}
    (h : f.step thread answer exits s = .moved s' frames answer') : f.Rotates s s' frames := by
  cases moves_of_step h with
  | unpins => exact ⟨s.furnishes_unpin _, rfl, by simp [picks]⟩
  | _ => exact ⟨⟨rfl, rfl, rfl⟩, rfl, by simp [picks]⟩

/-- A panic picks nothing. -/
theorem unwind_rotates {f : Frame} {thread : String} {s s' : Shared} {frames : List Frame}
    {goesOn : Bool} (h : f.unwind thread s = (s', frames, goesOn)) :
    s.Furnishes s' ∧ s'.robin = s.robin ∧ ∀ g ∈ frames, g.picks = false := by
  cases f with
  | run device script held | leave held given =>
    cases held <;> cases h
    all_goals exact ⟨⟨rfl, rfl, rfl⟩, rfl, by simp [picks]⟩
  | unpin buffers =>
    cases buffers with
    | nil =>
      cases h
      exact ⟨⟨rfl, rfl, rfl⟩, rfl, by simp⟩
    | cons buffer buffers =>
      cases h
      exact ⟨s.furnishes_unpin buffer, rfl, by simp [picks]⟩
  | _ =>
    cases h
    exact ⟨⟨rfl, rfl, rfl⟩, rfl, by simp [picks]⟩

end Frame

theorem Thread.Steps.rotates {thread thread' : Thread} {exits : Nat → Option Exit} {s s' : Shared}
    (steps : thread.Steps exits s s' thread') :
    s.Furnishes s' ∧ s'.robin = s.robin.after (thread.pick? s) ∧
      ((∀ f ∈ thread.frames, f.picks = false) → ∀ f ∈ thread'.frames, f.picks = false) := by
  cases steps with
  | @moved f rest frames answer _ top calm h =>
    have rotates := Frame.step_rotates h
    refine ⟨rotates.furnishes, ?_, fun modest g member => ?_⟩
    · simpa only [pick?, top, calm] using rotates.robin
    · rw [top] at modest
      rcases List.mem_append.1 member with member | member
      · exact rotates.modest (modest f List.mem_cons_self) g member
      · exact modest g (List.mem_cons_of_mem f member)
  | panicked top calm =>
    refine ⟨⟨rfl, rfl, rfl⟩, ?_, fun modest => modest⟩
    simp only [pick?, top, calm]
    rfl
  | @unwound f rest frames text _ goesOn top panics h =>
    obtain ⟨furnishes, robin, modest⟩ := Frame.unwind_rotates h
    refine ⟨furnishes, ?_, fun modest' g member => ?_⟩
    · simp only [pick?, top, panics]
      exact robin
    · rw [top] at modest'
      rcases List.mem_append.1 member with member | member
      · exact modest g member
      · exact modest' g (List.mem_cons_of_mem f member)

theorem World.rotates_of_step {w v : World} {t : Nat} (h : w.step t = some v) :
    w.shared.Furnishes v.shared ∧ v.shared.robin = w.shared.robin.after (w.pick? t) ∧
      ((∀ thread ∈ w.threads, ∀ f ∈ thread.frames, f.picks = false) →
        ∀ thread ∈ v.threads, ∀ f ∈ thread.frames, f.picks = false) := by
  obtain ⟨thread, thread', s', here, steps, rfl⟩ := World.steps_of_step h
  obtain ⟨furnishes, robin, modest⟩ := steps.rotates
  refine ⟨furnishes, ?_, fun all =>
    forall_mem_set all (modest (all thread (List.mem_of_getElem? here)))⟩
  rw [World.pick?, here]
  exact robin

namespace Scene

/-- A run, and what was picked meanwhile. -/
inductive Picked (offered : Interface) (first : Scene) : List Pick → Scene → Prop
  | begins : Picked offered first [] first
  | goes {picks : List Pick} {sc sc' : Scene} {t : Nat} (before : Picked offered first picks sc)
      (h : sc.Goes t sc') : Picked offered first (picks ++ (sc.world.pick? t).toList) sc'
  | aside {picks : List Pick} {sc sc' : Scene} (before : Picked offered first picks sc)
      (h : Move offered sc sc') (still : ∀ t, ¬ sc.Goes t sc') : Picked offered first picks sc'

/-- The message with the ticket is for the device, wherever it is, and if some thread has begun it,
it was begun for that device. -/
structure Assigned (ticket device : Nat) (sc : Scene) : Prop where
  issued : sc.traffic.ledger.issued ticket = 1
  held : ∀ m ∈ sc.held, m.ticket = ticket → m.plan.device = device
  channel : ∀ m ∈ sc.traffic.channel, m.ticket = ticket → m.plan.device = device
  begun : ∀ d thread, .begun ticket d thread ∈ sc.traffic.events → d = device

variable {offered : Interface} {first sc sc' : Scene} {picks : List Pick} {ticket device : Nat}

theorem Picked.reaches (picked : Picked offered first picks sc) : Reaches offered first sc := by
  induction picked with
  | begins => exact .refl
  | goes _ h ih => exact ih.tail h.move
  | aside _ h _ ih => exact ih.tail h

/-- One flow leaves a message to its device, for nobody builds another one under its ticket. -/
theorem Assigned.flow {flow : Flow} {panics : Bool}
    (assigned : Assigned ticket device sc) (links : flow.Links panics sc.world.shared
      sc'.world.shared sc.held sc'.held sc.working sc'.working) :
    Assigned ticket device sc' := by
  have fits : flow.Fits panics sc.traffic := links.fits
  have traffic : sc'.traffic = flow.apply sc.traffic := links.traffic
  have taken {m : Message} (takes : m ∈ flow.takes) (same : m.ticket = ticket) :
      m.plan.device = device := by
    have member : m ∈ sc'.held + flow.takes := Multiset.mem_add.2 (.inr takes)
    rw [links.waiting, Multiset.mem_add] at member
    refine assigned.held m (member.resolve_right fun gives => ?_) same
    cases flow <;> simp at takes gives
  have given {m : Message} (gives : m ∈ flow.gives) (same : m.ticket = ticket) :
      m.plan.device = device := by
    cases flow with
    | built m' =>
      obtain rfl := Multiset.mem_singleton.1 gives
      have fits : m.ticket = sc.traffic.ledger.next := fits
      have issued := assigned.issued
      simp [Ledger.issued, ← same, fits] at issued
    | received m' =>
      obtain rfl := Multiset.mem_singleton.1 gives
      exact assigned.channel m (List.mem_of_mem_head? fits) same
    | _ => simp at gives
  refine ⟨links.issued assigned.issued, fun m member same => ?_, fun m member same => ?_,
    fun d thread told => ?_⟩
  · have member : m ∈ sc'.held + flow.takes := Multiset.mem_add.2 (.inl member)
    rw [links.waiting, Multiset.mem_add] at member
    exact member.elim (fun held => assigned.held m held same) fun gives => given gives same
  · rw [traffic] at member
    cases flow with
    | sent m' =>
      rcases List.mem_append.1 member with member | member
      · exact assigned.channel m member same
      · exact taken (by simpa using member) same
    | received m' => exact assigned.channel m (List.mem_of_mem_tail member) same
    | _ => exact assigned.channel m member same
  · rw [traffic, Flow.events_apply, List.mem_append] at told
    rcases told with told | told
    · exact assigned.begun d thread told
    · cases flow <;> simp at told
      obtain ⟨same, rfl, -⟩ := told
      exact taken (Multiset.mem_singleton_self _) same.symm

theorem Sound.unissued (sound : sc.Sound) (new : sc.traffic.ledger.issued ticket = 0) :
    (∀ m ∈ sc.held, m.ticket ≠ ticket) ∧ (∀ m ∈ sc.traffic.channel, m.ticket ≠ ticket) ∧
      ticket ∉ sc.traffic.begun := by
  have once := sound.custody.once ticket
  rw [new] at once
  refine ⟨fun m member => ?_, fun m member => ?_,
    (sc.traffic.of_consumed_eq_zero (by omega)).1⟩
  · rintro rfl
    have := copies_pos member
    omega
  · rintro rfl
    have := copies_pos (Multiset.mem_coe.2 member : m ∈ (sc.traffic.channel : Multiset Message))
    omega

/-- A message that was just built is for the device that it was built for. -/
theorem Sound.assigned {m : Message} (sound : sc.Sound) (panics : Bool)
    (links : (Flow.built m).Links panics sc.world.shared sc'.world.shared sc.held sc'.held
      sc.working sc'.working) : Assigned m.ticket m.plan.device sc' := by
  have fits : m.ticket = sc.traffic.ledger.next := links.fits
  have traffic : sc'.traffic = (Flow.built m).apply sc.traffic := links.traffic
  obtain ⟨unheld, unsent, unbegun⟩ :=
    sound.unissued (by simp [Ledger.issued, fits] : sc.traffic.ledger.issued m.ticket = 0)
  have held : sc'.held = sc.held + {m} := by simpa using links.waiting
  refine ⟨?_, fun m' member same => ?_, fun m' member same => ?_, fun d thread told => ?_⟩
  · rw [traffic]
    show (sc.traffic.ledger.issue m.plan).2.issued m.ticket = 1
    rw [Ledger.issued_issue, fits]
    simp [Ledger.issued]
  · rw [held, Multiset.mem_add, Multiset.mem_singleton] at member
    rcases member with member | rfl
    · exact absurd same (unheld m' member)
    · rfl
  · rw [traffic] at member
    exact absurd same (unsent m' member)
  · have begun : m.ticket ∈ sc'.traffic.begun := List.mem_filterMap.2 ⟨_, told, rfl⟩
    rw [traffic, Flow.begun_apply] at begun
    exact absurd (by simpa [Event.begun?] using begun) unbegun

/-- So many picks have been made, in turn, and the messages built for them keep their devices. -/
structure Dealt (devices : Nat) (picks : List Pick) (sc : Scene) : Prop where
  robin : sc.world.shared.robin = ⟨.ofNat picks.length, devices⟩
  turns : ∀ i pick, picks[i]? = some pick → pick.device = i % 2 ^ 64 % devices
  assigned : ∀ pick ∈ picks, ∀ ticket ∈ pick.ticket, Assigned ticket pick.device sc

/-- The message of the pick was built for the device of the pick. -/
theorem assigned_of_pick {w v : World} {hands : List Message} {t : Nat} {pick : Pick}
    (sound : Sound ⟨w, hands⟩) (h : w.step t = some v) (picked : w.pick? t = some pick)
    (built : ticket ∈ pick.ticket) : Assigned ticket pick.device ⟨v, hands⟩ := by
  obtain ⟨thread, thread', s', here, steps, rfl⟩ := World.steps_of_step h
  have typed := sound.typed thread (List.mem_of_getElem? here)
  have links := links_step hands here steps typed
  rw [World.pick?, here] at picked
  cases steps with
  | @moved f rest frames answer _ top calm step =>
    have picked : f.pick? w.shared = some pick := by
      simpa only [Option.bind_some, Thread.pick?, top, calm] using picked
    cases f with
    | submit plan =>
      cases picked
      obtain rfl := Option.some.inj built
      have flow : thread.flow w.shared =
          .built ⟨w.shared.ledger.next, plan.onDevice w.shared.robin.select.1⟩ := by
        simp only [Thread.flow, top, calm]
        rfl
      rw [flow] at links
      rw [← Blueprint.device_onDevice plan w.shared.robin.select.1]
      exact sound.assigned (m := ⟨_, plan.onDevice _⟩) thread.panicking.isSome links
    | select =>
      cases picked
      cases built
    | _ => cases picked
  | panicked top calm =>
    simp only [Option.bind_some, Thread.pick?, top, calm] at picked
    cases picked
  | unwound top panics =>
    simp only [Option.bind_some, Thread.pick?, top, panics] at picked
    cases picked

theorem device_of_pick {w : World} {t devices turn : Nat} {pick : Pick}
    (robin : w.shared.robin = ⟨.ofNat turn, devices⟩) (picked : w.pick? t = some pick) :
    pick.device = turn % 2 ^ 64 % devices := by
  have device : pick.device = w.shared.robin.select.1 := by
    obtain ⟨thread, -, picked⟩ := Option.bind_eq_some_iff.1 picked
    unfold Thread.pick? at picked
    split at picked
    · rename_i f _ _ _
      cases f <;> cases picked <;> rfl
    · cases picked
  rw [device, robin]
  simp [RoundRobin.select]

theorem Dealt.move {devices : Nat} (dealt : Dealt devices picks sc) (sound : sc.Sound)
    (h : Move offered sc sc') (robin : sc'.world.shared.robin = sc.world.shared.robin) :
    Dealt devices picks sc' := by
  obtain ⟨_, _, links⟩ := h.flow sound.typed
  exact ⟨robin.trans dealt.robin, dealt.turns,
    fun pick member ticket built => (dealt.assigned pick member ticket built).flow links⟩

theorem Dealt.goes {devices t : Nat} (dealt : Dealt devices picks sc) (sound : sc.Sound)
    (h : sc.Goes t sc') : Dealt devices (picks ++ (sc.world.pick? t).toList) sc' := by
  have move : Move .queue sc sc' := h.move
  obtain ⟨-, robin, -⟩ := World.rotates_of_step h.1
  cases picked : sc.world.pick? t with
  | none =>
    rw [picked] at robin
    simpa using dealt.move sound move robin
  | some pick =>
    rw [picked] at robin
    refine ⟨?_, fun i other here => ?_, fun other member ticket built => ?_⟩
    · rw [robin, dealt.robin]
      simp [RoundRobin.after, RoundRobin.select]
    · rcases Nat.lt_or_ge i picks.length with old | new
      · rw [List.getElem?_append_left old] at here
        exact dealt.turns i other here
      · rw [List.getElem?_append_right new] at here
        obtain ⟨last, rfl⟩ : i - picks.length = 0 ∧ pick = other := by
          simpa [List.getElem?_singleton] using here
        rw [device_of_pick dealt.robin picked, Nat.le_antisymm (Nat.le_of_sub_eq_zero last) new]
    · rcases List.mem_append.1 member with member | member
      · obtain ⟨_, _, links⟩ := move.flow sound.typed
        exact (dealt.assigned other member ticket built).flow links
      · obtain rfl : other = pick := by simpa using member
        obtain ⟨w, hands⟩ := sc
        obtain ⟨v, hands'⟩ := sc'
        obtain ⟨step, rfl⟩ := h
        exact assigned_of_pick sound step picked built

theorem robin_of_aside (h : Move offered sc sc') (still : ∀ t, ¬ sc.Goes t sc') :
    sc'.world.shared.robin = sc.world.shared.robin := by
  cases h.shift with
  | steps t step => exact absurd ⟨step, rfl⟩ (still t)
  | _ => rfl

theorem Picked.dealt {devices : Nat} (picked : Picked offered first picks sc)
    (sound : first.Sound) (robin : first.world.shared.robin = ⟨0, devices⟩) :
    Dealt devices picks sc := by
  induction picked with
  | begins => exact ⟨robin, by simp, by simp⟩
  | goes before h ih => exact ih.goes (before.reaches.sound sound) h
  | aside before h still ih =>
    exact ih.move (before.reaches.sound sound) h (robin_of_aside h still)

theorem Move.furnishes (h : Move offered sc sc') :
    sc.world.shared.Furnishes sc'.world.shared := by
  cases h.shift with
  | steps t step => exact (World.rotates_of_step step).1
  | _ => exact ⟨rfl, rfl, rfl⟩

theorem Reaches.furnishes (run : Reaches offered sc sc') :
    sc.world.shared.Furnishes sc'.world.shared := by
  induction run with
  | refl => exact ⟨rfl, rfl, rfl⟩
  | tail _ move ih => exact ih.trans move.furnishes

end Scene

end DispatchServer
