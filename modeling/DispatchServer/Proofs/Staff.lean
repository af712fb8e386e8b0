import DispatchServer.Proofs.Accounts

/-! A server with its threads, among those who use it. Moves keep every thread to what it is there
for, and with that the accounts. The thread that ends the server stands apart. -/
namespace DispatchServer

theorem Accounts.mono {staff staff' : List String} {drained : Multiset Nat} {T : Traffic}
    {held working taken : Multiset Message} (more : ∀ name ∈ staff, name ∈ staff')
    (accounts : Accounts staff drained T held working taken) :
    Accounts staff' drained T held working taken :=
  { accounts with
    begun := fun k device thread member => more _ (accounts.begun k device thread member) }

theorem Interface.frames_of_service {workers : List Nat} {service : Service}
    (h : (server workers).services service) :
    ∃ f, service.frames = [f] ∧ f.produces ∧ f.formed ∧ f.waiting = 0 := by
  cases service with
  | script steps => exact ⟨_, rfl, h, rfl, rfl⟩
  | submit plan | produce plan times => exact ⟨_, rfl, h, rfl, rfl⟩
  | select | request | listen | awaitReply => exact ⟨_, rfl, rfl, rfl, rfl⟩
  | _ => cases h

theorem Interface.frame_of_use {workers : List Nat} {use : Use} (h : (server workers).uses use)
    (m : Message) :
    (use.frame m).produces ∧ (use.frame m).formed ∧ (use.frame m).waiting = {m} := by
  cases use with
  | enqueue | discard => exact ⟨rfl, rfl, rfl⟩
  | _ => cases h

namespace Scene

def taken (sc : Scene) : Multiset Message := (sc.world.threads.map Thread.taken).sum

/-- Every thread keeps to what it is there for. The server's threads are known by number and by
name; the one that ends the server can be any other. -/
structure Staffed (workers : List Nat) (staff : List String) (ender : Option Nat)
    (drained : Multiset Nat) (sc : Scene) : Prop where
  typed : ∀ thread ∈ sc.world.threads, thread.Typed
  rooted : ∀ thread ∈ sc.world.threads, thread.Rooted
  exist : ∀ t ∈ workers, t < sc.world.threads.length
  serves : ∀ t ∈ workers, ∀ thread ∈ sc.world.threads[t]?, thread.Serves ∧ thread.name ∈ staff
  produces : ∀ t ∉ workers, t ∉ ender → ∀ thread ∈ sc.world.threads[t]?, thread.Produces
  accounts : Accounts staff drained sc.traffic sc.held sc.working sc.taken

variable {workers : List Nat} {staff : List String} {ender : Option Nat} {drained : Multiset Nat}
  {sc sc' : Scene}

theorem Staffed.sound (staffed : sc.Staffed workers staff ender drained) : sc.Sound :=
  ⟨staffed.typed, staffed.accounts.custody⟩

theorem Staffed.confined (staffed : sc.Staffed workers staff ender drained) {t : Nat}
    {thread : Thread} (here : sc.world.threads[t]? = some thread) :
    ∀ m ∈ thread.waiting, m.plan.confined := by
  intro m waits
  have sum := sum_map_set Thread.waiting (.idle thread.name) here
  rw [show (Thread.idle thread.name).waiting = 0 from rfl, add_zero] at sum
  refine staffed.accounts.confined m (Multiset.mem_add.2 (.inl (Multiset.mem_add.2 (.inl ?_))))
  simp [held, ← sum, waits]

theorem Staffed.set (staffed : sc.Staffed workers staff ender drained) {t : Nat}
    {thread thread' : Thread} {s' : Shared} {hands' : List Message} {flow : Flow} {panics : Bool}
    {server : Option String} (more : Multiset Message)
    (here : sc.world.threads[t]? = some thread)
    (links : flow.Links panics sc.world.shared s' sc.held
      (held ⟨⟨s', sc.world.threads.set t thread'⟩, hands'⟩) sc.working
      (working ⟨⟨s', sc.world.threads.set t thread'⟩, hands'⟩))
    (fair : flow.Fair server) (member : ∀ name ∈ server, name ∈ staff) (typed : thread'.Typed)
    (rooted : thread'.Rooted)
    (balance : thread'.taken + flow.begins + more = thread.taken + flow.receives)
    (serves : t ∈ workers → thread'.Serves ∧ thread'.name ∈ staff)
    (produces : t ∉ workers → t ∉ ender → thread'.Produces) :
    Staffed workers staff ender (drained + more.map Message.ticket)
      ⟨⟨s', sc.world.threads.set t thread'⟩, hands'⟩ := by
  have at_ {u : Nat} {other : Thread} (there : other ∈ (sc.world.threads.set t thread')[u]?) :
      (u = t ∧ other = thread') ∨ other ∈ sc.world.threads[u]? := by
    rcases eq_or_ne t u with rfl | apart
    · rw [getElem?_set_here here] at there
      exact .inl ⟨rfl, (Option.some.inj there).symm⟩
    · rw [List.getElem?_set_ne apart] at there
      exact .inr there
  refine ⟨forall_mem_set staffed.typed typed, forall_mem_set staffed.rooted rooted,
    fun u worker => ?_, fun u worker other there => ?_, fun u outside apart other there => ?_, ?_⟩
  · rw [List.length_set]
    exact staffed.exist u worker
  · rcases at_ there with ⟨rfl, rfl⟩ | there
    · exact serves worker
    · exact staffed.serves u worker other there
  · rcases at_ there with ⟨rfl, rfl⟩ | there
    · exact produces outside apart
    · exact staffed.produces u outside apart other there
  · refine links.accounts fair member ?_ staffed.accounts
    rw [add_assoc] at balance ⊢
    exact sum_map_set_balance _ here balance

theorem Staffed.step (staffed : sc.Staffed workers staff ender drained) {t : Nat}
    {thread thread' : Thread} {s' : Shared} (here : sc.world.threads[t]? = some thread)
    (apart : t ∉ ender) (steps : thread.Steps sc.world.exits sc.world.shared s' thread') :
    Staffed workers staff ender drained ⟨⟨s', sc.world.threads.set t thread'⟩, sc.hands⟩ ∧
      sc.world.shared.Kept s' := by
  have typed := staffed.typed thread (List.mem_of_getElem? here)
  have rooted := staffed.rooted thread (List.mem_of_getElem? here)
  have confined := staffed.confined here
  have links := links_step sc.hands here steps typed
  by_cases worker : t ∈ workers
  · obtain ⟨own, known⟩ := staffed.serves t worker thread here
    have own' := steps.serves confined own
    refine ⟨?_, steps.kept typed own own'⟩
    have next := staffed.set 0 here links (thread.flow_fair_of_serves own _)
      (by simpa using known) (typed.step steps) (rooted.step steps)
      (by simpa using steps.taken confined typed own) (fun _ => ⟨own', by rwa [steps.name]⟩)
      (fun outside => absurd worker outside)
    simpa using next
  · have own := staffed.produces t worker apart thread here
    have own' := steps.produces confined own
    refine ⟨?_, steps.kept typed own.serves own'.serves⟩
    have next := staffed.set 0 here links (thread.flow_fair_of_produces own _)
      (by simp) (typed.step steps) (rooted.step steps)
      (by simpa using steps.taken confined typed own.serves) (fun worker' => absurd worker' worker)
      (fun _ _ => own')
    simpa using next

theorem Staffed.assign (staffed : sc.Staffed workers staff ender drained) {t : Nat}
    {thread : Thread} {frames : List Frame} {hands' : List Message}
    (here : sc.world.threads[t]? = some thread) (aloof : ∀ f ∈ thread.frames, f.Aloof)
    (empty : (thread.frames.map Frame.waiting).sum = 0) (aloof' : ∀ f ∈ frames, f.Aloof)
    (typed : (Thread.calling thread.name frames).Typed)
    (rooted : (Thread.calling thread.name frames).Rooted)
    (same : (frames.map Frame.waiting).sum + hands' = (sc.hands : Multiset Message))
    (serves : t ∈ workers → ∀ f ∈ frames, f.Serves)
    (produces : t ∉ workers → t ∉ ender → ∀ f ∈ frames, f.produces) :
    Staffed workers staff ender drained ⟨sc.world.assign t frames, hands'⟩ := by
  have clear := (staffed.rooted thread (List.mem_of_getElem? here)).clear
    fun f member => (aloof f member).takes
  have working : (Thread.calling thread.name frames).working = 0 := Thread.working_of_aloof aloof'
  have taken : (Thread.calling thread.name frames).taken = 0 := Thread.taken_of_aloof rooted aloof'
  have taken' : thread.taken = 0 :=
    Thread.taken_of_aloof (staffed.rooted thread (List.mem_of_getElem? here)) aloof
  have links := links_assign sc.hands hands' here (Thread.working_of_aloof aloof) working (by
    rw [Thread.waiting, Thread.waiting, empty, clear]
    simpa [Thread.calling, Answer.owned] using same)
  rw [World.assign_eq here] at links ⊢
  have fair : Flow.quiet.Fair none := trivial
  have next := staffed.set 0 here links fair (by simp) typed rooted
    (by simp [taken, taken'])
    (fun worker => ⟨serves worker, (staffed.serves t worker thread here).2⟩) produces
  simpa using next

/-- One more thread, which can be one of the server's. -/
theorem Staffed.start (staffed : sc.Staffed workers staff ender drained) {thread : Thread}
    {s' : Shared} {workers' : List Nat} {staff' : List String}
    (traffic : s'.traffic = sc.traffic) (typed : thread.Typed) (rooted : thread.Rooted)
    (waiting : thread.waiting = 0) (working : thread.working = 0) (taken : thread.taken = 0)
    (old : ∀ t < sc.world.threads.length, t ∈ workers' ↔ t ∈ workers)
    (bound : ∀ t ∈ workers', t < sc.world.threads.length + 1)
    (known : ∀ name ∈ staff, name ∈ staff')
    (serves : sc.world.threads.length ∈ workers' → thread.Serves ∧ thread.name ∈ staff')
    (produces : sc.world.threads.length ∉ workers' → thread.Produces) :
    Staffed workers' staff' ender drained ⟨⟨s', sc.world.threads ++ [thread]⟩, sc.hands⟩ := by
  have all {kind : Thread → Prop} (old : ∀ thread ∈ sc.world.threads, kind thread)
      (new : kind thread) : ∀ other ∈ sc.world.threads ++ [thread], kind other := by
    intro other member
    rcases List.mem_append.1 member with member | member
    · exact old other member
    · rwa [List.mem_singleton.1 member]
  have at_ {t : Nat} {other : Thread} (there : other ∈ (sc.world.threads ++ [thread])[t]?) :
      (t = sc.world.threads.length ∧ other = thread) ∨
        (t < sc.world.threads.length ∧ other ∈ sc.world.threads[t]?) := by
    rcases lt_trichotomy t sc.world.threads.length with less | rfl | more
    · rw [List.getElem?_append_left less] at there
      exact .inr ⟨less, there⟩
    · simp only [List.getElem?_concat_length] at there
      exact .inl ⟨rfl, (Option.some.inj there).symm⟩
    · rw [List.getElem?_eq_none (by simp; omega)] at there
      cases there
  have links : Flow.quiet.Links false sc.world.shared s' sc.held
      (held ⟨⟨s', sc.world.threads ++ [thread]⟩, sc.hands⟩) sc.working
      (Scene.working ⟨⟨s', sc.world.threads ++ [thread]⟩, sc.hands⟩) :=
    .quiet traffic (by simp [held, waiting]) (by simp [Scene.working, working])
  refine ⟨all staffed.typed typed, all staffed.rooted rooted, fun t worker => ?_,
    fun t worker other there => ?_, fun t outside apart other there => ?_, ?_⟩
  · simpa using bound t worker
  · rcases at_ there with ⟨rfl, rfl⟩ | ⟨less, there⟩
    · exact serves worker
    · obtain ⟨own, member⟩ := staffed.serves t ((old t less).1 worker) other there
      exact ⟨own, known _ member⟩
  · rcases at_ there with ⟨rfl, rfl⟩ | ⟨less, there⟩
    · exact produces outside
    · exact staffed.produces t (fun worker => outside ((old t less).2 worker)) apart other there
  · have fair : Flow.quiet.Fair none := trivial
    refine links.accounts_of_balance fair (by simp) ?_ (staffed.accounts.mono known)
    simp [Scene.taken, taken]

theorem Staffed.call (staffed : sc.Staffed workers staff ender drained) {t : Nat}
    {thread : Thread} {f : Frame} {hands' : List Message} (outside : t ∉ workers)
    (here : sc.world.threads[t]? = some thread) (none : thread.frames = []) (own : f.produces)
    (formed : f.formed) (same : f.waiting + hands' = (sc.hands : Multiset Message)) :
    Staffed workers staff ender drained ⟨sc.world.assign t [f], hands'⟩ := by
  have aloof := Frame.aloof_of_produces own
  exact staffed.assign here (by simp [none]) (by simp [none]) (by simpa using aloof)
    (.calling_one formed aloof.takes) (.calling_one formed aloof) (by simpa using same)
    (fun worker => absurd worker outside) (fun _ _ => by simpa using own)

theorem Staffed.aside (staffed : sc.Staffed workers staff ender drained) {s' : Shared}
    {hands' : List Message} {flow : Flow} {panics : Bool} (fair : flow.Fair none)
    (none : flow.receives = 0)
    (links : flow.Links panics sc.world.shared s' sc.held (held ⟨⟨s', sc.world.threads⟩, hands'⟩)
      sc.working (working ⟨⟨s', sc.world.threads⟩, hands'⟩)) :
    Staffed workers staff ender drained ⟨⟨s', sc.world.threads⟩, hands'⟩ := by
  refine ⟨staffed.typed, staffed.rooted, staffed.exist, staffed.serves, staffed.produces, ?_⟩
  refine links.accounts_of_balance fair (by simp) ?_ staffed.accounts
  rw [fair.begins_eq_zero, none]
  rfl

theorem Staffed.quiet (staffed : sc.Staffed workers staff ender drained) {s' : Shared}
    (traffic : s'.traffic = sc.traffic) :
    Staffed workers staff ender drained ⟨⟨s', sc.world.threads⟩, sc.hands⟩ := by
  have links : Flow.quiet.Links false sc.world.shared s' sc.held
      (held ⟨⟨s', sc.world.threads⟩, sc.hands⟩) sc.working
      (working ⟨⟨s', sc.world.threads⟩, sc.hands⟩) := .quiet traffic rfl rfl
  exact staffed.aside (show Flow.quiet.Fair none from trivial) rfl links

/-- Every move keeps the staff and the accounts, unless it is one of the thread that ends the
server. -/
theorem Move.staffed (h : Move (.server workers) sc sc')
    (staffed : sc.Staffed workers staff ender drained)
    (busy : ∀ t ∈ ender, ∀ thread ∈ sc.world.threads[t]?, thread.frames ≠ []) :
    (sc'.Staffed workers staff ender drained ∧ sc.world.shared.Kept sc'.world.shared ∧
      ∀ t ∈ ender, ∀ thread ∈ sc.world.threads[t]?, thread ∈ sc'.world.threads[t]?) ∨
    ∃ t ∈ ender, ∃ thread ∈ sc.world.threads[t]?,
      (∃ s' thread', thread.Steps sc.world.exits sc.world.shared s' thread' ∧
        sc' = ⟨⟨s', sc.world.threads.set t thread'⟩, sc.hands⟩) ∨
      (∃ ticket, thread.frames = [.awaitReply ticket]) ∧
        sc'.world.threads[t]? = some (.idle thread.name) := by
  have kept : sc.world.shared.Kept sc.world.shared := ⟨rfl, rfl, fun _ => id, id⟩
  have outside {t : Nat} {thread : Thread} (here : sc.world.threads[t]? = some thread)
      (none : thread.frames = []) : t ∉ ender := fun apart => busy t apart thread here none
  have others {t : Nat} {thread' : Thread} (apart : t ∉ ender) : ∀ u ∈ ender,
      ∀ thread ∈ sc.world.threads[u]?, thread ∈ (sc.world.threads.set t thread')[u]? := by
    intro u member thread there
    rw [List.getElem?_set_ne (by rintro rfl; exact apart member)]
    exact there
  cases h with
  | @step w v hands t h =>
    obtain ⟨thread, thread', s', here, steps, rfl⟩ := World.steps_of_step h
    by_cases apart : t ∈ ender
    · exact .inr ⟨t, apart, thread, here, .inl ⟨s', thread', steps, rfl⟩⟩
    · obtain ⟨staffed, kept⟩ := staffed.step here apart steps
      exact .inl ⟨staffed, kept, others apart⟩
  | start name =>
    refine .inl ⟨?_, kept, fun t _ thread there => ?_⟩
    · have absent : _ ∉ workers := fun worker => lt_irrefl _ (staffed.exist _ worker)
      exact staffed.start rfl (.idle name) (.idle name) rfl rfl rfl (fun _ _ => .rfl)
        (fun t worker => (staffed.exist t worker).trans (Nat.lt_succ_self _)) (fun _ => id)
        (fun worker => absurd worker absent) (fun _ => by simp [Thread.Produces, Thread.idle])
    · have bound := (List.getElem?_eq_some_iff.1 there).1
      rw [World.start, List.getElem?_append_left bound]
      exact there
  | @build w hands plan h =>
    have fair : (Flow.built (w.shared.build plan).1).Fair none := h
    exact .inl ⟨staffed.aside fair rfl (links_build w hands plan), ⟨rfl, rfl, fun _ => id, id⟩,
      fun _ _ _ => id⟩
  | @spill w before after t thread m =>
    have fair : (Flow.dropped m thread.panicking.isSome).Fair none := trivial
    exact .inl ⟨staffed.aside fair rfl (links_spill w before after m _),
      ⟨rfl, rfl, fun _ => id, id⟩, fun _ _ _ => id⟩
  | call t service h calls idle =>
    obtain ⟨thread, here, none, -⟩ := idle
    obtain ⟨f, frames, own, formed, waiting⟩ := Interface.frames_of_service h
    have next := staffed.call calls here none own formed (by rw [waiting, zero_add])
    rw [frames]
    rw [World.assign_eq here] at next ⊢
    exact .inl ⟨next, kept, others (outside here none)⟩
  | @use w before after t m use h calls idle =>
    obtain ⟨thread, here, none, -⟩ := idle
    obtain ⟨own, formed, waiting⟩ := Interface.frame_of_use h m
    have next : Staffed workers staff ender drained ⟨w.assign t [use.frame m], before ++ after⟩ :=
      staffed.call calls here none own formed (by
        rw [waiting, ← Multiset.coe_add, ← Multiset.coe_add, ← Multiset.cons_coe,
          ← Multiset.singleton_add]
        abel)
    rw [World.assign_eq here] at next ⊢
    exact .inl ⟨next, kept, others (outside here none)⟩
  | take t m given =>
    obtain ⟨thread, here, none, answer⟩ := given
    have clear := (staffed.rooted thread (List.mem_of_getElem? here)).clear (by simp [none])
    simp [answer, Answer.owned] at clear
  | @expire w hands t ticket waits =>
    obtain ⟨thread, here, frames⟩ := waits
    by_cases apart : t ∈ ender
    · refine .inr ⟨t, apart, thread, here, .inr ⟨⟨ticket, frames⟩, ?_⟩⟩
      rw [World.assign_eq here]
      exact getElem?_set_here here
    · have aloof : (Frame.awaitReply ticket).Aloof := Frame.aloof_of_produces rfl
      have next : Staffed workers staff ender drained ⟨w.assign t [], hands⟩ :=
        staffed.assign here (by simpa [frames] using aloof)
          (by simp [frames, Frame.waiting, Frame.owned]) (by simp) (.idle _) (.idle _) (by simp)
          (by simp) (by simp)
      rw [World.assign_eq here] at next ⊢
      exact .inl ⟨next, kept, others apart⟩
  | @signal w hands signal =>
    exact .inl ⟨staffed.quiet rfl, ⟨rfl, rfl, fun _ => id, id⟩, fun _ _ _ => id⟩

/-- A thread of the server that has come to its end. -/
def Over (sc : Scene) (t : Nat) : Prop := ∃ thread ∈ sc.world.threads[t]?, thread.frames = []

/-- No thread of the server is ever called again. -/
theorem Move.over (h : Move (.server workers) sc sc')
    (rooted : ∀ thread ∈ sc.world.threads, thread.Rooted) {t : Nat} (worker : t ∈ workers)
    (quit : sc.Over t) : sc'.Over t := by
  obtain ⟨thread, here, none⟩ := quit
  have other {u : Nat} {thread' : Thread} (other : u ≠ t) :
      thread ∈ (sc.world.threads.set u thread')[t]? := by
    rw [List.getElem?_set_ne other]
    exact here
  cases h with
  | @step w v hands u h =>
    obtain ⟨mover, mover', s', there, steps, rfl⟩ := World.steps_of_step h
    refine ⟨thread, other ?_, none⟩
    rintro rfl
    obtain rfl : mover = thread := Option.some.inj (there.symm.trans here)
    cases steps <;> simp_all
  | start name =>
    have bound := (List.getElem?_eq_some_iff.1 here).1
    refine ⟨thread, ?_, none⟩
    rw [World.start, List.getElem?_append_left bound]
    exact here
  | build | spill | signal => exact ⟨thread, here, none⟩
  | call u service _ calls idle =>
    obtain ⟨caller, there, -⟩ := idle
    rw [World.assign_eq there]
    exact ⟨thread, other (by rintro rfl; exact calls worker), none⟩
  | use u m use _ calls idle =>
    obtain ⟨caller, there, -⟩ := idle
    rw [World.assign_eq there]
    exact ⟨thread, other (by rintro rfl; exact calls worker), none⟩
  | take u m given =>
    obtain ⟨caller, there, none, answer⟩ := given
    have clear := (rooted caller (List.mem_of_getElem? there)).clear (by simp [none])
    simp [answer, Answer.owned] at clear
  | expire u ticket waits =>
    obtain ⟨caller, there, frames⟩ := waits
    rw [World.assign_eq there]
    refine ⟨thread, other ?_, none⟩
    rintro rfl
    obtain rfl : caller = thread := Option.some.inj (there.symm.trans here)
    rw [none] at frames
    cases frames

end Scene

end DispatchServer
