import DispatchServer.Proofs.Staff

/-! The thread that ends a server. It joins the server's threads, closes the queue, fails what is
left in the channel, and reports how much that was; a panic in a callback cuts this short. -/
namespace DispatchServer

namespace Frame

def finishes : Frame → Bool
  | join .. | stop | close | closeChannel | drain _ | tally _ | report .. | unpin _
  | unmap _ => true
  | _ => false

def Ends (f : Frame) : Prop := f.finishes ∨ f.produces

theorem aloof_of_ends {f : Frame} (own : f.Ends) : f.Aloof := by
  rcases own with own | own
  · cases f <;> first | exact ⟨rfl, .refl _, rfl, rfl⟩ | cases own
  · exact aloof_of_produces own

def releases : Frame → Bool
  | unpin _ | unmap _ => true
  | _ => false

/-- What comes after the queue was closed: the number of drained messages is handed on from frame to
frame. -/
inductive Reporting (n : Nat) : List Frame → Answer → Prop
  | tallies {joined requested started : Nat} {below : List Frame}
      (releases : ∀ f ∈ below, f.releases) :
      Reporting n (tally joined :: report requested started :: below) (.count n)
  | reports {joined requested started : Nat} {below : List Frame}
      (releases : ∀ f ∈ below, f.releases) :
      Reporting n (report requested started :: below) (.outcome joined n)
  | releases {requested started : Nat} {reason : Option ShutdownReason} {below : List Frame}
      (releases : ∀ f ∈ below, f.releases) :
      Reporting n below (.report requested started n reason)

variable {f : Frame} {thread : String} {answer answer' : Answer} {exits : Nat → Option Exit}
  {s s' : Shared} {frames : List Frame} {goesOn : Bool}

theorem Reporting.step {n : Nat} {below : List Frame} (reporting : Reporting n (f :: below) answer)
    (h : f.step thread answer exits s = .moved s' frames answer') :
    Reporting n (frames ++ below) answer' ∧ s'.traffic = s.traffic := by
  cases reporting with
  | tallies releases => cases h; exact ⟨.reports releases, rfl⟩
  | reports releases => cases h; exact ⟨.releases releases, Shared.traffic_log _ _ _⟩
  | releases releases =>
    have own := releases f List.mem_cons_self
    cases f with
    | unpin buffers =>
      cases buffers <;> cases h
      · exact ⟨.releases fun g member => releases g (List.mem_cons_of_mem _ member), rfl⟩
      · refine ⟨.releases fun g member => ?_, Shared.traffic_unpin _ _⟩
        rcases List.mem_cons.1 member with rfl | member
        · rfl
        · exact releases g (List.mem_cons_of_mem _ member)
    | unmap size =>
      cases h
      refine ⟨.releases fun g member => releases g (List.mem_cons_of_mem _ member), ?_⟩
      rw [Shared.traffic_record]
      rfl
    | _ => cases own

theorem Reporting.quiet {n : Nat} {below : List Frame} (reporting : Reporting n (f :: below) answer)
    (thread : String) (s : Shared) :
    f.flow thread answer s = .quiet ∧ ∀ device text held, f ≠ .run device (.panic text) held := by
  cases reporting with
  | tallies | reports => exact ⟨rfl, by simp⟩
  | releases releases =>
    have own := releases f List.mem_cons_self
    cases f with
    | unpin | unmap => exact ⟨rfl, by simp⟩
    | _ => cases own

theorem kept_of_join {pending : List Nat} {joined : Nat}
    (h : (join pending joined).step thread answer exits s = .moved s' frames answer') :
    s.Kept s' := by
  cases moves_of_step h with
  | joined | joins | joinsPanicked => exact ⟨rfl, rfl, fun _ => id, id⟩

theorem step_ends (own : f.Ends) (confined : ∀ m ∈ f.waiting, m.plan.confined)
    (h : f.step thread answer exits s = .moved s' frames answer') : ∀ g ∈ frames, g.Ends := by
  rcases own with own | own
  · cases moves_of_step h with
    | joined | joins | joinsPanicked | stops | stopsAgain | closes | closesAgain | seals | drained
    | drains | tallies | talliesNone | reports | unpinned | unpins | unmaps =>
      simp [Ends, finishes, produces]
    | _ => cases own
  · exact fun g member => .inr (step_produces own confined h g member)

theorem unwind_ends (own : f.Ends) (h : f.unwind thread s = (s', frames, goesOn)) :
    (∀ g ∈ frames, g.Ends) ∧ goesOn = true := by
  cases f with
  | run device script held =>
    cases held <;> cases h
    · simp
    · simpa [Ends, finishes, produces] using own
  | leave held given => cases held <;> cases h <;> simp [Ends, produces]
  | unpin buffers => cases buffers <;> cases h <;> simp [Ends, finishes]
  | guard worker desc => simp [Ends, finishes, produces] at own
  | _ => cases h; simp

theorem flow_fair_of_ends (own : f.Ends) : (f.flow thread answer s).Fair none := by
  rcases own with own | own
  · cases f with
    | drain returned => simp only [flow]; split <;> trivial
    | _ => trivial
  · exact flow_fair_of_produces own

end Frame

namespace Thread

def Ends (thread : Thread) : Prop := ∀ f ∈ thread.frames, f.Ends

variable {thread thread' : Thread} {exits : Nat → Option Exit} {s s' : Shared}

theorem Steps.ends (steps : thread.Steps exits s s' thread')
    (confined : ∀ m ∈ thread.waiting, m.plan.confined) (own : thread.Ends) : thread'.Ends :=
  steps.all (fun here own h => Frame.step_ends own
      (fun m member => confined m (waiting_of_mem here member)) h)
    (fun own h => (Frame.unwind_ends own h).1) own

theorem flow_fair_of_ends (own : thread.Ends) (s : Shared) : (thread.flow s).Fair none := by
  unfold flow
  split
  · trivial
  · rename_i f rest top calm
    exact Frame.flow_fair_of_ends (own f (by simp [top]))
  · exact Frame.lossFlow_fair _

theorem Rooted.calling_all {name : String} {frames : List Frame}
    (formed : ∀ f ∈ frames, f.formed) (all : ∀ f ∈ frames, f.Aloof ∧ f.brief = false) :
    (Thread.calling name frames).Rooted := by
  refine Typed.calling_all (fun f member => ?_) (fun f member => ?_)
  · rcases List.mem_append.1 member with member | member
    · exact formed f member
    · rw [List.mem_singleton.1 member]
      rfl
  · rcases List.mem_append.1 member with member | member
    · obtain ⟨aloof, patient⟩ := all f member
      exact ⟨aloof.yields, aloof.takes, patient⟩
    · rw [List.mem_singleton.1 member]
      exact ⟨.refl _, rfl, rfl⟩

theorem Ends.taken (own : thread.Ends) (rooted : thread.Rooted) : thread.taken = 0 :=
  taken_of_aloof rooted fun f member => Frame.aloof_of_ends (own f member)

end Thread

namespace Scene

variable {workers : List Nat} {staff : List String} {drained : Multiset Nat} {sc : Scene}

theorem Staffed.ends {t : Nat} (staffed : sc.Staffed workers staff (some t) drained)
    {thread thread' : Thread} {s' : Shared} (here : sc.world.threads[t]? = some thread)
    (outside : t ∉ workers) (own : thread.Ends)
    (steps : thread.Steps sc.world.exits sc.world.shared s' thread') :
    Staffed workers staff (some t)
      (drained + (thread.flow sc.world.shared).receives.map Message.ticket)
      ⟨⟨s', sc.world.threads.set t thread'⟩, sc.hands⟩ := by
  have typed := staffed.typed thread (List.mem_of_getElem? here)
  have rooted := staffed.rooted thread (List.mem_of_getElem? here)
  have fair := thread.flow_fair_of_ends own sc.world.shared
  have own' := steps.ends (staffed.confined here) own
  refine staffed.set _ here (links_step sc.hands here steps typed) fair (by simp)
    (typed.step steps) (rooted.step steps) ?_ (fun worker => absurd worker outside)
    (fun _ apart => absurd rfl apart)
  rw [own.taken rooted, own'.taken (rooted.step steps), fair.begins_eq_zero, zero_add]

/-- What was done towards the end of the server in the first scene is not undone in the second. -/
structure Onward (workers : List Nat) (sc sc' : Scene) : Prop where
  quit : ∀ t ∈ workers, sc.Over t → sc'.Over t
  closing : sc.world.shared.closing = true → sc'.world.shared.closing = true
  sealed : sc.world.shared.sealed = true → sc'.world.shared.sealed = true
  failed : ∀ k, sc.traffic.failures k = [.queueClosed] → sc'.traffic.failures k = [.queueClosed]

theorem Move.onward {sc' : Scene} (h : Move (.server workers) sc sc') (sound : sc.Sound)
    (rooted : ∀ thread ∈ sc.world.threads, thread.Rooted) : Onward workers sc sc' where
  quit t worker quit := h.over rooted worker quit
  closing := (h.closing sound).1
  sealed := (h.closing sound).2
  failed k failed := by rw [h.failed sound (by simp [failed]), failed]

/-- All threads of the server have come to their end. -/
def Deserted (workers : List Nat) (sc : Scene) : Prop := ∀ t ∈ workers, sc.Over t

/-- The queue is shut, and so many messages were drained and failed. -/
structure Shut (sc : Scene) (drained : Multiset Nat) (n : Nat) : Prop where
  closing : sc.world.shared.closing = true
  sealed : sc.world.shared.sealed = true
  count : drained.card = n
  failed : ∀ k ∈ drained, sc.traffic.failures k = [.queueClosed]

/-- How far the thread has come that ends the server, with the tickets it has drained. -/
inductive Ending (workers : List Nat) (requested started : Nat) (below : List Frame) (sc : Scene) :
    Multiset Nat → Thread → Prop
  | joins {name : String} {answer : Answer} {pending : List Nat} {joined : Nat}
      (opened : sc.world.shared.Opened) (left : ∀ t ∈ workers, t ∈ pending ∨ sc.Over t) :
      Ending workers requested started below sc 0
        ⟨name, .join pending joined :: .stop :: .report requested started :: below, answer, none⟩
  | stops {name : String} {answer : Answer} (opened : sc.world.shared.Opened)
      (deserted : Deserted workers sc) :
      Ending workers requested started below sc 0
        ⟨name, .stop :: .report requested started :: below, answer, none⟩
  | closes {name : String} {answer : Answer} {joined : Nat}
      (opened : sc.world.shared.closing = false) (deserted : Deserted workers sc) :
      Ending workers requested started below sc 0
        ⟨name, .close :: .tally joined :: .report requested started :: below, answer, none⟩
  | seals {name : String} {answer : Answer} {joined : Nat}
      (closing : sc.world.shared.closing = true) (deserted : Deserted workers sc) :
      Ending workers requested started below sc 0
        ⟨name, .closeChannel :: .tally joined :: .report requested started :: below, answer, none⟩
  | fails {name : String} {answer : Answer} {joined n : Nat} {drained : Multiset Nat} {m : Message}
      (shut : sc.Shut drained n) (deserted : Deserted workers sc) :
      Ending workers requested started below sc (drained + {m.ticket})
        ⟨name, .fail m .queueClosed :: .drain (n + 1) :: .tally joined ::
          .report requested started :: below, answer, none⟩
  | drains {name : String} {answer : Answer} {joined n : Nat} {drained : Multiset Nat}
      {above : List Frame} (own : ∀ f ∈ above, f.produces) (shut : sc.Shut drained n)
      (deserted : Deserted workers sc) :
      Ending workers requested started below sc drained
        ⟨name, above ++ .drain n :: .tally joined :: .report requested started :: below, answer,
          none⟩
  | reports {name : String} {frames : List Frame} {answer : Answer} {n : Nat}
      {drained : Multiset Nat} (shut : sc.Shut drained n) (empty : sc.traffic.channel = [])
      (deserted : Deserted workers sc) (reporting : Frame.Reporting n frames answer) :
      Ending workers requested started below sc drained ⟨name, frames, answer, none⟩
  | panics {drained : Multiset Nat} {thread : Thread} (panics : thread.panicking ≠ none) :
      Ending workers requested started below sc drained thread

variable {sc' : Scene} {requested started n : Nat} {below : List Frame} {thread thread' : Thread}

theorem Onward.deserted (onward : Onward workers sc sc') (deserted : Deserted workers sc) :
    Deserted workers sc' :=
  fun t worker => onward.quit t worker (deserted t worker)

theorem Onward.shut (onward : Onward workers sc sc') (shut : sc.Shut drained n) :
    sc'.Shut drained n where
  closing := onward.closing shut.closing
  sealed := onward.sealed shut.sealed
  count := shut.count
  failed k member := onward.failed k (shut.failed k member)

/-- What the others do does not set back the end of the server. -/
theorem Ending.aside (ending : sc.Ending workers requested started below drained thread)
    (onward : Onward workers sc sc') (kept : sc.world.shared.Kept sc'.world.shared) :
    sc'.Ending workers requested started below drained thread := by
  cases ending with
  | joins opened left =>
    exact .joins (opened.kept kept) fun t worker => (left t worker).imp_right (onward.quit t worker)
  | stops opened deserted => exact .stops (opened.kept kept) (onward.deserted deserted)
  | closes opened deserted =>
    exact .closes (kept.closing.trans opened) (onward.deserted deserted)
  | seals closing deserted => exact .seals (onward.closing closing) (onward.deserted deserted)
  | fails shut deserted => exact .fails (onward.shut shut) (onward.deserted deserted)
  | drains own shut deserted => exact .drains own (onward.shut shut) (onward.deserted deserted)
  | reports shut empty deserted reporting =>
    exact .reports (onward.shut shut) (kept.empty shut.sealed empty) (onward.deserted deserted)
      reporting
  | panics panics => exact .panics panics

theorem over_of_exits {t : Nat} {exit : Exit} (h : sc.world.exits t = some exit) : sc.Over t := by
  unfold World.exits at h
  split at h
  · cases h
  · rename_i thread here
    split at h
    · rename_i finished
      exact ⟨thread, here, by simpa [Thread.finished] using finished⟩
    · cases h

section

variable {name : String} {answer answer' : Answer} {frames : List Frame} {joined : Nat}
  {s' : Shared} (onward : Onward workers sc sc') (shared : sc'.world.shared = s')
include onward shared

/-- One more thread is joined, or all of them have been. -/
theorem Onward.joins {pending : List Nat} (opened : sc.world.shared.Opened)
    (left : ∀ t ∈ workers, t ∈ pending ∨ sc.Over t)
    (h : (Frame.join pending joined).step name answer sc.world.exits sc.world.shared =
      .moved s' frames answer') :
    sc'.Ending workers requested started below 0
      ⟨name, frames ++ .stop :: .report requested started :: below, answer', none⟩ := by
  have opened : sc'.world.shared.Opened := by
    rw [shared]
    exact opened.kept (Frame.kept_of_join h)
  cases pending with
  | nil =>
    cases h
    have deserted : Deserted workers sc' := fun t worker =>
      onward.quit t worker ((left t worker).resolve_left (by simp))
    exact .stops opened deserted
  | cons other pending =>
    have later {exit : Exit} (ended : sc.world.exits other = some exit) (t : Nat)
        (worker : t ∈ workers) : t ∈ pending ∨ sc'.Over t := by
      rcases left t worker with member | gone
      · rcases List.mem_cons.1 member with rfl | member
        · exact .inr (onward.quit t worker (over_of_exits ended))
        · exact .inl member
      · exact .inr (onward.quit t worker gone)
    cases Frame.moves_of_step h with
    | joins ended | joinsPanicked ended => exact .joins opened (later ended)

/-- The message that was drained last is failed. -/
theorem Onward.fails {m : Message} (shut : sc.Shut drained n) (deserted : Deserted workers sc)
    (unfailed : sc.traffic.failures m.ticket = []) (confined : m.plan.confined)
    (h : (Frame.fail m .queueClosed).step name answer sc.world.exits sc.world.shared =
      .moved s' frames answer') :
    sc'.Ending workers requested started below (drained + {m.ticket})
      ⟨name, frames ++ .drain (n + 1) :: .tally joined :: .report requested started :: below,
        answer', none⟩ := by
  have failed : sc'.traffic.failures m.ticket = [.queueClosed] := by
    rw [traffic, shared, Frame.traffic_fail h, Flow.failures_apply]
    simp [Event.failure?, unfailed]
  have shut : sc'.Shut (drained + {m.ticket}) (n + 1) := by
    have next := onward.shut shut
    refine ⟨next.closing, next.sealed, by simp [shut.count], fun k member => ?_⟩
    rcases Multiset.mem_add.1 member with member | member
    · exact next.failed k member
    · rw [Multiset.mem_singleton.1 member]
      exact failed
  have waits : ∀ m' ∈ (Frame.fail m .queueClosed).waiting, m'.plan.confined := by
    simpa [Frame.waiting, Frame.owned] using confined
  exact .drains (Frame.step_produces rfl waits h) shut (onward.deserted deserted)

/-- One more message comes out of the channel, or there is none left. -/
theorem Onward.drains {drained' : Multiset Nat} (shut : sc.Shut drained n)
    (deserted : Deserted workers sc) (releases : ∀ f ∈ below, f.releases)
    (h : (Frame.drain n).step name answer sc.world.exits sc.world.shared =
      .moved s' frames answer')
    (more : drained' = drained +
      ((Frame.drain n).flow name answer sc.world.shared).receives.map Message.ticket) :
    sc'.Ending workers requested started below drained'
      ⟨name, frames ++ .tally joined :: .report requested started :: below, answer', none⟩ := by
  have shut := onward.shut shut
  have deserted := onward.deserted deserted
  cases Frame.moves_of_step h with
  | drained empty =>
    obtain rfl : drained' = drained := by simpa [Frame.flow, empty] using more
    have empty : sc'.traffic.channel = [] := by
      rw [traffic, shared, Shared.traffic_log]
      exact (Channel.pop?_eq_none_iff _).1 empty
    exact .reports shut empty deserted (.tallies releases)
  | @drains _ m _ popped =>
    obtain rfl : drained' = drained + {m.ticket} := by simpa [Frame.flow, popped] using more
    exact .fails shut deserted

end

/-- The script of a message that is failed goes on, and drains nothing. -/
theorem Onward.runs {name : String} {answer answer' : Answer} {f : Frame}
    {frames above : List Frame} {joined : Nat} {s' : Shared} {drained' : Multiset Nat}
    (onward : Onward workers sc sc') (shut : sc.Shut drained n) (deserted : Deserted workers sc)
    (scripts : ∀ g ∈ f :: above, g.produces) (confined : ∀ m ∈ f.waiting, m.plan.confined)
    (h : f.step name answer sc.world.exits sc.world.shared = .moved s' frames answer')
    (more : drained' = drained +
      (f.flow name answer sc.world.shared).receives.map Message.ticket) :
    sc'.Ending workers requested started below drained' ⟨name, frames ++ (above ++
      .drain n :: .tally joined :: .report requested started :: below), answer', none⟩ := by
  obtain ⟨own, rest⟩ := List.forall_mem_cons.1 scripts
  have none := @Frame.receives_of_produces f name answer sc.world.shared own
  obtain rfl : drained' = drained := by rwa [none, Multiset.map_zero, add_zero] at more
  have scripts : ∀ g ∈ frames ++ above, g.produces :=
    List.forall_mem_append.2 ⟨Frame.step_produces own confined h, rest⟩
  simpa only [List.append_assoc] using
    Ending.drains scripts (onward.shut shut) (onward.deserted deserted)

/-- One step of the thread that ends the server. -/
theorem Ending.step {s' : Shared} {drained' : Multiset Nat} {t : Nat} (sound : sc.Sound)
    (here : sc.world.threads[t]? = some thread) (releases : ∀ f ∈ below, f.releases)
    (confined : ∀ m ∈ thread.waiting, m.plan.confined)
    (ending : sc.Ending workers requested started below drained thread)
    (steps : thread.Steps sc.world.exits sc.world.shared s' thread') (own : thread.Ends)
    (onward : Onward workers sc sc') (shared : sc'.world.shared = s')
    (more : drained' = drained + (thread.flow sc.world.shared).receives.map Message.ticket) :
    sc'.Ending workers requested started below drained' thread' := by
  cases ending with
  -- Before the queue is shut nothing is received, and so nothing is drained.
  | @joins name answer pending joined opened left =>
    obtain rfl : drained' = 0 := by simpa [Thread.flow, Frame.flow] using more
    obtain ⟨frames, answer', h, rfl⟩ := steps.of_calm (by simp)
    exact onward.joins shared opened left h
  | @stops name answer opened deserted =>
    obtain rfl : drained' = 0 := by simpa [Thread.flow, Frame.flow] using more
    obtain ⟨frames, answer', h, rfl⟩ := steps.of_calm (by simp)
    cases Frame.moves_of_step h with
    | stopsAgain stopped => exact absurd stopped opened.state
    | stops =>
      have opened : sc'.world.shared.closing = false := by
        rw [shared]
        exact opened.closing
      exact .closes opened (onward.deserted deserted)
  | @closes name answer joined opened deserted =>
    obtain rfl : drained' = 0 := by simpa [Thread.flow, Frame.flow] using more
    obtain ⟨frames, answer', h, rfl⟩ := steps.of_calm (by simp)
    simp only [Frame.step, opened] at h
    cases h
    have closing : sc'.world.shared.closing = true := by rw [shared]
    exact .seals closing (onward.deserted deserted)
  | @seals name answer joined closing deserted =>
    obtain rfl : drained' = 0 := by simpa [Thread.flow, Frame.flow] using more
    obtain ⟨frames, answer', h, rfl⟩ := steps.of_calm (by simp)
    cases h
    have shut : sc'.Shut 0 0 := ⟨onward.closing closing, by rw [shared], rfl, by simp⟩
    have none : ∀ f ∈ ([] : List Frame), f.produces := by simp
    exact .drains none shut (onward.deserted deserted)
  | @fails name answer joined n drained m shut deserted =>
    obtain rfl : drained' = drained + {m.ticket} := by simpa [Thread.flow, Frame.flow] using more
    obtain ⟨frames, answer', h, rfl⟩ := steps.of_calm (by simp)
    have waits : m ∈ (Thread.mk name (.fail m .queueClosed :: .drain (n + 1) :: .tally joined ::
        .report requested started :: below) answer none).waiting :=
      Thread.waiting_of_mem List.mem_cons_self (by simp [Frame.waiting, Frame.owned])
    have unfailed := sound.unfailed (copies_held_ne_zero here waits)
    exact onward.fails shared shut deserted unfailed (confined m waits) h
  | @drains name answer joined n drained above scripts shut deserted =>
    cases above with
    | nil =>
      obtain ⟨frames, answer', h, rfl⟩ := steps.of_calm (by simp)
      exact onward.drains shared shut deserted releases h more
    | cons f above =>
      cases steps with
      | @moved f' rest frames answer' s' top calm h =>
        have top : f :: (above ++ _) = f' :: rest := top
        obtain ⟨rfl, rfl⟩ := List.cons.inj top
        exact onward.runs shut deserted scripts
          (fun m member => confined m (Thread.waiting_of_mem List.mem_cons_self member)) h more
      | panicked => exact .panics (by simp)
      | unwound _ panics => cases panics
  | @reports name frames answer n drained shut empty deserted reporting =>
    cases frames with
    | nil => cases steps <;> simp_all
    | cons f below =>
      obtain ⟨quiet, calm⟩ := reporting.quiet name sc.world.shared
      obtain rfl : drained' = drained := by simpa [Thread.flow, quiet] using more
      obtain ⟨frames, answer', h, rfl⟩ := steps.of_calm calm
      obtain ⟨reporting, same⟩ := reporting.step h
      have empty : sc'.traffic.channel = [] := by
        rw [traffic, shared, same]
        exact empty
      exact .reports (onward.shut shut) empty (onward.deserted deserted) reporting
  | panics panics =>
    cases steps with
    | moved top calm h => exact absurd calm panics
    | panicked top calm => exact absurd calm panics
    | @unwound f rest frames text s' goesOn top text' h =>
      obtain ⟨-, rfl⟩ := Frame.unwind_ends (own f (by simp [top])) h
      exact .panics (by simp)

theorem Ending.reported (ending : sc.Ending workers requested started below drained thread)
    (none : thread.frames = []) (calm : thread.panicking = .none) :
    ∃ n requested started reason, thread.answer = .report requested started n reason ∧
      sc.Shut drained n ∧ sc.traffic.channel = [] ∧ Deserted workers sc := by
  cases ending with
  | reports shut empty deserted reporting =>
    cases none
    cases reporting
    exact ⟨_, _, _, _, rfl, shut, empty, deserted⟩
  | drains => simp at none
  | panics panics => exact absurd calm panics
  | _ => cases none

end Scene

end DispatchServer
