import DispatchServer.Proofs.Coordinator
import DispatchServer.Proofs.Crew

/-! How a crew is joined, and the queue closed after that. One thread waits for those of the crew,
last started first, while all others go on with whatever they do; it counts those that did not
panic, and a panic of one keeps it neither from the others nor from closing the queue. -/
namespace DispatchServer

def survivors (crew : List (Nat × Bool)) : Nat := crew.countP fun p => !p.2

theorem survivors_reverse (crew : List (Nat × Bool)) : survivors crew.reverse = survivors crew :=
  List.countP_reverse

theorem survivors_eq (crew : List (Nat × Bool)) :
    survivors crew = crew.length - crew.countP (·.2) := by
  have all := crew.length_eq_countP_add_countP (·.2)
  have same : crew.countP (fun p => decide ¬p.2 = true) = survivors crew := by
    simp [survivors]
  omega

namespace Scene

variable {crew : List (Nat × Bool)} {ender : Option Nat} {sc sc' : Scene} {t : Nat}

/-- Each thread of the crew fares as it has to, and nobody is joined unless by the thread that is to
end the server. -/
structure Crewed (crew : List (Nat × Bool)) (ender : Option Nat) (sc : Scene) : Prop where
  fares : ∀ p ∈ crew, ∃ thread, sc.world.threads[p.1]? = some thread ∧ thread.Fares p.2
  aloof : sc.Aloof ender

theorem Crewed.panicked (crewed : sc.Crewed crew ender) {p : Nat × Bool} (member : p ∈ crew)
    {exit : Exit} (ended : sc.world.exits p.1 = some exit) : exit.panicked = p.2 := by
  obtain ⟨thread, here, fares⟩ := crewed.fares p member
  simp only [World.exits, here] at ended
  split at ended
  · rename_i gone
    cases ended
    exact (fares.ended (List.isEmpty_iff.1 gone)).1
  · cases ended

/-- A thread of the crew cannot be the one that waits. -/
theorem Crewed.move (crewed : sc.Crewed crew ender)
    (h : Move (.crew (crew.map Prod.fst)) sc sc')
    (busy : ∀ t ∈ ender, ∀ thread ∈ sc.world.threads[t]?, thread.frames ≠ [] ∧
      ∀ ticket, thread.frames ≠ [.awaitReply ticket]) :
    sc'.Crewed crew ender ∧ ((sc.world.shared.Spares sc'.world.shared ∧ ∀ t ∈ ender, ∀ thread,
      sc.world.threads[t]? = some thread → sc'.world.threads[t]? = some thread) ∨
    ∃ t ∈ ender, ∃ thread thread', sc.world.threads[t]? = some thread ∧
      thread.Steps sc.world.exits sc.world.shared sc'.world.shared thread' ∧
      sc'.world.threads[t]? = some thread') := by
  have fares : ∀ p ∈ crew, ∃ thread, sc'.world.threads[p.1]? = some thread ∧
      thread.Fares p.2 := by
    intro p member
    obtain ⟨thread, here, fares⟩ := crewed.fares p member
    exact h.fares_crew (List.mem_map_of_mem member) here fares
  rcases h.spares_cases crewed.aloof busy with ⟨spares, aloof, kept⟩ |
    ⟨t, own, thread, thread', s', here, steps, rfl⟩
  · exact ⟨⟨fares, aloof⟩, .inl ⟨spares, kept⟩⟩
  · exact ⟨⟨fares, aloof_set crewed.aloof fun outside => absurd own outside⟩,
      .inr ⟨t, own, thread, thread', here, steps, getElem?_set_here here⟩⟩

theorem Reaches.crewed (run : Reaches (.crew (crew.map Prod.fst)) sc sc')
    (crewed : sc.Crewed crew none) (going : sc.world.shared.state ≠ .stopped) :
    sc'.Crewed crew none ∧ sc'.world.shared.state ≠ .stopped := by
  induction run with
  | refl => exact ⟨crewed, going⟩
  | tail _ move ih =>
    obtain ⟨crewed, going⟩ := ih
    obtain ⟨crewed, ⟨spares, -⟩ | ⟨t, own, -⟩⟩ := crewed.move move (by simp)
    · exact ⟨crewed, fun stopped => going (spares.stopped stopped)⟩
    · cases own

/-- A call that goes through phases above what stands below it, each a matter of the shared state
and the stack of the caller, to an answer. -/
structure Proceeds (crew : List (Nat × Bool)) (t : Nat) (below : List Frame)
    (phase : Shared → Thread → Prop) (outcome : Shared → Answer → Prop) : Prop where
  above : ∀ {s : Shared} {thread : Thread}, phase s thread → (∃ above, above ≠ [] ∧
    thread.frames = above ++ below) ∧ ∀ ticket, thread.frames ≠ [.awaitReply ticket]
  aside : ∀ {s s' : Shared} {thread : Thread}, phase s thread → s.Spares s' → phase s' thread
  own : ∀ {sc : Scene} {s' : Shared} {thread thread' : Thread}, sc.Crewed crew (some t) →
    phase sc.world.shared thread → thread.Steps sc.world.exits sc.world.shared s' thread' →
      phase s' thread' ∨ thread'.frames = below ∧
        (thread'.panicking = none → outcome s' thread'.answer)

namespace Proceeds

variable {below : List Frame} {phase : Shared → Thread → Prop} {outcome : Shared → Answer → Prop}
  {thread : Thread} {answer : Answer} (proceeds : Proceeds crew t below phase outcome)
include proceeds

/-- The caller is in one of the phases. -/
theorem move (crewed : sc.Crewed crew (some t)) (here : sc.world.threads[t]? = some thread)
    (now : phase sc.world.shared thread) (h : Move (.crew (crew.map Prod.fst)) sc sc') :
    sc'.Crewed crew (some t) ∧ ∃ thread', sc'.world.threads[t]? = some thread' ∧
      (phase sc'.world.shared thread' ∨ thread'.frames = below ∧
        (thread'.panicking = none → outcome sc'.world.shared thread'.answer)) := by
  have busy : ∀ u ∈ some t, ∀ other ∈ sc.world.threads[u]?, other.frames ≠ [] ∧
      ∀ ticket, other.frames ≠ [.awaitReply ticket] := by
    rintro u ⟨rfl⟩ other there
    obtain rfl := Option.some.inj (here.symm.trans there)
    obtain ⟨⟨above, some, frames⟩, patient⟩ := proceeds.above now
    exact ⟨by simp [frames, some], patient⟩
  obtain ⟨crewed', ⟨spares, kept⟩ | ⟨_, ⟨rfl⟩, other, thread', there, steps, here'⟩⟩ :=
    crewed.move h busy
  · exact ⟨crewed', thread, kept t rfl thread here, .inl (proceeds.aside now spares)⟩
  · obtain rfl := Option.some.inj (here.symm.trans there)
    exact ⟨crewed', thread', here', proceeds.own crewed now steps⟩

theorem within (crewed : sc.Crewed crew (some t)) (here : sc.world.threads[t]? = some thread)
    (now : phase sc.world.shared thread)
    (run : Within (.crew (crew.map Prod.fst)) t below sc sc') :
    sc'.Crewed crew (some t) ∧
      ∃ thread', sc'.world.threads[t]? = some thread' ∧ phase sc'.world.shared thread' := by
  induction run with
  | refl => exact ⟨crewed, thread, here, now⟩
  | tail _ move ih =>
    obtain ⟨crewed, thread, here, now⟩ := ih
    obtain ⟨crewed, thread', here', now | ⟨back, -⟩⟩ := proceeds.move crewed here now move.1
    · exact ⟨crewed, thread', here', now⟩
    · -- The call has not returned yet.
      obtain ⟨other, there, above, some, high⟩ := move.2
      obtain rfl := Option.some.inj (here'.symm.trans there)
      rw [back] at high
      simp [List.self_eq_append_left, some] at high

theorem leaves (crewed : sc.Crewed crew (some t)) (here : sc.world.threads[t]? = some thread)
    (now : phase sc.world.shared thread)
    (leaves : Leaves (.crew (crew.map Prod.fst)) t below sc sc' answer) :
    outcome sc'.world.shared answer := by
  obtain ⟨name, before, run, final, back⟩ := leaves
  obtain ⟨crewed, thread, here, now⟩ := proceeds.within crewed here now run
  obtain ⟨-, thread', here', now | ⟨-, told⟩⟩ := proceeds.move crewed here now final
  all_goals obtain rfl := Option.some.inj (here'.symm.trans back)
  · obtain ⟨⟨above, some, frames⟩, -⟩ := proceeds.above now
    simp [List.self_eq_append_left, some] at frames
  · exact told rfl

end Proceeds

variable {before : List (Nat × Bool)} {below : List Frame} {s s' : Shared} {thread thread' : Thread}

inductive Joining (crew before : List (Nat × Bool)) (below : List Frame) (s : Shared) :
    Thread → Prop
  | joins {name : String} {left : Answer} {gone rest : List (Nat × Bool)}
      (split : crew.reverse = gone ++ rest) (gathered : s.gathered = before ++ gone) :
      Joining crew before below s
        ⟨name, .join (rest.map Prod.fst) (survivors gone) :: below, left, none⟩

theorem Joining.own (joining : Joining crew before below sc.world.shared thread)
    (crewed : sc.Crewed crew ender)
    (steps : thread.Steps sc.world.exits sc.world.shared s' thread') :
    (s'.state = sc.world.shared.state ∧ s'.closing = sc.world.shared.closing) ∧
      (Joining crew before below s' thread' ∨ ∃ name,
        thread' = ⟨name, below, .count (survivors crew), none⟩ ∧
          s'.gathered = before ++ crew.reverse) := by
  obtain @⟨name, left, gone, rest, split, gathered⟩ := joining
  obtain ⟨frames, answer, h, rfl⟩ := steps.of_calm (by simp)
  cases rest with
  | nil =>
    cases h
    rw [List.append_nil] at split
    rw [← split, survivors_reverse]
    exact ⟨⟨rfl, rfl⟩, .inr ⟨name, rfl, by rw [Shared.gathered_log, gathered, split]⟩⟩
  | cons p rest =>
    have member : p ∈ crew := by
      rw [← List.mem_reverse, split]
      simp
    have onward : crew.reverse = (gone ++ [p]) ++ rest := by rw [split]; simp
    cases Frame.moves_of_step h with
    | joins ended =>
      have sane : false = p.2 := crewed.panicked member ended
      have joined : survivors gone + 1 = survivors (gone ++ [p]) := by
        simp [survivors, ← sane]
      refine ⟨⟨rfl, rfl⟩, .inl ?_⟩
      rw [joined]
      refine .joins onward ?_
      rw [Shared.gathered_record, gathered, List.append_assoc, sane]
      rfl
    | joinsPanicked ended =>
      have panics : true = p.2 := crewed.panicked member ended
      have joined : survivors gone = survivors (gone ++ [p]) := by
        simp [survivors, ← panics]
      refine ⟨⟨rfl, rfl⟩, .inl ?_⟩
      rw [joined]
      refine .joins onward ?_
      rw [Shared.gathered_log, Shared.gathered_record, gathered, List.append_assoc, panics]
      rfl

theorem Joining.aside (joining : Joining crew before below s thread) (spares : s.Spares s') :
    Joining crew before below s' thread := by
  cases joining with
  | joins split gathered => exact .joins split (spares.gathered.trans gathered)

theorem Joining.alone {w : World} (joining : Joining crew before below w.shared thread)
    (here : w.threads[t]? = some thread) (gone : ∀ p ∈ crew, w.exits p.1 ≠ none) :
    ∃ steps name joined, (w.advanceFor t steps).threads[t]? =
        some ⟨name, below, .count joined, none⟩ ∧
      (w.advanceFor t steps).shared.state = w.shared.state := by
  obtain @⟨name, left, earlier, rest, split, -⟩ := joining
  have ended : ∀ u ∈ rest.map Prod.fst, w.exits u ≠ none := by
    intro u member
    obtain ⟨p, own, rfl⟩ := List.mem_map.1 member
    exact gone p (by rw [← List.mem_reverse, split]; exact List.mem_append_right _ own)
  obtain ⟨steps, joined, back, -, state, -⟩ := World.join_alone here ended
  exact ⟨steps, name, joined, back, state⟩

theorem proceeds_join (crew before : List (Nat × Bool)) (t : Nat) (below : List Frame) :
    Proceeds crew t below (Joining crew before below) fun s answer =>
      answer = .count (survivors crew) ∧ s.gathered = before ++ crew.reverse where
  above joining := by
    cases joining with
    | joins => exact ⟨⟨[_], by simp, rfl⟩, by simp⟩
  aside := Joining.aside
  own crewed joining steps := by
    obtain ⟨-, joining | ⟨name, rfl, gathered⟩⟩ := joining.own crewed steps
    · exact .inl joining
    · exact .inr ⟨rfl, fun _ => ⟨rfl, gathered⟩⟩

/-- How far the thread has come that joins the crew, and then stops the server and closes its
queue. -/
inductive Disbanding (crew before : List (Nat × Bool)) (below : List Frame) (s : Shared) :
    Thread → Prop
  | joins {thread : Thread} (joining : Joining crew before (.stop :: below) s thread)
      (going : s.state ≠ .stopped) : Disbanding crew before below s thread
  | stops {name : String} (gathered : s.gathered = before ++ crew.reverse)
      (going : s.state ≠ .stopped) :
      Disbanding crew before below s ⟨name, .stop :: below, .count (survivors crew), none⟩
  | closes {name : String} {left : Answer} (gathered : s.gathered = before ++ crew.reverse) :
      Disbanding crew before below s
        ⟨name, .close :: .tally (survivors crew) :: below, left, none⟩
  | closed {thread : Thread} {above : List Frame} (gathered : s.gathered = before ++ crew.reverse)
      (closing : s.closing = true) (apart : ∀ f ∈ above, f.gathers = false)
      (frames : thread.frames = above ++ .tally (survivors crew) :: below) :
      Disbanding crew before below s thread

theorem Disbanding.aside (disbanding : Disbanding crew before below s thread)
    (spares : s.Spares s') : Disbanding crew before below s' thread := by
  cases disbanding with
  | joins joining going => exact .joins (joining.aside spares) (mt spares.stopped going)
  | stops gathered going =>
    exact .stops (spares.gathered.trans gathered) (mt spares.stopped going)
  | closes gathered => exact .closes (spares.gathered.trans gathered)
  | closed gathered closing apart frames =>
    exact .closed (spares.gathered.trans gathered) (spares.closing closing) apart frames

/-- What a call has come to that joins the crew and closes the queue. -/
def Disbanded (crew before : List (Nat × Bool)) (s : Shared) (answer : Answer) : Prop :=
  (∃ drained, answer = .outcome (survivors crew) drained) ∧ s.closing = true ∧
    s.gathered = before ++ crew.reverse

theorem Disbanding.closes_on {above : List Frame} {exits : Nat → Option Exit}
    (gathered : s.gathered = before ++ crew.reverse) (closing : s.closing = true)
    (apart : ∀ f ∈ above, f.gathers = false)
    (frames : thread.frames = above ++ .tally (survivors crew) :: below)
    (steps : thread.Steps exits s s' thread') :
    Disbanding crew before below s' thread' ∨ thread'.frames = below ∧
      (thread'.panicking = none → Disbanded crew before s' thread'.answer) := by
  cases above with
  | nil =>
    right
    cases steps with
    | moved top _ h =>
      obtain ⟨rfl, rfl⟩ := List.cons.inj (frames.symm.trans top)
      cases Frame.moves_of_step h with
      | tallies | talliesNone => exact ⟨rfl, fun _ => ⟨⟨_, rfl⟩, closing, gathered⟩⟩
    | panicked top => cases frames.symm.trans top
    | unwound top _ h =>
      obtain ⟨rfl, rfl⟩ := List.cons.inj (frames.symm.trans top)
      cases h
      exact ⟨rfl, by simp⟩
  | cons f above =>
    obtain ⟨spares, above, frames, apart⟩ := steps.spares_above frames (by simp) apart
    exact .inl (.closed (spares.gathered.trans gathered) (spares.closing closing) apart frames)

theorem Disbanding.own (disbanding : Disbanding crew before below sc.world.shared thread)
    (crewed : sc.Crewed crew ender)
    (steps : thread.Steps sc.world.exits sc.world.shared s' thread') :
    Disbanding crew before below s' thread' ∨ thread'.frames = below ∧
      (thread'.panicking = none → Disbanded crew before s' thread'.answer) := by
  cases disbanding with
  | joins joining going =>
    obtain ⟨⟨state, -⟩, joining | ⟨name, rfl, gathered⟩⟩ := joining.own crewed steps
    · exact .inl (.joins joining (by rwa [state]))
    · exact .inl (.stops gathered (by rwa [state]))
  | stops gathered going =>
    obtain ⟨frames, answer, h, rfl⟩ := steps.of_calm (by simp)
    cases Frame.moves_of_step h with
    | stopsAgain stopped => exact absurd stopped going
    | stops =>
      exact .inl (.closes (by rw [Shared.gathered_setState, Shared.gathered_log, gathered]))
  | closes gathered =>
    obtain ⟨frames, answer, h, rfl⟩ := steps.of_calm (by simp)
    obtain ⟨spares, apart⟩ := Frame.step_spares rfl h
    have closing : s'.closing = true := by
      cases Frame.step_coordinates h with
      | quiet other => cases other
      | closes _ _ now => exact now
    exact .inl (.closed (spares.gathered.trans gathered) closing apart rfl)
  | closed gathered closing apart frames =>
    exact closes_on gathered closing apart frames steps

/-- Once all of the crew are joined, the queue is closed before the call comes to its end. -/
theorem proceeds_finish (crew before : List (Nat × Bool)) (t : Nat) (below : List Frame) :
    Proceeds crew t below (Disbanding crew before below) (Disbanded crew before) where
  above disbanding := by
    cases disbanding with
    | joins joining => cases joining; exact ⟨⟨[_, _], by simp, rfl⟩, by simp⟩
    | stops => exact ⟨⟨[_], by simp, rfl⟩, by simp⟩
    | closes => exact ⟨⟨[_, _], by simp, rfl⟩, by simp⟩
    | @closed _ above _ _ _ frames =>
      refine ⟨⟨above ++ [.tally (survivors crew)], by simp, by simp [frames]⟩,
        fun ticket waits => ?_⟩
      have member : .tally (survivors crew) ∈ [Frame.awaitReply ticket] := by
        rw [← waits, frames]
        simp
      simp at member
  aside := Disbanding.aside
  own crewed disbanding steps := disbanding.own crewed steps

theorem closing_of_close {w : World} {name : String} {left : Answer} {n : Nat}
    (here : w.threads[t]? = some ⟨name, .close :: .tally n :: below, left, none⟩) :
    (w.advanceFor t 1).shared.closing = true := by
  cases closing : w.shared.closing with
  | true =>
    obtain ⟨v, shared, -, first, -⟩ := World.demands_of_moved here (if_pos closing)
    rw [first 0, World.advanceFor, shared, closing]
  | false =>
    obtain ⟨v, shared, -, first, -⟩ := World.demands_of_moved here (if_neg (by simp [closing]))
    rw [first 0, World.advanceFor, shared]

theorem closing_of_stop {w : World} {name : String} {n : Nat}
    (here : w.threads[t]? = some ⟨name, .stop :: below, .count n, none⟩)
    (going : w.shared.state ≠ .stopped) : (w.advanceFor t 2).shared.closing = true := by
  have moved : Frame.stop.step name (.count n) w.exits w.shared =
      .moved ((w.shared.log name .stopping).setState .stopped) [.close, .tally n] .done := by
    have going : (w.shared.log name .stopping).state ≠ .stopped := going
    simp only [Frame.step]
  obtain ⟨v, -, threads, first, -⟩ := World.demands_of_moved here moved
  rw [first 1]
  exact closing_of_close (threads ▸ getElem?_set_here here)

theorem Disbanding.closes_alone {w : World}
    (disbanding : Disbanding crew before below w.shared thread)
    (here : w.threads[t]? = some thread) (gone : ∀ p ∈ crew, w.exits p.1 ≠ none) :
    ∃ steps, (w.advanceFor t steps).shared.closing = true := by
  cases disbanding with
  | joins joining going =>
    obtain ⟨steps, name, joined, back, state⟩ := joining.alone here gone
    refine ⟨steps + 2, ?_⟩
    rw [World.advanceFor_add]
    exact closing_of_stop back (by rwa [state])
  | stops _ going => exact ⟨2, closing_of_stop here going⟩
  | closes => exact ⟨1, closing_of_close here⟩
  | closed _ closing => exact ⟨0, closing⟩

/-- What it comes to that the thread has called for the crew to be joined. -/
structure Musters (crew : List (Nat × Bool)) (t : Nat) (below : List Frame) (first : Scene) :
    Prop where
  returns : ∀ last answer, Leaves (.crew (crew.map Prod.fst)) t below first last answer →
    answer = .count (crew.length - crew.countP (·.2)) ∧
      last.world.shared.gathered = first.world.shared.gathered ++ crew.reverse
  alone : ∀ mid, Within (.crew (crew.map Prod.fst)) t below first mid →
    (∀ p ∈ crew, mid.world.exits p.1 ≠ none) → ∃ steps name joined,
      (mid.world.advanceFor t steps).threads[t]? = some ⟨name, below, .count joined, none⟩

/-- What it comes to that the thread has called for the crew to be joined and the queue to be
closed. -/
structure Disbands (crew : List (Nat × Bool)) (t : Nat) (below : List Frame) (first : Scene) :
    Prop where
  returns : ∀ last answer, Leaves (.crew (crew.map Prod.fst)) t below first last answer →
    (∃ drained, answer = .outcome (crew.length - crew.countP (·.2)) drained) ∧
      last.world.shared.closing = true ∧
      last.world.shared.gathered = first.world.shared.gathered ++ crew.reverse
  alone : ∀ mid, Within (.crew (crew.map Prod.fst)) t below first mid →
    (∀ p ∈ crew, mid.world.exits p.1 ≠ none) → ∃ steps,
      (mid.world.advanceFor t steps).shared.closing = true

theorem Crewed.of_none (crewed : sc.Crewed crew none) (t : Nat) : sc.Crewed crew (some t) :=
  ⟨crewed.fares, fun u thread _ => crewed.aloof u thread (by simp)⟩

theorem Crewed.assign (crewed : sc.Crewed crew none) (outside : t ∉ crew.map Prod.fst)
    {caller : Thread} (here : caller ∈ sc.world.threads[t]?) (frames : List Frame) :
    Crewed crew (some t) ⟨sc.world.assign t frames, sc.hands⟩ ∧
      (sc.world.assign t frames).threads[t]? = some (.calling caller.name frames) := by
  rw [World.assign_eq here]
  refine ⟨⟨fun p member => ?_, aloof_set (crewed.of_none t).aloof fun apart => absurd rfl apart⟩,
    getElem?_set_here here⟩
  obtain ⟨thread, there, fares⟩ := crewed.fares p member
  have other : t ≠ p.1 := by
    rintro rfl
    exact outside (List.mem_map_of_mem member)
  exact ⟨thread, (List.getElem?_set_ne other).trans there, fares⟩

theorem joining_begins (crew : List (Nat × Bool)) (name : String) (below : List Frame)
    (s : Shared) : Joining crew s.gathered below s
      (.calling name (.join (crew.map Prod.fst).reverse 0 :: below)) := by
  rw [← List.map_reverse]
  exact .joins (List.nil_append _).symm (List.append_nil _).symm

theorem Crewed.musters (crewed : sc.Crewed crew none) (outside : t ∉ crew.map Prod.fst)
    {caller : Thread} (here : caller ∈ sc.world.threads[t]?) (below : List Frame) :
    Musters crew t below
      ⟨sc.world.assign t (.join (crew.map Prod.fst).reverse 0 :: below), sc.hands⟩ := by
  have begins := joining_begins crew caller.name below sc.world.shared
  obtain ⟨crewed, calls⟩ := crewed.assign outside here
    (.join (crew.map Prod.fst).reverse 0 :: below)
  have proceeds := proceeds_join crew sc.world.shared.gathered t below
  refine ⟨fun last answer leaves => ?_, fun mid run gone => ?_⟩
  · rw [← survivors_eq]
    exact proceeds.leaves crewed calls begins leaves
  · obtain ⟨-, thread, there, now⟩ := proceeds.within crewed calls begins run
    obtain ⟨steps, name, joined, back, -⟩ := now.alone there gone
    exact ⟨steps, name, joined, back⟩

theorem Crewed.disbands (crewed : sc.Crewed crew none) (going : sc.world.shared.state ≠ .stopped)
    (outside : t ∉ crew.map Prod.fst) {caller : Thread} (here : caller ∈ sc.world.threads[t]?)
    (below : List Frame) :
    Disbands crew t below
      ⟨sc.world.assign t (.join (crew.map Prod.fst).reverse 0 :: .stop :: below), sc.hands⟩ := by
  have begins := joining_begins crew caller.name (.stop :: below) sc.world.shared
  obtain ⟨crewed, calls⟩ := crewed.assign outside here
    (.join (crew.map Prod.fst).reverse 0 :: .stop :: below)
  have proceeds := proceeds_finish crew sc.world.shared.gathered t below
  refine ⟨fun last answer leaves => ?_, fun mid run gone => ?_⟩
  · rw [← survivors_eq]
    exact proceeds.leaves crewed calls (.joins begins going) leaves
  · obtain ⟨-, thread, there, now⟩ := proceeds.within crewed calls (.joins begins going) run
    exact now.closes_alone there gone

end Scene

/-- Whoever has been started is of the crew. -/
theorem World.Launches.crewed {σ : Type} {spawner : Spawner σ} {requested : Nat} {rig : Rig}
    {devices : DeviceSet} {robin : RoundRobin} {seed : σ} {both : σ × List (Nat × Spawn)}
    {pool : Pool} {w : World}
    (launches : World.Launches spawner.recording requested (.fresh rig devices robin) (seed, [])
      pool w both) :
    Scene.Crewed (pool.crew both.2) none ⟨w, []⟩ ∧ w.shared.state ≠ .stopped ∧
      pool.threads.Nodup ∧ ∀ t ∈ pool.threads, t < w.threads.length := by
  induction launches with
  | begins =>
    refine ⟨⟨nofun, fun t thread _ here => ?_⟩, nofun, .nil, nofun⟩
    rw [List.mem_singleton.1 (List.mem_of_getElem? here)]
    exact List.forall_mem_nil _
  | @step pool w v both before t h ih =>
    obtain ⟨crewed, going, distinct, known⟩ := ih
    have threads := before.launched.crew_threads
    have run : Scene.Reaches (.crew ((pool.crew both.2).map Prod.fst)) ⟨w, []⟩ ⟨v, []⟩ :=
      .single (.step t h)
    obtain ⟨crewed, going⟩ := run.crewed crewed going
    refine ⟨crewed, going, distinct, ?_⟩
    obtain ⟨_, _, _, -, -, rfl⟩ := World.steps_of_step h
    simpa using known
  | @spawned pool w both both' spawn before calm more answer starts ih =>
    obtain ⟨crewed, going, distinct, known⟩ := ih
    rw [Spawner.calls_recording answer, before.launched.crew_spawned calm]
    have new : (w.threads ++ [spawn.thread pool.started])[w.threads.length]? =
        some (spawn.thread pool.started) := List.getElem?_concat_length
    refine ⟨⟨fun p member => ?_, Scene.aloof_append crewed.aloof (spawn.apart_thread _)⟩, going,
      ?_, fun t member => ?_⟩
    · rcases List.mem_append.1 member with member | member
      · obtain ⟨thread, here, fares⟩ := crewed.fares p member
        have bound := (List.getElem?_eq_some_iff.1 here).1
        exact ⟨thread, (List.getElem?_append_left bound).trans here, fares⟩
      · rw [List.mem_singleton.1 member]
        exact ⟨_, new, spawn.fares_thread pool.started starts⟩
    · -- All threads so far have smaller numbers than the new one.
      refine List.nodup_append.2 ⟨distinct, List.nodup_singleton _, fun t member u last => ?_⟩
      rw [List.mem_singleton.1 last]
      exact (known t member).ne
    · show t < (w.threads ++ [_]).length
      rw [List.length_append, List.length_singleton]
      rcases List.mem_append.1 member with member | member
      · exact Nat.lt_succ_of_lt (known t member)
      · rw [List.mem_singleton.1 member]
        exact Nat.lt_succ_self _
  | @refused pool w both both' cause before calm more answer ih =>
    obtain ⟨crewed, going, distinct, known⟩ := ih
    rw [Spawner.calls_recording answer, before.launched.crew_missed calm]
    exact ⟨⟨crewed.fares, crewed.aloof⟩, going, distinct, known⟩

/-- The attempts to start threads are made in order up to the first that is refused, and whichever
of the threads then panic, each of them is joined, last started first, and the queue is closed. -/
theorem crew_joined_whoever_panics {σ : Type} (spawner : Spawner σ) (requested : Nat) (rig : Rig)
    (devices : DeviceSet) (robin : RoundRobin) (seed : σ) :
    (∀ pool w state,
      World.launch (.fresh rig devices robin) requested spawner seed = (pool, w, state) →
        World.Launches spawner requested (.fresh rig devices robin) seed pool w state ∧
          (pool.spawnError = none → pool.started = requested)) ∧
    ∀ pool w state,
      World.Launches spawner requested (.fresh rig devices robin) seed pool w state →
      (pool.spawnError = none → pool.started = requested) →
      ∃ calls, World.Launches spawner.recording requested (.fresh rig devices robin) (seed, [])
          pool w (state, calls) ∧
        pool.Launched requested calls ∧
        (pool.spawnError ≠ none ↔ pool.started < requested) ∧
        (pool.crew calls).map Prod.fst = pool.threads ∧ pool.threads.Nodup ∧
        ∀ sc, Scene.Reaches (.crew pool.threads) ⟨w, []⟩ sc →
          (∀ p ∈ pool.crew calls, ∀ exit, sc.world.exits p.1 = some exit →
            exit.panicked = p.2) ∧
          ∀ t ∉ pool.threads, (∃ thread ∈ sc.world.threads[t]?, thread.idles) → ∀ below,
            Scene.Musters (pool.crew calls) t below
              ⟨sc.world.assign t (pool.joining :: below), sc.hands⟩ ∧
            Scene.Disbands (pool.crew calls) t below
              ⟨sc.world.assign t (pool.finishing ++ below), sc.hands⟩ := by
  refine ⟨fun pool w state => World.launches_of_launch, fun pool w state launches full => ?_⟩
  obtain ⟨calls, recorded⟩ := launches.recorded
  have launched := recorded.launched
  have threads := launched.crew_threads
  obtain ⟨crewed, going, distinct, -⟩ := recorded.crewed
  refine ⟨calls, recorded, launched, ⟨launched.short, fun less error => ?_⟩, threads, distinct,
    fun sc run => ?_⟩
  · have := full error
    omega
  rw [← threads] at run
  obtain ⟨crewed, going⟩ := run.crewed crewed going
  refine ⟨fun p member exit => crewed.panicked member, fun t outside idle below => ?_⟩
  obtain ⟨caller, here, -⟩ := idle
  rw [← threads] at outside
  rw [Pool.finishing, Pool.joining, ← threads]
  exact ⟨crewed.musters outside here below, crewed.disbands going outside here below⟩

def Spawner.unlucky : Spawner Nat := fun index state =>
  (if index = 0 then .doomed "lost" else if index = 1 then .serving else .refused "no thread",
    state + 1)

def World.deserted (w : World) : World :=
  (w.assign mainNumber [.cancel]).run [0, 0, 1, 1, 2]

/-- Two threads are joined, one of which has panicked. -/
theorem crew_joined_whoever_panics_of_unlucky :
    let opening := World.fresh (.ofHost (.ofSizes [] false) .always .none) ⟨0, [], []⟩ ⟨0, 1⟩
    ∃ pool w state calls last answer, opening.launch 3 .unlucky 0 = (pool, w, state) ∧
      pool.Launched 3 calls ∧ pool.threads = [1, 2] ∧ pool.spawnError = some "no thread" ∧
      Scene.Reaches (.crew pool.threads) ⟨w, []⟩ ⟨w.deserted, []⟩ ∧
      Scene.Leaves (.crew pool.threads) mainNumber []
        ⟨w.deserted.assign mainNumber pool.finishing, []⟩ last answer ∧
      (∃ drained, answer = .outcome 1 drained) ∧ last.world.shared.closing = true ∧
      last.world.shared.gathered = [(2, false), (1, true)] := by
  intro opening
  generalize launched : opening.launch 3 .unlucky 0 = result
  obtain ⟨pool, w, state⟩ := result
  have runs : (opening.launch 3 .unlucky 0).1.threads = [1, 2] ∧
      (opening.launch 3 .unlucky 0).1.spawnError = some "no thread" ∧
      (∃ thread ∈ (opening.launch 3 .unlucky 0).2.1.threads[mainNumber]?, thread.idles) ∧
      (∃ thread ∈ (opening.launch 3 .unlucky 0).2.1.deserted.threads[mainNumber]?,
        thread.idles) ∧
      (∃ exit ∈ (opening.launch 3 .unlucky 0).2.1.deserted.exits 1, exit.panicked = true) ∧
      (∃ exit ∈ (opening.launch 3 .unlucky 0).2.1.deserted.exits 2, exit.panicked = false) ∧
      (opening.launch 3 .unlucky 0).2.1.deserted.shared.gathered = [] ∧
      ∃ v ∈ (((opening.launch 3 .unlucky 0).2.1.deserted.assign mainNumber
        (opening.launch 3 .unlucky 0).1.finishing).run [0, 0, 0, 0, 0, 0, 0]).step mainNumber,
        ∃ thread ∈ v.threads[mainNumber]?, thread.finished = true ∧
          thread.panicking = none := by decide +kernel
  rw [launched] at runs
  obtain ⟨threads, error, free, idle, ⟨first, ends, lost⟩, ⟨second, leaves, sound⟩, none, v, goes,
    ⟨name, frames, answer, panicking⟩, back, finished, calm⟩ := runs
  obtain ⟨alone, all⟩ := crew_joined_whoever_panics Spawner.unlucky 3
    (.ofHost (.ofSizes [] false) .always .none) ⟨0, [], []⟩ ⟨0, 1⟩ 0
  obtain ⟨launches, full⟩ := alone pool w state launched
  obtain ⟨calls, -, told, -, known, -, musters⟩ := all pool w state launches full
  have outside : mainNumber ∉ pool.threads := by rw [threads]; decide
  have run : Scene.Reaches (.crew pool.threads) ⟨w, []⟩ ⟨w.deserted, []⟩ :=
    .head (.call mainNumber .cancel trivial outside free)
      (Scene.reaches_of_steps [] (World.reaches_run _ [0, 0, 1, 1, 2]))
  obtain ⟨panicked, musters⟩ := musters _ run
  obtain ⟨⟨_, a⟩, _, crew, rfl, rest⟩ := List.map_eq_cons_iff.1 (known.trans threads)
  obtain ⟨⟨_, b⟩, _, rfl, rfl, nobody⟩ := List.map_eq_cons_iff.1 rest
  obtain rfl := List.map_eq_nil_iff.1 nobody
  obtain rfl : a = true := (panicked (1, a) (by simp [crew]) first ends).symm.trans lost
  obtain rfl : b = false := (panicked (2, b) (by simp [crew]) second leaves).symm.trans sound
  obtain ⟨-, disbands⟩ := musters mainNumber outside idle []
  obtain ⟨thread, thread', s', there, steps, -⟩ := World.steps_of_step goes
  have gone : Scene.Leaves (.crew pool.threads) mainNumber []
      ⟨w.deserted.assign mainNumber pool.finishing, []⟩ ⟨v, []⟩ answer := by
    obtain rfl : frames = [] := List.isEmpty_iff.1 finished
    obtain rfl : panicking = Option.none := calm
    exact ⟨name, _, Scene.within_of_steps [] (World.reaches_run _ [0, 0, 0, 0, 0, 0, 0])
      ⟨thread, there, steps.busy⟩, .step mainNumber goes, back⟩
  rw [← known] at gone
  obtain ⟨outcome, closing, gathered⟩ := disbands.returns _ _ gone
  rw [known] at gone
  refine ⟨pool, w, state, calls, ⟨v, []⟩, answer, rfl, told, threads, error, run, gone, ?_, closing,
    ?_⟩
  · rw [crew] at outcome
    exact outcome
  · rw [crew] at gathered
    generalize w.deserted = deserted at gathered none
    exact gathered.trans (congrArg (· ++ _) none)

end DispatchServer
