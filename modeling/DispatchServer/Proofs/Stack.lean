import Mathlib.Data.List.Chain
import DispatchServer.Proofs.Steps

/-! Which frames can stand on which. A frame waits for an answer of a certain kind from the frame
above it, so that what a dequeue gave reaches the one who asked for it, and a reply message is
published with nothing but the end of its own work. -/
namespace DispatchServer

/-- What a script comes to if nothing cuts it short: nothing if it panics, and otherwise the text of
the error that it returns, if it returns one. -/
def Script.result : Script → Option (Option String)
  | .done => some none
  | .fault chain => some (some (chainText chain))
  | .panic _ => none
  | .act _ next => next.result
  | .enqueue _ next => next.result
  | .hold _ next => next.result

/-- What is known of an answer before it comes. -/
inductive AnswerKind
  | plain
  | received
  | worked (result : Option (Option String))

namespace AnswerKind

def Holds : AnswerKind → Answer → Prop
  | plain, answer => answer.owned = []
  | received, answer => ∃ m, answer = .received m
  | worked result, answer => ∃ failure, result = some failure ∧ answer = .worked failure

def Suits (a b : AnswerKind) : Prop := ∀ answer, a.Holds answer → b.Holds answer

theorem Suits.refl (a : AnswerKind) : a.Suits a := fun _ h => h

theorem Suits.worked (result : Option (Option String)) : (worked result).Suits plain := by
  rintro _ ⟨failure, -, rfl⟩
  rfl

end AnswerKind

namespace Frame

def yields : Frame → AnswerKind
  | run _ script _ => .worked script.result
  | leave _ (.worked failure) => .worked (some failure)
  | dequeue | poll _ | heed | await | park => .received
  | _ => .plain

def takes : Frame → AnswerKind
  | publish m => .worked m.plan.process.result
  | handle _ => .received
  | _ => .plain

def brief : Frame → Bool
  | process _ | fail .. | discard _ | enqueue _ | send _ | closeChannel => true
  | _ => false

/-- A frame that passes on an answer passes on one without a message, and only the outcome of a
reply message is published. -/
def formed : Frame → Bool
  | publish m => m.isReply
  | leave _ (.worked _) => true
  | leave .. | give (.received (some _)) => false
  | _ => true

/-- The first frame can stand on the second. -/
structure Upon (f g : Frame) : Prop where
  suits : f.yields.Suits g.takes
  patient : g.brief = false

/-- Frames that may come in the place of a frame. -/
inductive Stacked (f : Frame) : List Frame → Prop
  | one {g : Frame} (formed : g.formed) (suits : g.yields.Suits f.yields) : Stacked f [g]
  | cons {g h : Frame} {frames : List Frame} (formed : g.formed) (upon : g.Upon h)
      (below : Stacked f (h :: frames)) : Stacked f (g :: h :: frames)

/-- What a frame may become, with the answer that it leaves. -/
inductive Leads (f : Frame) : List Frame → Answer → Prop
  | ends {answer : Answer} (holds : f.yields.Holds answer) : Leads f [] answer
  | goesOn {g : Frame} {frames : List Frame} {answer : Answer} (takes : g.takes.Holds answer)
      (stacked : Stacked f (g :: frames)) : Leads f (g :: frames) answer

theorem upon_of_plain {f g : Frame} (yields : f.yields = .plain) (takes : g.takes = .plain)
    (patient : g.brief = false) : f.Upon g :=
  ⟨by rw [yields, takes]; exact .refl _, patient⟩

theorem Stacked.formed {f g : Frame} {frames : List Frame} (h : Stacked f frames)
    (member : g ∈ frames) : g.formed := by
  induction h with
  | one formed => simp_all
  | cons formed _ _ ih => rcases List.mem_cons.1 member with rfl | member <;> simp_all

theorem Stacked.chain {f : Frame} {frames rest : List Frame} (h : Stacked f frames)
    (chain : (f :: rest).IsChain Upon) : (frames ++ rest).IsChain Upon := by
  induction h with
  | @one g formed suits =>
    cases rest with
    | nil => exact .singleton g
    | cons below rest =>
      obtain ⟨upon, chain⟩ := List.isChain_cons_cons.1 chain
      exact .cons_cons ⟨fun a h => upon.suits a (suits a h), upon.patient⟩ chain
  | cons _ upon _ ih => exact .cons_cons upon ih

theorem step_leads {f : Frame} {thread : String} {answer answer' : Answer}
    {exits : Nat → Option Exit} {s s' : Shared} {frames : List Frame}
    (takes : f.takes.Holds answer) (formed : f.formed)
    (h : f.step thread answer exits s = .moved s' frames answer') : f.Leads frames answer' := by
  cases moves_of_step h with
  | leaves =>
    cases answer' with
    | worked failure => exact .ends ⟨failure, rfl, rfl⟩
    | _ => cases formed
  | @drops m held given =>
    cases given with
    | worked failure => exact .goesOn rfl (.one rfl (.refl _))
    | _ => cases formed
  | gives =>
    cases answer' with
    | received m => cases m <;> first | exact .ends rfl | cases formed
    | _ => exact .ends rfl
  | begins | fails => exact .goesOn rfl (.one rfl (.worked _))
  | @beginsReply m reply =>
    have formed : (publish m).formed := by simp [Frame.formed, Message.isReply, reply]
    exact .goesOn rfl (.cons rfl ⟨.refl _, rfl⟩ (.one formed (.refl _)))
  | serves => exact .goesOn rfl (.cons rfl ⟨.refl _, rfl⟩ (.one rfl (.refl _)))
  | unpinned | unmaps => exact .ends takes
  | unpins => exact .goesOn takes (.one rfl (.refl _))
  | callsClose | callsCancel | callsShutdown | offers | requests =>
    exact .goesOn rfl (.cons rfl (upon_of_plain rfl rfl rfl)
      (.cons rfl (upon_of_plain rfl rfl rfl) (.one rfl (.refl _))))
  | rejects | rejectsLate | drains | requestsLate | stops | handles | listens | submits
  | produces =>
    exact .goesOn rfl (.cons rfl (upon_of_plain rfl rfl rfl) (.one rfl (.refl _)))
  | _ =>
    first
    | exact .ends rfl
    | exact .ends ⟨_, rfl⟩
    | exact .goesOn rfl (.one rfl (.refl _))

/-- A panic leaves nothing of the frame, or one frame that waits where the frame waited. -/
theorem unwind_stacked {f : Frame} {thread : String} {s s' : Shared} {frames : List Frame}
    {goesOn : Bool} (formed : f.formed) (h : f.unwind thread s = (s', frames, goesOn)) :
    (frames = [] ∧ goesOn = true) ∨ ∃ g, frames = [g] ∧ g.formed ∧ g.yields.Suits f.yields ∧
      g.brief = false ∧ g.takes = .plain := by
  cases f with
  | run device script held =>
    cases held <;> cases h
    · exact .inl ⟨rfl, rfl⟩
    · exact .inr ⟨_, rfl, rfl, .refl _, rfl, rfl⟩
  | leave held given =>
    cases given with
    | worked failure =>
      cases held <;> cases h
      · exact .inl ⟨rfl, rfl⟩
      · exact .inr ⟨_, rfl, rfl, .refl _, rfl, rfl⟩
    | _ => cases formed
  | guard worker desc => cases h; exact .inr ⟨_, rfl, rfl, .refl _, rfl, rfl⟩
  | unpin buffers =>
    cases buffers <;> cases h
    · exact .inl ⟨rfl, rfl⟩
    · exact .inr ⟨_, rfl, rfl, .refl _, rfl, rfl⟩
  | _ => cases h; exact .inl ⟨rfl, rfl⟩

end Frame

/-- Every frame of the stack will get an answer that it can go on with. -/
structure Thread.Typed (thread : Thread) : Prop where
  formed : ∀ f ∈ thread.frames, f.formed
  chained : thread.frames.IsChain Frame.Upon
  met : thread.panicking = none → ∀ f ∈ thread.frames.head?, f.takes.Holds thread.answer
  cut : thread.panicking ≠ none →
    thread.answer.owned = [] ∧ ∀ f ∈ thread.frames.head?, f.brief = false

namespace Thread

theorem Typed.idle (name : String) : (Thread.idle name).Typed :=
  ⟨by simp [Thread.idle], .nil, by simp [Thread.idle], by simp [Thread.idle]⟩

theorem Typed.calling_one {name : String} {f : Frame} (formed : f.formed)
    (takes : f.takes = .plain) : (Thread.calling name [f]).Typed where
  formed := by simpa [Thread.calling]
  chained := .singleton f
  met := by simp [Thread.calling, takes, AnswerKind.Holds, Answer.owned]
  cut := by simp [Thread.calling]

theorem Typed.step {thread thread' : Thread} {exits : Nat → Option Exit} {s s' : Shared}
    (typed : thread.Typed) (h : thread.Steps exits s s' thread') : thread'.Typed := by
  cases h with
  | @moved f rest frames answer s' top calm h =>
    have formed := typed.formed
    have chained := typed.chained
    have met := typed.met calm
    rw [top] at formed chained met
    have leads := Frame.step_leads (met f rfl) (formed f (by simp)) h
    cases leads with
    | ends holds =>
      refine ⟨fun g member => formed g (by simp_all), chained.tail, fun _ g member => ?_,
        fun panics => absurd calm panics⟩
      obtain ⟨below, rfl⟩ : ∃ below, rest = g :: below := by
        cases rest <;> simp_all
      exact (List.isChain_cons_cons.1 chained).1.suits _ holds
    | @goesOn g frames answer takes stacked =>
      refine ⟨fun g' member => ?_, stacked.chain chained, fun _ g' member => ?_,
        fun panics => absurd calm panics⟩
      · rcases List.mem_append.1 member with member | member
        · exact stacked.formed member
        · exact formed g' (by simp [member])
      · obtain rfl : g = g' := by simpa using member
        exact takes
  | @panicked device text held rest top calm =>
    have met := typed.met calm
    rw [top] at met
    exact ⟨typed.formed, typed.chained, by simp, fun _ => ⟨met _ rfl, by simp [top, Frame.brief]⟩⟩
  | @unwound f rest frames text s' goesOn top panics h =>
    have formed := typed.formed
    have chained := typed.chained
    have clear := (typed.cut (by simp [panics])).1
    rw [top] at formed chained
    rcases Frame.unwind_stacked (formed f (by simp)) h with
      ⟨rfl, rfl⟩ | ⟨g, rfl, formed', suits, brief, plain⟩
    · refine ⟨fun g member => formed g (by simp_all), chained.tail, by simp, fun _ => ⟨clear, ?_⟩⟩
      cases rest with
      | nil => simp
      | cons g rest => simpa using (List.isChain_cons_cons.1 chained).1.patient
    · refine ⟨fun g' member => ?_, (Frame.Stacked.one formed' suits).chain chained,
        fun _ g' member => ?_, fun _ => ⟨clear, by simpa using brief⟩⟩
      · rcases List.mem_cons.1 member with rfl | member
        · exact formed'
        · exact formed g' (List.mem_cons_of_mem f member)
      · obtain rfl : g = g' := by simpa using member
        rw [plain]
        exact clear

theorem isChain_of_plain {frames : List Frame}
    (plain : ∀ f ∈ frames, f.yields.Suits .plain ∧ f.takes = .plain ∧ f.brief = false) :
    frames.IsChain Frame.Upon := by
  induction frames with
  | nil => exact .nil
  | cons f frames ih =>
    cases frames with
    | nil => exact .singleton f
    | cons g frames =>
      obtain ⟨-, takes, patient⟩ := plain g (by simp)
      refine .cons_cons ⟨?_, patient⟩ (ih fun h member => plain h (List.mem_cons_of_mem f member))
      rw [takes]
      exact (plain f List.mem_cons_self).1

theorem Typed.calling_all {name : String} {frames : List Frame}
    (formed : ∀ f ∈ frames, f.formed)
    (plain : ∀ f ∈ frames, f.yields.Suits .plain ∧ f.takes = .plain ∧ f.brief = false) :
    (Thread.calling name frames).Typed where
  formed := formed
  chained := isChain_of_plain plain
  met _ f top := by
    rw [(plain f (List.mem_of_mem_head? top)).2.1]
    rfl
  cut panics := absurd rfl panics

theorem Typed.calling_service (name : String) (service : Service) :
    (Thread.calling name service.frames).Typed := by
  cases service with
  | finish | shutdown =>
    refine calling_all (by simp [Service.frames, Frame.formed]) fun f member => ?_
    simp only [Service.frames, List.mem_cons, List.not_mem_nil, or_false] at member
    (repeat' rcases member with rfl | member) <;> exact ⟨.refl _, rfl, rfl⟩
  | _ => exact calling_one rfl rfl

theorem Typed.calling_errand (name : String) {frames : List Frame} (errand : Scene.Errand frames) :
    (Thread.calling name frames).Typed := by
  cases errand with
  | service service => exact .calling_service name service
  | use use => cases use <;> exact .calling_one rfl rfl
  | nothing => exact .idle name

end Thread

/-- Every thread keeps a stack of which each frame gets an answer of its kind. -/
theorem Scene.Move.typed {offered : Interface} {sc sc' : Scene} (h : Scene.Move offered sc sc')
    (typed : ∀ thread ∈ sc.world.threads, thread.Typed) :
    ∀ thread ∈ sc'.world.threads, thread.Typed := by
  cases h.shift with
  | steps t goes =>
    obtain ⟨thread, thread', s', here, steps, rfl⟩ := World.steps_of_step goes
    exact forall_mem_set typed ((typed thread (List.mem_of_getElem? here)).step steps)
  | starts name =>
    intro thread member
    rcases List.mem_append.1 member with member | member
    · exact typed thread member
    · obtain rfl := List.mem_singleton.1 member
      exact .idle name
  | builds | spills | signals => exact typed
  | calls here _ errand =>
    rw [World.assign_eq here]
    exact forall_mem_set typed (.calling_errand _ errand)

end DispatchServer
