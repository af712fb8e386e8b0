import Mathlib.Logic.Relation
import DispatchServer.Token

/-! Families of cancellation tokens, whoever makes tokens, cancels them and waits for them. A token
is cancelled as soon as somebody has begun to cancel one that was cloned from the same token, and
whoever waits is released when a cancellation has come to its end, whichever of the two came first.
-/
namespace DispatchServer

/-- If what holds of an entry still holds once it is changed, the change can only add to what holds
of some entry. -/
theorem exists_mem_set_iff {α : Type} {entries : List α} {i : Nat} {old new : α} {p : α → Prop}
    (here : entries[i]? = some old) (kept : p old → p new) :
    (∃ entry ∈ entries.set i new, p entry) ↔ (∃ entry ∈ entries, p entry) ∨ p new := by
  obtain ⟨bound, -⟩ := List.getElem?_eq_some_iff.1 here
  have new_mem : new ∈ entries.set i new := List.mem_of_getElem? (List.getElem?_set_self bound)
  constructor
  · rintro ⟨entry, member, holds⟩
    rcases List.mem_or_eq_of_mem_set member with member | rfl
    · exact .inl ⟨entry, member, holds⟩
    · exact .inr holds
  · rintro (⟨entry, member, holds⟩ | holds)
    · obtain ⟨j, there⟩ := List.getElem?_of_mem member
      by_cases same : i = j
      · subst same
        obtain rfl := Option.some.inj (here.symm.trans there)
        exact ⟨new, new_mem, kept holds⟩
      · have there' : (entries.set i new)[j]? = some entry := by
          rw [List.getElem?_set_ne same]
          exact there
        exact ⟨entry, List.mem_of_getElem? there', holds⟩
    · exact ⟨new, new_mem, holds⟩

namespace TokenCall

def Begun (call : TokenCall) : Prop := call.operation = .cancel ∧ call.stage ≠ .flag

/-- The call has set the flag of its token and woken those who wait. -/
def Completed (call : TokenCall) : Prop := call.operation = .cancel ∧ call.stage = .finished

theorem Completed.begun {call : TokenCall} (completed : call.Completed) : call.Begun :=
  ⟨completed.1, by simp [completed.2]⟩

end TokenCall

namespace Tokens

variable {w v : Tokens} {number token family : Nat}

@[simp] theorem calls_modify (w : Tokens) (token : Nat) (change : Family → Family) :
    (w.modify token change).calls = w.calls := by
  unfold modify
  split <;> rfl

@[simp] theorem tokens_modify (w : Tokens) (token : Nat) (change : Family → Family) :
    (w.modify token change).tokens = w.tokens := by
  unfold modify
  split <;> rfl

theorem families_modify (here : w.tokens[token]? = some family) (change : Family → Family) :
    (w.modify token change).families = w.families.modify family change := by
  simp only [modify, here]

theorem family?_eq (here : w.tokens[token]? = some family) :
    w.family? token = w.families[family]? := by
  simp only [family?, here, Option.bind_some]

theorem family?_modify (w : Tokens) (changed token : Nat) (change : Family → Family) :
    (w.modify changed change).family? token =
      if w.tokens[changed]? = w.tokens[token]? then (w.family? token).map change
      else w.family? token := by
  cases here : w.tokens[changed]? with
  | none => cases there : w.tokens[token]? <;> simp [modify, family?, here, there]
  | some family =>
    cases there : w.tokens[token]? <;>
      simp [modify, family?, here, there, List.getElem?_modify]
    split <;> simp

theorem isCancelled_modify {changed : Nat} {change : Family → Family}
    (kept : ∀ state : Family, state.cancelled = true → (change state).cancelled = true)
    (cancelled : w.isCancelled token = true) :
    (w.modify changed change).isCancelled token = true := by
  unfold isCancelled at cancelled ⊢
  rw [family?_modify]
  cases here : w.family? token with
  | none => simp [here] at cancelled
  | some state =>
    rw [here] at cancelled
    rcases Decidable.em (w.tokens[changed]? = w.tokens[token]?) with same | apart
    · rw [if_pos same]
      exact kept state cancelled
    · rw [if_neg apart]
      exact cancelled

def answered (w : Tokens) (number : Nat) (call : TokenCall) : Tokens :=
  { w with calls := w.calls.set number call }

inductive Steps (w : Tokens) (number : Nat) : Tokens → Prop
  | sets {token : Nat} (here : w.calls[number]? = some ⟨.cancel, token, .flag⟩) :
      Steps w number
        ((w.modify token ({ · with cancelled := true })).answered number ⟨.cancel, token, .wakeup⟩)
  | wakes {token : Nat} (here : w.calls[number]? = some ⟨.cancel, token, .wakeup⟩) :
      Steps w number
        ((w.modify token ({ · with woken := true })).answered number ⟨.cancel, token, .finished⟩)
  | passes {token : Nat} (here : w.calls[number]? = some ⟨.await, token, .flag⟩)
      (cancelled : w.isCancelled token = true) :
      Steps w number (w.answered number ⟨.await, token, .finished⟩)
  | enters {token : Nat} (here : w.calls[number]? = some ⟨.await, token, .flag⟩) :
      Steps w number (w.answered number ⟨.await, token, .wakeup⟩)
  | leaves {token : Nat} (here : w.calls[number]? = some ⟨.await, token, .wakeup⟩)
      (woken : w.isWoken token = true) :
      Steps w number (w.answered number ⟨.await, token, .finished⟩)

theorem steps_of_step (h : w.step number = some v) : w.Steps number v := by
  unfold step at h
  split at h
  · cases h
  rename_i call here
  obtain ⟨operation, token, stage⟩ := call
  cases operation <;> cases stage
  case cancel.flag => cases h; exact .sets here
  case cancel.wakeup => cases h; exact .wakes here
  case await.flag =>
    cases h
    cases cancelled : w.isCancelled token with
    | true => exact .passes here cancelled
    | false => exact .enters here
  case await.wakeup =>
    simp only [act] at h
    split at h
    · cases h
    · rename_i woken
      split at woken <;> cases woken
      cases h
      exact .leaves here ‹_›
  all_goals cases h

theorem step_sets (here : w.calls[number]? = some ⟨.cancel, token, .flag⟩) :
    w.step number = some ((w.modify token ({ · with cancelled := true })).answered number
      ⟨.cancel, token, .wakeup⟩) := by
  simp only [step, here, act, answered]

theorem step_wakes (here : w.calls[number]? = some ⟨.cancel, token, .wakeup⟩) :
    w.step number = some ((w.modify token ({ · with woken := true })).answered number
      ⟨.cancel, token, .finished⟩) := by
  simp only [step, here, act, answered]

/-- The flag of a family tells whether somebody has begun to cancel one of its tokens, and its
wakeup whether somebody has completed that. -/
structure Sound (w : Tokens) : Prop where
  housed : ∀ family ∈ w.tokens, family < w.families.length
  called : ∀ call ∈ w.calls, call.token < w.tokens.length
  cancelled : ∀ {family : Nat} {state : Family}, w.families[family]? = some state →
    (state.cancelled = true ↔
      ∃ call ∈ w.calls, call.Begun ∧ w.tokens[call.token]? = some family)
  woken : ∀ {family : Nat} {state : Family}, w.families[family]? = some state →
    (state.woken = true ↔
      ∃ call ∈ w.calls, call.Completed ∧ w.tokens[call.token]? = some family)
  ended : ∀ call ∈ w.calls, call.operation = .await → call.stage = .finished →
    ∃ other ∈ w.calls, other.Begun ∧ w.tokens[other.token]? = w.tokens[call.token]?

namespace Sound

variable (sound : w.Sound)
include sound

theorem state (known : token < w.tokens.length) :
    ∃ family state, w.tokens[token]? = some family ∧ w.families[family]? = some state ∧
      w.family? token = some state := by
  have here := List.getElem?_eq_getElem known
  have there := List.getElem?_eq_getElem (sound.housed _ (List.getElem_mem known))
  exact ⟨_, _, here, there, (family?_eq here).trans there⟩

theorem isCancelled_iff (known : token < w.tokens.length) :
    w.isCancelled token = true ↔
      ∃ call ∈ w.calls, call.Begun ∧ w.tokens[call.token]? = w.tokens[token]? := by
  obtain ⟨family, state, here, there, same⟩ := sound.state known
  rw [isCancelled, same, here]
  exact sound.cancelled there

theorem isWoken_iff (known : token < w.tokens.length) :
    w.isWoken token = true ↔
      ∃ call ∈ w.calls, call.Completed ∧ w.tokens[call.token]? = w.tokens[token]? := by
  obtain ⟨family, state, here, there, same⟩ := sound.state known
  rw [isWoken, same, here]
  exact sound.woken there

theorem known_of_call {call : TokenCall} (here : w.calls[number]? = some call) :
    call.token < w.tokens.length :=
  sound.called call (List.mem_of_getElem? here)

/-- A new token is in nobody's call. -/
theorem lookup {call : TokenCall} (member : call ∈ w.calls) (more : List Nat) :
    (w.tokens ++ more)[call.token]? = w.tokens[call.token]? :=
  List.getElem?_append_left (sound.called call member)

/-- New tokens, of families that were there before or are not cancelled, change nothing. -/
theorem grown {families : List Family} {tokens : List Nat}
    (housed : ∀ family ∈ tokens, family < (w.families ++ families).length)
    (quiet : ∀ state ∈ families, state = ⟨false, false⟩) :
    Sound ⟨w.families ++ families, w.tokens ++ tokens, w.calls⟩ := by
  have told {family : Nat} {state : Family} (there : (w.families ++ families)[family]? = some state)
      {told : Family → Bool} (none : told ⟨false, false⟩ = false) {kind : TokenCall → Prop}
      (before : ∀ {family : Nat} {state : Family}, w.families[family]? = some state →
        (told state = true ↔ ∃ call ∈ w.calls, kind call ∧ w.tokens[call.token]? = some family)) :
      told state = true ↔
        ∃ call ∈ w.calls, kind call ∧ (w.tokens ++ tokens)[call.token]? = some family := by
    have same : (∃ call ∈ w.calls, kind call ∧ (w.tokens ++ tokens)[call.token]? = some family) ↔
        ∃ call ∈ w.calls, kind call ∧ w.tokens[call.token]? = some family := by
      refine exists_congr fun call => and_congr_right fun member => ?_
      rw [sound.lookup member]
    rw [same]
    rcases Nat.lt_or_ge family w.families.length with less | more
    · rw [List.getElem?_append_left less] at there
      exact before there
    · rw [List.getElem?_append_right more] at there
      rw [quiet state (List.mem_of_getElem? there), none]
      refine iff_of_false nofun ?_
      rintro ⟨call, -, -, here⟩
      have := sound.housed family (List.mem_of_getElem? here)
      omega
  refine ⟨fun family member => ?_, fun call member => ?_,
    fun there => told there rfl sound.cancelled, fun there => told there rfl sound.woken,
    fun call member awaits finished => ?_⟩
  · rcases List.mem_append.1 member with member | member
    · exact Nat.lt_of_lt_of_le (sound.housed family member) (by simp)
    · exact housed family member
  · exact Nat.lt_of_lt_of_le (sound.called call member) (by simp)
  · obtain ⟨other, there, begun, same⟩ := sound.ended call member awaits finished
    exact ⟨other, there, begun, by rw [sound.lookup there, sound.lookup member, same]⟩

theorem fresh : w.fresh.Sound :=
  sound.grown (by simp) (by simp)

theorem clone (token : Nat) : (w.clone token).Sound := by
  unfold Tokens.clone
  split
  · exact sound
  · rename_i family here
    have grown : Sound ⟨w.families ++ [], w.tokens ++ [family], w.calls⟩ :=
      sound.grown (by simpa using sound.housed family (List.mem_of_getElem? here)) (by simp)
    simpa only [List.append_nil] using grown

theorem begin (operation : TokenOperation) (known : token < w.tokens.length) :
    (w.begin operation token).Sound := by
  have same {kind : TokenCall → Prop} (none : ¬ kind ⟨operation, token, .flag⟩) :
      (∃ call ∈ w.calls ++ [⟨operation, token, .flag⟩], kind call) ↔
        ∃ call ∈ w.calls, kind call := by
    simp only [List.mem_append, List.mem_singleton, or_and_right, exists_or, exists_eq_left, none,
      or_false]
  refine ⟨sound.housed, fun call member => ?_, fun there => ?_, fun there => ?_,
    fun call member awaits finished => ?_⟩
  · rcases List.mem_append.1 member with member | member
    · exact sound.called call member
    · rw [List.mem_singleton.1 member]
      exact known
  · exact (sound.cancelled there).trans (same (by simp [TokenCall.Begun])).symm
  · exact (sound.woken there).trans (same (by simp [TokenCall.Completed])).symm
  · rcases List.mem_append.1 member with member | member
    · obtain ⟨other, there, begun⟩ := sound.ended call member awaits finished
      exact ⟨other, List.mem_append_left _ there, begun⟩
    · rw [List.mem_singleton.1 member] at finished
      cases finished

/-- A call goes on, and what it has told its family is known of that. -/
theorem answer {families : List Family} {old new : TokenCall}
    (here : w.calls[number]? = some old) (same : new.token = old.token)
    (length : families.length = w.families.length)
    (cancelled : ∀ {family : Nat} {state : Family}, families[family]? = some state →
      (state.cancelled = true ↔
        (∃ call ∈ w.calls, call.Begun ∧ w.tokens[call.token]? = some family) ∨
          new.Begun ∧ w.tokens[new.token]? = some family))
    (woken : ∀ {family : Nat} {state : Family}, families[family]? = some state →
      (state.woken = true ↔
        (∃ call ∈ w.calls, call.Completed ∧ w.tokens[call.token]? = some family) ∨
          new.Completed ∧ w.tokens[new.token]? = some family))
    (begun : old.Begun → new.Begun) (completed : old.Completed → new.Completed)
    (ended : new.operation = .await → new.stage = .finished →
      ∃ other ∈ w.calls, other.Begun ∧ w.tokens[other.token]? = w.tokens[new.token]?) :
    Sound ⟨families, w.tokens, w.calls.set number new⟩ := by
  have later {kind : TokenCall → Prop} (kept : kind old → kind new) (family : Option Nat) :
      (∃ call ∈ w.calls.set number new, kind call ∧ w.tokens[call.token]? = family) ↔
        (∃ call ∈ w.calls, kind call ∧ w.tokens[call.token]? = family) ∨
          kind new ∧ w.tokens[new.token]? = family :=
    exists_mem_set_iff here fun ⟨holds, here⟩ => ⟨kept holds, by rw [same, here]⟩
  refine ⟨fun family member => ?_, fun call member => ?_, fun there => ?_, fun there => ?_,
    fun call member awaits finished => (later begun _).2 (.inl ?_)⟩
  · rw [length]
    exact sound.housed family member
  · rcases List.mem_or_eq_of_mem_set member with member | rfl
    · exact sound.called call member
    · rw [same]
      exact sound.known_of_call here
  · exact (cancelled there).trans (later begun _).symm
  · exact (woken there).trans (later completed _).symm
  · rcases List.mem_or_eq_of_mem_set member with member | rfl
    · exact sound.ended call member awaits finished
    · exact ended awaits finished

/-- A wait tells its family nothing. -/
theorem waited {stage : TokenStage} (here : w.calls[number]? = some ⟨.await, token, stage⟩)
    (stage' : TokenStage) (ended : stage' = .finished →
      ∃ other ∈ w.calls, other.Begun ∧ w.tokens[other.token]? = w.tokens[token]?) :
    (w.answered number ⟨.await, token, stage'⟩).Sound :=
  sound.answer here rfl rfl (fun there => by simp [sound.cancelled there, TokenCall.Begun])
    (fun there => by simp [sound.woken there, TokenCall.Completed]) (by simp [TokenCall.Begun])
    (by simp [TokenCall.Completed]) fun _ => ended

theorem step (h : w.step number = some v) : v.Sound := by
  have modified {families : List Family} {family i : Nat} {state : Family}
      {change : Family → Family} (there : (families.modify i change)[family]? = some state) :
      ∃ before, families[family]? = some before ∧
        state = if i = family then change before else before := by
    rw [List.getElem?_modify] at there
    obtain ⟨before, was, rfl⟩ := Option.map_eq_some_iff.1 there
    exact ⟨before, was, rfl⟩
  -- A cancellation sets the flag and then wakes; a wait passes at once, or enters and leaves later.
  cases steps_of_step h with
  | @sets token here =>
    obtain ⟨home, state, own, -, -⟩ := sound.state (sound.known_of_call here)
    simp only [answered, tokens_modify, calls_modify, families_modify own]
    refine sound.answer here rfl (List.length_modify ..) (fun there => ?_) (fun there => ?_)
      (by simp [TokenCall.Begun]) (by simp [TokenCall.Completed]) nofun
    · obtain ⟨before, was, rfl⟩ := modified there
      rw [← sound.cancelled was]
      split <;> simp_all [TokenCall.Begun]
    · obtain ⟨before, was, rfl⟩ := modified there
      rw [← sound.woken was]
      split <;> simp [TokenCall.Completed]
  | @wakes token here =>
    obtain ⟨home, state, own, -, -⟩ := sound.state (sound.known_of_call here)
    simp only [answered, tokens_modify, calls_modify, families_modify own]
    refine sound.answer here rfl (List.length_modify ..) (fun {family _} there => ?_)
      (fun there => ?_)
      (by simp [TokenCall.Begun]) (by simp [TokenCall.Completed]) nofun
    · obtain ⟨before, was, rfl⟩ := modified there
      have begun (same : home = family) : before.cancelled = true :=
        (sound.cancelled was).2 ⟨_, List.mem_of_getElem? here, ⟨rfl, by simp⟩, same ▸ own⟩
      rw [← sound.cancelled was]
      split <;> simp_all
    · obtain ⟨before, was, rfl⟩ := modified there
      rw [← sound.woken was]
      split <;> simp_all [TokenCall.Completed]
  | @passes token here cancelled =>
    exact sound.waited here _ fun _ =>
      (sound.isCancelled_iff (sound.known_of_call here)).1 cancelled
  | @enters token here => exact sound.waited here _ nofun
  | @leaves token here woken =>
    refine sound.waited here _ fun _ => ?_
    obtain ⟨other, member, completed, same⟩ :=
      (sound.isWoken_iff (sound.known_of_call here)).1 woken
    exact ⟨other, member, completed.begun, same⟩

end Sound

/-- Only a step of a cancellation touches what tokens share, and only that of its own family. -/
theorem Steps.family? (steps : w.Steps number v) (token : Nat) :
    v.family? token = w.family? token ∨ ∃ call, w.calls[number]? = some call ∧
      call.operation = .cancel ∧ w.tokens[call.token]? = w.tokens[token]? := by
  by_cases same : v.family? token = w.family? token
  · exact .inl same
  right
  cases steps with
  | sets here | wakes here =>
    refine ⟨_, here, rfl, Decidable.byContradiction fun apart => same ?_⟩
    exact (family?_modify w _ token _).trans (if_neg apart)
  | passes | enters | leaves => exact absurd rfl same

/-- What is cancelled stays cancelled. -/
theorem Steps.cancelled (steps : w.Steps number v) (cancelled : w.isCancelled token = true) :
    v.isCancelled token = true := by
  cases steps with
  | sets => exact isCancelled_modify (fun _ _ => rfl) cancelled
  | wakes => exact isCancelled_modify (fun _ set => set) cancelled
  | passes | enters | leaves => exact cancelled

theorem Steps.tokens (steps : w.Steps number v) : v.tokens = w.tokens := by
  cases steps with
  | sets | wakes => exact tokens_modify ..
  | passes | enters | leaves => rfl

/-- A call that can take no step has ended, or waits for a wakeup that has not come. -/
theorem waits_of_stuck {call : TokenCall} (here : w.calls[number]? = some call)
    (stuck : w.step number = none) :
    call.stage = .finished ∨ call.operation = .await ∧ w.isWoken call.token = false := by
  obtain ⟨operation, token, stage⟩ := call
  simp only [step, here] at stuck
  cases operation <;> cases stage <;> simp only [act] at stuck
  case await.wakeup => cases woken : w.isWoken token <;> simp_all
  all_goals simp_all

namespace Sound

variable {call : TokenCall} (sound : w.Sound) (here : w.calls[number]? = some call)
include sound here

/-- Once the wakeup has come, a wait ends with its next step. -/
theorem step_of_woken (awaits : call.operation = .await) (going : call.stage ≠ .finished)
    (woken : w.isWoken call.token = true) :
    w.step number = some (w.answered number { call with stage := .finished }) := by
  have known := sound.known_of_call here
  obtain ⟨other, member, completed, same⟩ := (sound.isWoken_iff known).1 woken
  have cancelled := (sound.isCancelled_iff known).2 ⟨other, member, completed.begun, same⟩
  obtain ⟨operation, token, stage⟩ := call
  cases awaits
  cases stage with
  | flag => simp only [Tokens.step, here, act, cancelled, if_true, answered]
  | wakeup => simp only [Tokens.step, here, act, woken, if_true, answered]
  | finished => exact absurd rfl going

/-- Whoever has set the flag can take the step that wakes all who wait for the same family. -/
theorem wakes (begun : call.Begun) (pending : ¬ call.Completed) :
    ∃ v, w.step number = some v ∧
      (∀ other, number ≠ other → v.calls[other]? = w.calls[other]?) ∧
      ∀ token < w.tokens.length, w.tokens[call.token]? = w.tokens[token]? →
        v.isWoken token = true := by
  obtain ⟨operation, mine, stage⟩ := call
  obtain ⟨cancels, set⟩ := begun
  cases cancels
  cases stage with
  | flag => exact absurd rfl set
  | finished => exact absurd ⟨rfl, rfl⟩ pending
  | wakeup =>
    have goes := step_wakes here
    refine ⟨_, goes, fun other apart => ?_, fun token known same => ?_⟩
    · simp only [answered, calls_modify]
      exact List.getElem?_set_ne apart
    · have tokens := (steps_of_step goes).tokens
      refine ((sound.step goes).isWoken_iff (by rwa [tokens])).2
        ⟨⟨.cancel, mine, .finished⟩, ?_, ⟨rfl, rfl⟩, by rw [tokens, same]⟩
      simp only [answered, calls_modify]
      exact List.mem_set (List.getElem?_eq_some_iff.1 here).1 _

end Sound

end Tokens

structure Alike (xs ys : List Nat) : Prop where
  length : xs.length = ys.length
  equal : ∀ {a b : Nat}, a < xs.length → b < xs.length → (xs[a]? = xs[b]? ↔ ys[a]? = ys[b]?)

theorem Alike.snoc {xs ys : List Nat} {x y : Nat} (alike : Alike xs ys)
    (new : ∀ a < xs.length, xs[a]? = some x ↔ ys[a]? = some y) :
    Alike (xs ++ [x]) (ys ++ [y]) := by
  have old {a : Nat} (bound : a < xs.length) :
      (xs ++ [x])[a]? = xs[a]? ∧ (ys ++ [y])[a]? = ys[a]? :=
    ⟨List.getElem?_append_left bound, List.getElem?_append_left (alike.length ▸ bound)⟩
  have last : (xs ++ [x])[xs.length]? = some x ∧ (ys ++ [y])[xs.length]? = some y :=
    ⟨List.getElem?_concat_length, alike.length ▸ List.getElem?_concat_length⟩
  refine ⟨by simp [alike.length], fun {a b} bound bound' => ?_⟩
  rw [List.length_append, List.length_singleton, Nat.lt_succ_iff_lt_or_eq] at bound bound'
  rcases bound with bound | rfl <;> rcases bound' with bound' | rfl
  · rw [(old bound).1, (old bound).2, (old bound').1, (old bound').2]
    exact alike.equal bound bound'
  · rw [(old bound).1, (old bound).2, last.1, last.2]
    exact new a bound
  · rw [(old bound').1, (old bound').2, last.1, last.2, eq_comm, @eq_comm _ (some y)]
    exact new b bound'
  · exact iff_of_true rfl rfl

/-- Tokens, and the token from which each of them comes by cloning: itself, if it was made anew. -/
structure Lineage where
  tokens : Tokens
  origins : List Nat

namespace Lineage

def none : Lineage := ⟨⟨[], [], []⟩, []⟩

/-- What somebody may do: make a token, clone one, call for its cancellation or wait for that, or
take the next step of such a call. -/
inductive Move (l : Lineage) : Lineage → Prop
  | fresh : Move l ⟨l.tokens.fresh, l.origins ++ [l.origins.length]⟩
  | clone {token origin : Nat} (known : l.origins[token]? = some origin) :
      Move l ⟨l.tokens.clone token, l.origins ++ [origin]⟩
  | begin (operation : TokenOperation) {token : Nat} (known : token < l.origins.length) :
      Move l ⟨l.tokens.begin operation token, l.origins⟩
  | step {number : Nat} {tokens : Tokens} (h : l.tokens.step number = some tokens) :
      Move l ⟨tokens, l.origins⟩

abbrev Reaches : Lineage → Lineage → Prop := Relation.ReflTransGen Move

/-- Both tokens come from the same one. -/
def Kin (l : Lineage) (a b : Nat) : Prop :=
  ∃ origin, l.origins[a]? = some origin ∧ l.origins[b]? = some origin

/-- The tokens that come from the same one are those of the same family. -/
structure Rooted (l : Lineage) : Prop where
  sound : l.tokens.Sound
  alike : Alike l.tokens.tokens l.origins
  rooted : ∀ origin ∈ l.origins, origin < l.origins.length

variable {l m : Lineage}

theorem rooted_none : none.Rooted :=
  ⟨⟨nofun, nofun, by simp [none], by simp [none], nofun⟩, ⟨rfl, nofun⟩, nofun⟩

theorem Move.rooted (h : Move l m) (rooted : l.Rooted) : m.Rooted := by
  obtain ⟨sound, alike, roots⟩ := rooted
  have grown {origin : Nat} (bound : origin < l.origins.length + 1) :
      ∀ o ∈ l.origins ++ [origin], o < (l.origins ++ [origin]).length := by
    intro o member
    rw [List.length_append, List.length_singleton]
    rcases List.mem_append.1 member with member | member
    · exact Nat.lt_succ_of_lt (roots o member)
    · rwa [List.mem_singleton.1 member]
  cases h with
  | fresh =>
    refine ⟨sound.fresh, alike.snoc fun a _ => iff_of_false (fun here => ?_) fun here => ?_,
      grown (Nat.lt_succ_self _)⟩
    · exact Nat.lt_irrefl _ (sound.housed _ (List.mem_of_getElem? here))
    · exact Nat.lt_irrefl _ (roots _ (List.mem_of_getElem? here))
  | @clone token origin known =>
    obtain ⟨bound, -⟩ := List.getElem?_eq_some_iff.1 known
    obtain ⟨family, -, here, -⟩ := sound.state (alike.length ▸ bound)
    refine ⟨sound.clone token, ?_, grown (Nat.lt_succ_of_lt (roots _ (List.mem_of_getElem? known)))⟩
    simp only [Tokens.clone, here]
    refine alike.snoc fun a bound' => ?_
    rw [← here, ← known]
    exact alike.equal bound' (alike.length ▸ bound)
  | begin operation known => exact ⟨sound.begin operation (alike.length ▸ known), alike, roots⟩
  | step h =>
    refine ⟨sound.step h, ?_, roots⟩
    rw [(Tokens.steps_of_step h).tokens]
    exact alike

theorem Reaches.rooted (run : Reaches l m) (rooted : l.Rooted) : m.Rooted := by
  induction run with
  | refl => exact rooted
  | tail _ move ih => exact move.rooted ih

theorem Rooted.known (rooted : l.Rooted) {token : Nat} (known : token < l.origins.length) :
    token < l.tokens.tokens.length :=
  rooted.alike.length ▸ known

theorem Rooted.kin_iff (rooted : l.Rooted) {a b : Nat} (known : a < l.tokens.tokens.length)
    (known' : b < l.tokens.tokens.length) :
    l.Kin a b ↔ l.tokens.tokens[a]? = l.tokens.tokens[b]? := by
  rw [rooted.alike.equal known known']
  constructor
  · rintro ⟨origin, here, there⟩
    rw [here, there]
  · intro same
    have here := List.getElem?_eq_getElem (rooted.alike.length ▸ known : a < l.origins.length)
    exact ⟨_, here, same ▸ here⟩

theorem Kin.known {a b : Nat} (kin : l.Kin a b) : a < l.origins.length ∧ b < l.origins.length := by
  obtain ⟨origin, here, there⟩ := kin
  exact ⟨(List.getElem?_eq_some_iff.1 here).1, (List.getElem?_eq_some_iff.1 there).1⟩

/-- Nothing happens to a token but by a cancellation of its kin. -/
theorem Move.apart (h : Move l m) (rooted : l.Rooted) {token : Nat}
    (known : token < l.origins.length) :
    m.tokens.family? token = l.tokens.family? token ∨ ∃ number call,
      l.tokens.calls[number]? = some call ∧ call.operation = .cancel ∧ l.Kin call.token token ∧
        l.tokens.step number = some m.tokens := by
  have known := rooted.known known
  obtain ⟨family, state, here, there, -⟩ := rooted.sound.state known
  have grown (families : List Family) (tokens : List Nat) :
      Tokens.family? ⟨l.tokens.families ++ families, l.tokens.tokens ++ tokens, l.tokens.calls⟩
        token = l.tokens.family? token := by
    have here' : (l.tokens.tokens ++ tokens)[token]? = some family :=
      (List.getElem?_append_left known).trans here
    rw [Tokens.family?_eq here', Tokens.family?_eq here]
    exact List.getElem?_append_left (List.getElem?_eq_some_iff.1 there).1
  cases h with
  | fresh => exact .inl (grown _ _)
  | @clone original origin known' =>
    obtain ⟨family', -, here', -⟩ := rooted.sound.state
      (rooted.known (List.getElem?_eq_some_iff.1 known').1)
    have same := grown [] [family']
    rw [List.append_nil] at same
    simp only [Tokens.clone, here']
    exact .inl same
  | begin => exact .inl rfl
  | @step number tokens h =>
    rcases (Tokens.steps_of_step h).family? token with same | ⟨call, mine, cancels, same⟩
    · exact .inl same
    · exact .inr ⟨number, call, mine, cancels,
        (rooted.kin_iff (rooted.sound.known_of_call mine) known).2 same, h⟩

theorem Move.cancelled (h : Move l m) (rooted : l.Rooted) {token : Nat}
    (known : token < l.origins.length) (cancelled : l.tokens.isCancelled token = true) :
    m.tokens.isCancelled token = true := by
  rcases h.apart rooted known with same | ⟨number, call, -, -, -, h⟩
  · rwa [Tokens.isCancelled, same]
  · exact (Tokens.steps_of_step h).cancelled cancelled

theorem Move.known (h : Move l m) : l.origins.length ≤ m.origins.length := by
  cases h with
  | fresh | clone => simp
  | begin | step => exact Nat.le_refl _

theorem Reaches.cancelled (run : Reaches l m) (rooted : l.Rooted) {token : Nat}
    (known : token < l.origins.length) (cancelled : l.tokens.isCancelled token = true) :
    token < m.origins.length ∧ m.tokens.isCancelled token = true := by
  induction run with
  | refl => exact ⟨known, cancelled⟩
  | tail run move ih =>
    exact ⟨Nat.lt_of_lt_of_le ih.1 move.known, move.cancelled (Reaches.rooted run rooted) ih.1 ih.2⟩

/-- What holds at every moment, whoever has done what with tokens. -/
structure Lawful (l : Lineage) : Prop where
  cancelled : ∀ token < l.origins.length, (l.tokens.isCancelled token = true ↔
    ∃ call ∈ l.tokens.calls, call.Begun ∧ l.Kin call.token token)
  agree : ∀ a b, l.Kin a b → l.tokens.family? a = l.tokens.family? b
  apart : ∀ m, Move l m → ∀ token < l.origins.length,
    m.tokens.family? token = l.tokens.family? token ∨ ∃ number call,
      l.tokens.calls[number]? = some call ∧ call.operation = .cancel ∧ l.Kin call.token token ∧
        l.tokens.step number = some m.tokens
  stays : ∀ m, Reaches l m → ∀ token < l.origins.length, l.tokens.isCancelled token = true →
    m.tokens.isCancelled token = true
  ended : ∀ call ∈ l.tokens.calls, call.operation = .await → call.stage = .finished →
    l.tokens.isCancelled call.token = true
  blocked : ∀ number call, l.tokens.calls[number]? = some call → call.stage ≠ .finished →
    l.tokens.step number = Option.none → call.operation = .await ∧
      (∀ other ∈ l.tokens.calls, other.Completed → ¬ l.Kin other.token call.token) ∧
      (l.tokens.isCancelled call.token = true → ∃ rouser other v,
        l.tokens.calls[rouser]? = some other ∧ other.Begun ∧ l.Kin other.token call.token ∧
          l.tokens.step rouser = some v ∧
            v.step number = some (v.answered number { call with stage := .finished }))
  released : ∀ number call, l.tokens.calls[number]? = some call → call.operation = .await →
    call.stage ≠ .finished →
    (∃ other ∈ l.tokens.calls, other.Completed ∧ l.Kin other.token call.token) →
      l.tokens.step number =
        some (l.tokens.answered number { call with stage := .finished })

/-- The calls on tokens of one family are those on kin. -/
theorem Rooted.calls_iff (rooted : l.Rooted) {kind : TokenCall → Prop} {token : Nat}
    (known : token < l.tokens.tokens.length) :
    (∃ call ∈ l.tokens.calls, kind call ∧
        l.tokens.tokens[call.token]? = l.tokens.tokens[token]?) ↔
      ∃ call ∈ l.tokens.calls, kind call ∧ l.Kin call.token token := by
  refine exists_congr fun call => and_congr_right fun member => and_congr_right fun _ => ?_
  exact (rooted.kin_iff (rooted.sound.called call member) known).symm

theorem Rooted.isCancelled_iff (rooted : l.Rooted) {token : Nat}
    (known : token < l.origins.length) : l.tokens.isCancelled token = true ↔
      ∃ call ∈ l.tokens.calls, call.Begun ∧ l.Kin call.token token :=
  (rooted.sound.isCancelled_iff (rooted.known known)).trans (rooted.calls_iff (rooted.known known))

theorem Rooted.isWoken_iff (rooted : l.Rooted) {token : Nat}
    (known : token < l.origins.length) : l.tokens.isWoken token = true ↔
      ∃ call ∈ l.tokens.calls, call.Completed ∧ l.Kin call.token token :=
  (rooted.sound.isWoken_iff (rooted.known known)).trans (rooted.calls_iff (rooted.known known))

theorem Rooted.agree (rooted : l.Rooted) {a b : Nat} (kin : l.Kin a b) :
    l.tokens.family? a = l.tokens.family? b := by
  have same := (rooted.kin_iff (rooted.known kin.known.1) (rooted.known kin.known.2)).1 kin
  rw [Tokens.family?, Tokens.family?, same]

theorem Rooted.called (rooted : l.Rooted) {number : Nat} {call : TokenCall}
    (here : l.tokens.calls[number]? = some call) : call.token < l.origins.length :=
  rooted.alike.length ▸ rooted.sound.known_of_call here

theorem Rooted.blocked (rooted : l.Rooted) {number : Nat} {call : TokenCall}
    (here : l.tokens.calls[number]? = some call) (going : call.stage ≠ .finished)
    (stuck : l.tokens.step number = Option.none) :
    call.operation = .await ∧
      (∀ other ∈ l.tokens.calls, other.Completed → ¬ l.Kin other.token call.token) ∧
      (l.tokens.isCancelled call.token = true → ∃ rouser other v,
        l.tokens.calls[rouser]? = some other ∧ other.Begun ∧ l.Kin other.token call.token ∧
          l.tokens.step rouser = some v ∧
            v.step number = some (v.answered number { call with stage := .finished })) := by
  obtain ⟨awaits, asleep⟩ := (Tokens.waits_of_stuck here stuck).resolve_left going
  have known := rooted.called here
  have alone : ∀ other ∈ l.tokens.calls, other.Completed → ¬ l.Kin other.token call.token := by
    intro other member completed kin
    have woken := (rooted.isWoken_iff known).2 ⟨other, member, completed, kin⟩
    simp [asleep] at woken
  refine ⟨awaits, alone, fun cancelled => ?_⟩
  obtain ⟨other, member, begun, kin⟩ := (rooted.isCancelled_iff known).1 cancelled
  obtain ⟨rouser, there⟩ := List.getElem?_of_mem member
  obtain ⟨v, goes, others, wakes⟩ :=
    rooted.sound.wakes there begun fun completed => alone other member completed kin
  have apart : rouser ≠ number := by
    rintro rfl
    exact absurd (goes.symm.trans stuck) nofun
  have same := (rooted.kin_iff (rooted.known kin.known.1) (rooted.known known)).1 kin
  exact ⟨rouser, other, v, there, begun, kin, goes, (rooted.sound.step goes).step_of_woken
    ((others number apart).trans here) awaits going (wakes _ (rooted.known known) same)⟩

theorem Rooted.lawful (rooted : l.Rooted) : l.Lawful where
  cancelled _ known := rooted.isCancelled_iff known
  agree _ _ kin := rooted.agree kin
  apart _ move _ known := move.apart rooted known
  stays _ run _ known cancelled := (run.cancelled rooted known cancelled).2
  ended call member awaits finished :=
    (rooted.sound.isCancelled_iff (rooted.sound.called call member)).2
      (rooted.sound.ended call member awaits finished)
  blocked _ _ here going stuck := rooted.blocked here going stuck
  released _ _ here awaits going completed := rooted.sound.step_of_woken here awaits going
    ((rooted.isWoken_iff (rooted.called here)).2 completed)

theorem lawful_of_reaches (run : Reaches none l) : l.Lawful :=
  (run.rooted rooted_none).lawful

end Lineage

end DispatchServer
