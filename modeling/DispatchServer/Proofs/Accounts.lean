import DispatchServer.Proofs.Replies
import DispatchServer.Proofs.Roles

/-! The accounts of a server. Whatever left the channel was begun by one of its threads, is about to
be, or was drained at its end. -/
namespace DispatchServer

theorem Fate.status_ne_queued (fate : Fate) : fate.status ≠ .queued := by
  cases fate with
  | worked failure => cases failure <;> simp [status, workedStatus]
  | _ => simp [status]

namespace Ledger

variable (ledger : Ledger)

theorem queued_of_publish {m : Message} {status : ReplyStatus} {k : Nat}
    (final : status ≠ .queued) (queued : (ledger.publish m status).status? k = some .queued) :
    ledger.status? k = some .queued := by
  rw [status?_publish] at queued
  split at queued
  · exact absurd (Option.some.inj queued) final
  · exact queued

theorem queued_of_drop {m : Message} {panicking : Bool} {k : Nat}
    (queued : (ledger.drop m panicking).status? k = some .queued) :
    ledger.status? k = some .queued := by
  unfold drop at queued
  split at queued
  · exact queued_of_publish ledger (by simp) queued
  · exact queued

end Ledger

namespace Flow

variable {flow : Flow} {T : Traffic}

theorem queued_of_apply {k : Nat} (queued : (flow.apply T).ledger.status? k = some .queued) :
    T.ledger.status? k = some .queued ∨
      ∃ m, flow = .built m ∧ m.plan.kind = .reply ∧ T.ledger.next = k := by
  cases flow with
  | built m =>
    simp only [apply, Traffic.ledger_record] at queued
    rw [Ledger.status?_issue] at queued
    split at queued
    · exact .inr ⟨m, rfl, ‹_›⟩
    · exact .inl queued
  | worked m failure =>
    exact .inl (Ledger.queued_of_publish _ (Fate.status_ne_queued (.worked failure)) queued)
  | returned m error =>
    exact .inl (Ledger.queued_of_publish _ (Fate.status_ne_queued (.returned error)) queued)
  | dropped m unwinding => exact .inl (Ledger.queued_of_drop _ queued)
  | abandoned m => exact .inl (Ledger.queued_of_drop _ queued)
  | _ => exact .inl queued

theorem events_apply : (flow.apply T).events = T.events ++ flow.event?.toList := by
  have events : (flow.apply T).events.filterMap some = _ := filterMap_apply some
  simpa using events

theorem received_apply_eq :
    ((flow.apply T).received : Multiset Nat) = T.received + flow.receives.map Message.ticket := by
  rw [received_apply, ← Multiset.coe_add]
  cases flow <;> simp [Event.received?]

theorem begun_apply_eq :
    ((flow.apply T).begun : Multiset Nat) = T.begun + flow.begins.map Message.ticket := by
  rw [begun_apply, ← Multiset.coe_add]
  cases flow <;> simp [Event.begun?]

theorem Fair.enters {server : Option String} {m : Message} (fair : flow.Fair server)
    (here : m ∈ flow.enters) : m.plan.confined := by
  cases flow with
  | built m₀ =>
    obtain rfl := Multiset.mem_singleton.1 here
    exact fair
  | _ => simp at here

end Flow

/-- The accounts are in order. The staff are the server's threads by name, and the drained tickets
are those of the messages that came out of the channel at the end. -/
structure Accounts (staff : List String) (drained : Multiset Nat) (T : Traffic)
    (held working taken : Multiset Message) : Prop where
  custody : Custody T held working
  truthful : ∀ m ∈ present T held working, m.isReply → Awaits T held working m
  expects : ∀ k, T.ledger.status? k = some .queued →
    ∃ m ∈ present T held working, m.isReply ∧ m.ticket = k
  confined : ∀ m ∈ present T held working, m.plan.confined
  failed : ∀ k, ∀ error ∈ T.failures k, error = .queueClosed
  begun : ∀ k device thread, .begun k device thread ∈ T.events → thread ∈ staff
  received : (T.received : Multiset Nat) = T.begun + taken.map Message.ticket + drained

/-- One fair flow keeps the accounts. -/
theorem Flow.Links.accounts {flow : Flow} {panics : Bool} {s s' : Shared}
    {held held' working working' taken taken' more : Multiset Message} {staff : List String}
    {server : Option String} {drained : Multiset Nat}
    (links : flow.Links panics s s' held held' working working') (fair : flow.Fair server)
    (member : ∀ name ∈ server, name ∈ staff)
    (balance : taken' + flow.begins + more = taken + flow.receives)
    (accounts : Accounts staff drained s.traffic held working taken) :
    Accounts staff (drained + more.map Message.ticket) s'.traffic held' working' taken' where
  custody := links.custody accounts.custody
  truthful := links.truthful accounts.custody accounts.truthful
  expects k queued := by
    have moves := links.moves
    rw [links.traffic] at queued
    rcases Flow.queued_of_apply queued with old | ⟨m, rfl, reply, next⟩
    · obtain ⟨m, here, reply, rfl⟩ := accounts.expects k old
      rcases links.awaits accounts.custody reply (accounts.truthful m here reply) with
        awaits | ⟨fate, settles⟩
      · exact ⟨m, awaits.here, reply, rfl⟩
      · have status := settles.status
        rw [links.traffic, queued] at status
        exact absurd (Option.some.inj status).symm fate.status_ne_queued
    · -- A reply that is newly queued is that of the message that was built.
      have fits : m.ticket = s.traffic.ledger.next := links.fits
      refine ⟨m, ?_, by simp [Message.isReply, reply], fits.trans next⟩
      simp only [Flow.leaves, Flow.enters, add_zero] at moves
      rw [moves]
      exact Multiset.mem_add.2 (.inr (Multiset.mem_singleton_self m))
  confined m here := by
    have member : m ∈ present s.traffic held working + flow.enters := by
      rw [← links.moves]
      exact Multiset.mem_add.2 (.inl here)
    rcases Multiset.mem_add.1 member with old | new
    · exact accounts.confined m old
    · exact fair.enters new
  failed k error member := by
    rw [links.traffic, Flow.failures_apply] at member
    rcases List.mem_append.1 member with old | new
    · exact accounts.failed k error old
    · cases flow with
      | returned m error' =>
        have fair : error' = .queueClosed := fair
        by_cases here : m.ticket = k <;> simp_all [Event.failure?]
      | _ => simp [Event.failure?] at new
  begun k device thread member := by
    rw [links.traffic, Flow.events_apply] at member
    rcases List.mem_append.1 member with old | new
    · exact accounts.begun k device thread old
    · cases flow with
      | begun m thread' =>
        have fair : server = some thread' := fair
        simp_all
      | _ => simp at new
  -- What was received is begun, drained or still taken; `balance` says which of these changes.
  received := by
    have balance := congrArg (Multiset.map Message.ticket) balance
    simp only [Multiset.map_add] at balance
    rw [links.traffic, Flow.received_apply_eq, Flow.begun_apply_eq, accounts.received]
    calc _ = (s.traffic.begun : Multiset Nat) + drained +
          (taken.map Message.ticket + flow.receives.map Message.ticket) := by abel
      _ = (s.traffic.begun : Multiset Nat) + drained + (taken'.map Message.ticket +
          flow.begins.map Message.ticket + more.map Message.ticket) := by rw [← balance]
      _ = _ := by abel

/-- One fair flow keeps the accounts, and nothing is drained. -/
theorem Flow.Links.accounts_of_balance {flow : Flow} {panics : Bool} {s s' : Shared}
    {held held' working working' taken taken' : Multiset Message} {staff : List String}
    {server : Option String} {drained : Multiset Nat}
    (links : flow.Links panics s s' held held' working working') (fair : flow.Fair server)
    (member : ∀ name ∈ server, name ∈ staff)
    (balance : taken' + flow.begins = taken + flow.receives)
    (accounts : Accounts staff drained s.traffic held working taken) :
    Accounts staff drained s'.traffic held' working' taken' := by
  have balance : taken' + flow.begins + 0 = taken + flow.receives := by rwa [add_zero]
  simpa using links.accounts fair member balance accounts

end DispatchServer
