import DispatchServer.Proofs.Limits
import DispatchServer.Proofs.Pinning

/-! The tables under any sequence of calls, the kernel refusing to lock and unlock pages as it
likes. What was asked and answered so far says which handles are in use and which buffers are
there. -/
namespace DispatchServer

def Call.wrapped? (lockPages : Bool) : Call → Option HostBuffer
  | .createBuffer context _ address length => some ⟨context, address, length, lockPages⟩
  | _ => none

namespace Host

/-- The tables refer to one another, and no buffer is too large for a device that may use it. -/
structure Consistent (host : Host) : Prop where
  contexts : ∀ h members, host.contextDevices? h = some members → members ≠ [] ∧
    ∀ d ∈ members, ∃ device ∈ host.devices, device.id = d
  queues : ∀ h queue, host.queue? h = some queue →
    ∃ members, host.contextDevices? queue.context = some members ∧ queue.device ∈ members
  buffers : ∀ h buffer, host.buffer? h = some buffer →
    ∃ members, host.contextDevices? buffer.context = some members ∧ 1 ≤ buffer.length ∧
      ∀ device ∈ host.devices, device.id ∈ members → buffer.length ≤ device.maxAlloc

def Admits (host : Host) : Call → Prop
  | .createContext members => members ≠ [] ∧ ∀ d ∈ members, ∃ max, host.maxAlloc? d = some max
  | .createQueue context device _ =>
    ∃ members, host.contextDevices? context = some members ∧ device ∈ members
  | .createBuffer context _ _ length =>
    ∃ members, host.contextDevices? context = some members ∧ 1 ≤ length ∧
      length ≤ host.bufferLimit members
  | .releaseBuffer buffer => ∃ held, host.buffer? buffer = some held

theorem admits_of_serve {host : Host} {locks : PageLocks} {c : Call} {served : Served}
    (h : host.serve locks c = .ok served) : host.Admits c := by
  cases c with
  | createContext members =>
    simp only [serve, createContext] at h
    (repeat' split at h) <;> cases h
    rename_i given _ known
    rw [List.find?_eq_none] at known
    refine ⟨by simpa using given, fun d member => Option.ne_none_iff_exists'.1 ?_⟩
    simpa using known d member
  | createQueue context device properties =>
    simp only [serve, createQueue] at h
    (repeat' split at h) <;> cases h
    rename_i members here member
    exact ⟨members, here, by simpa using member⟩
  | createBuffer context flags address length =>
    simp only [serve, createBuffer] at h
    (repeat' split at h) <;> cases h
    rename_i members here bounds _ _
    exact ⟨members, here, by omega, by omega⟩
  | releaseBuffer buffer =>
    simp only [serve, releaseBuffer] at h
    split at h <;> cases h
    rename_i held here
    exact ⟨held, here⟩

/-- A release needs nothing but the buffer; the kernel is not asked whether it agrees. -/
theorem serve_release (host : Host) (locks : PageLocks) (buffer : Handle) :
    (host.serve locks (.releaseBuffer buffer)).map (·.handle) =
      if (host.buffer? buffer).isSome then .ok buffer else .error (.invalidBuffer buffer) := by
  simp only [serve, releaseBuffer]
  cases host.buffer? buffer <;> rfl

theorem absent_of_refused {host : Host} {locks : PageLocks} {buffer : Handle}
    {error : AcceleratorError} (refused : host.serve locks (.releaseBuffer buffer) = .error error) :
    host.buffer? buffer = none := by
  have decided := host.serve_release locks buffer
  rw [refused] at decided
  cases here : host.buffer? buffer with
  | none => rfl
  | some held =>
    rw [here] at decided
    cases decided

theorem bufferLimit_le {host : Host} {members : List DeviceId} {d : DeviceId} {max : Nat}
    (member : d ∈ members) (known : host.maxAlloc? d = some max) :
    host.bufferLimit members ≤ max := by
  have among : max ∈ members.filterMap host.maxAlloc? := List.mem_filterMap.2 ⟨d, member, known⟩
  unfold bufferLimit
  cases least : (members.filterMap host.maxAlloc?).min? with
  | none => exact Nat.zero_le max
  | some limit => exact (List.min?_eq_some_iff.1 least).2 max among

theorem device_of_maxAlloc? {host : Host} {d : DeviceId} {max : Nat}
    (known : host.maxAlloc? d = some max) : ∃ device ∈ host.devices, device.id = d := by
  obtain ⟨device, found, -⟩ := Option.map_eq_some_iff.1 known
  exact ⟨device, List.mem_of_find?_eq_some found, by simpa using List.find?_some found⟩

/-- No call adds a context that nothing can be created in. -/
theorem Arises.members {host : Host} {created : Nat} (arises : host.Arises created) {h : Handle}
    {members : List DeviceId} (here : host.contextDevices? h = some members) :
    members ≠ [] ∧ ∀ d ∈ members, ∃ device ∈ host.devices, device.id = d := by
  induction arises generalizing h members with
  | fresh sizes lockPages => simp [contextDevices?, ofSizes] at here
  | served before served ih =>
    have admits := admits_of_serve served
    cases serves_of_serve served with
    | context devices =>
      rw [contextDevices?, getElem?_insert] at here
      split at here
      · cases here
        refine ⟨admits.1, fun d member => ?_⟩
        obtain ⟨max, known⟩ := admits.2 d member
        exact device_of_maxAlloc? known
      · exact ih here
    | _ => exact ih here

/-- A new context does not change what others say of the contexts that they know. -/
theorem context_of_insert {host : Host} {members new : List DeviceId} {h : Handle}
    (spare : host.Spare 1) (here : host.contextDevices? h = some members) :
    (host.contexts.insert host.handle new)[h]? = some members := by
  rw [getElem?_insert, if_neg]
  · exact here
  · rintro rfl
    rw [← upcoming_zero, spare.contexts 0 Nat.one_pos] at here
    cases here

theorem Arises.consistent {host : Host} {created : Nat} (arises : host.Arises created)
    (few : created < 2 ^ 64) : host.Consistent := by
  induction arises with
  | fresh sizes lockPages =>
    constructor <;> intro h _ here <;> simp [contextDevices?, queue?, buffer?, ofSizes] at here
  | @served created host locks c served before h ih =>
    obtain ⟨-, queues, buffers⟩ := ih (Nat.lt_of_le_of_lt (Nat.le_add_right _ _) few)
    have admits := admits_of_serve h
    have contexts (key) {members} (here : served.host.contextDevices? key = some members) :=
      (before.served h).members here
    -- A new entry refers to what it was admitted for, and what entries refer to is never released.
    cases serves_of_serve h with
    | context members =>
      have spare : host.Spare 1 := before.spare (Nat.le_of_lt few)
      refine ⟨fun key members => contexts key, fun h queue here => ?_, fun h buffer here => ?_⟩
      · obtain ⟨others, context, member⟩ := queues h queue here
        exact ⟨others, context_of_insert spare context, member⟩
      · obtain ⟨others, context, bounds⟩ := buffers h buffer here
        exact ⟨others, context_of_insert spare context, bounds⟩
    | queue context device properties =>
      refine ⟨fun key members => contexts key, fun h queue here => ?_, buffers⟩
      rw [queue?, getElem?_insert] at here
      split at here
      · cases here
        exact admits
      · exact queues h queue here
    | buffer context flags address length =>
      refine ⟨fun key members => contexts key, queues, fun h buffer here => ?_⟩
      rw [buffer?, getElem?_insert] at here
      split at here
      · cases here
        obtain ⟨members, here, positive, limit⟩ := admits
        exact ⟨members, here, positive, fun device known member =>
          limit.trans (bufferLimit_le member (before.maxAlloc? known))⟩
      · exact buffers h buffer here
    | release buffer stuck =>
      refine ⟨fun key members => contexts key, queues, fun h buffer here => ?_⟩
      rw [buffer?, getElem?_erase] at here
      split at here
      · cases here
      · exact buffers h buffer here

/-- A release erases its buffer; every other served call takes the counter's handle and adds what it
names, which is a buffer or something else. -/
theorem Serves.adds {host : Host} {locks : PageLocks} {c : Call} {served : Served}
    (serves : host.Serves locks c served) :
    (∃ buffer, c = .releaseBuffer buffer ∧ served.handle = buffer ∧
      served.host = { host with buffers := host.buffers.erase buffer }) ∨
    (∀ h, c ≠ .releaseBuffer h) ∧ served.handle = host.handle ∧
      served.host.next = host.next + 1 ∧ (host.buffer? host.handle = none →
        ∀ h, served.host.buffer? h =
          if h = host.handle then c.wrapped? host.lockPages else host.buffer? h) := by
  cases serves with
  | context | queue =>
    refine .inr ⟨by simp, rfl, rfl, fun fresh h => ?_⟩
    split
    · rename_i new
      exact new ▸ fresh
    · rfl
  | buffer context flags address length =>
    refine .inr ⟨by simp, rfl, rfl, fun _ h => ?_⟩
    simp only [buffer?, getElem?_insert, eq_comm (a := host.handle)]
    rfl
  | release buffer stuck => exact .inl ⟨buffer, rfl, rfl, rfl⟩

theorem Serves.same {host : Host} {locks : PageLocks} {c : Call} {served : Served}
    (serves : host.Serves locks c served) :
    served.host.devices = host.devices ∧ served.host.lockPages = host.lockPages := by
  cases serves <;> exact ⟨rfl, rfl⟩

end Host

/-- A call and what the kernel says of pages while it is made. -/
structure Trial where
  locks : PageLocks
  call : Call

abbrev Deal := Call × Except AcceleratorError Handle

/-- The handle that was given out for something new. -/
def Deal.created? : Deal → Option Handle
  | (.releaseBuffer _, _) => none
  | (_, .ok handle) => some handle
  | (_, .error _) => none

/-- The handle was given out for such a buffer, and nobody has asked for its release since. -/
def Outstanding (dealt : List Deal) (buffer : Handle) (context address length : Nat) : Prop :=
  ∃ before flags after,
    dealt = before ++ (.createBuffer context flags address length, .ok buffer) :: after ∧
      ∀ deal ∈ after, deal.1 ≠ .releaseBuffer buffer

theorem outstanding_concat {dealt : List Deal} {deal : Deal} {buffer : Handle}
    {context address length : Nat} :
    Outstanding (dealt ++ [deal]) buffer context address length ↔
      (∃ flags, deal = (.createBuffer context flags address length, .ok buffer)) ∨
        Outstanding dealt buffer context address length ∧ deal.1 ≠ .releaseBuffer buffer := by
  constructor
  · rintro ⟨before, flags, after, whole, kept⟩
    rcases List.eq_nil_or_concat after with rfl | ⟨after, last, rfl⟩
    · obtain ⟨-, here⟩ := List.append_inj' whole rfl
      exact .inl ⟨flags, (List.cons.inj here).1⟩
    · have whole : dealt ++ [deal] = (before ++ (.createBuffer context flags address length,
          .ok buffer) :: after) ++ [last] := by simpa using whole
      obtain ⟨rfl, same⟩ := List.append_inj' whole rfl
      obtain rfl := (List.cons.inj same).1
      exact .inr ⟨⟨before, flags, after, rfl, fun deal member => kept deal (by simp [member])⟩,
        kept deal (by simp)⟩
  · rintro (⟨flags, rfl⟩ | ⟨⟨before, flags, after, rfl, kept⟩, other⟩)
    · exact ⟨dealt, flags, [], rfl, by simp⟩
    · refine ⟨before, flags, after ++ [deal], by simp, fun one member => ?_⟩
      rcases List.mem_append.1 member with member | member
      · exact kept one member
      · obtain rfl := List.mem_singleton.1 member
        exact other

namespace Rig

/-- The calls so far with their answers. -/
def dealt (rig : Rig) : List Deal := rig.history.events.filterMap Event.called?

/-- The handles that were given out, in the order of the calls that got them. -/
def created (rig : Rig) : List Handle := rig.dealt.filterMap Deal.created?

def attempt (rig : Rig) (trial : Trial) : Except AcceleratorError Handle × Rig :=
  { rig with locks := trial.locks }.call trial.call

def attemptAll (rig : Rig) (trials : List Trial) : Rig :=
  trials.foldl (fun rig trial => (rig.attempt trial).2) rig

theorem dealt_record (rig : Rig) (event : Event) :
    (rig.record event).dealt = rig.dealt ++ event.called?.toList := by
  simp only [dealt, record, History.events_record, List.filterMap_append]
  cases event <;> rfl

theorem dealt_attempt (rig : Rig) (trial : Trial) :
    (rig.attempt trial).2.dealt = rig.dealt ++ [(trial.call, (rig.attempt trial).1)] := by
  simp only [attempt, call]
  split
  · exact dealt_record _ _
  · split
    · exact dealt_record _ _
    · dsimp only
      split
      · exact dealt_record _ _
      · rw [log, dealt_record]
        exact (List.append_nil _).trans (dealt_record _ _)

theorem faults_attempt (rig : Rig) (trial : Trial) :
    (rig.attempt trial).2.faults = rig.faults :=
  faults_call { rig with locks := trial.locks } trial.call

/-- The tables alone decide, and a refused call leaves them as they are. -/
theorem attempt_cases {rig : Rig} (faults : rig.faults = .none) (trial : Trial) :
    (∃ error, rig.host.serve trial.locks trial.call = .error error ∧
      (rig.attempt trial).1 = .error error ∧ (rig.attempt trial).2.host = rig.host) ∨
    ∃ served, rig.host.serve trial.locks trial.call = .ok served ∧
      (rig.attempt trial).1 = .ok served.handle ∧ (rig.attempt trial).2.host = served.host := by
  cases serve : rig.host.serve trial.locks trial.call with
  | error error =>
    left
    refine ⟨error, rfl, ?_, ?_⟩ <;> simp [attempt, call, faults, Faults.none, serve, record]
  | ok served =>
    right
    refine ⟨served, rfl, by simp [attempt, call, faults, Faults.none, serve], ?_⟩
    simp only [attempt, call, faults, Faults.none, serve]
    split <;> rfl

theorem attempt_release {rig : Rig} (faults : rig.faults = .none) (locks : PageLocks)
    (buffer : Handle) : (rig.attempt ⟨locks, .releaseBuffer buffer⟩).1 =
      if (rig.host.buffer? buffer).isSome then .ok buffer else .error (.invalidBuffer buffer) := by
  rw [← rig.host.serve_release locks]
  rcases attempt_cases faults ⟨locks, .releaseBuffer buffer⟩ with
    ⟨error, serve, answer, -⟩ | ⟨served, serve, answer, -⟩ <;>
  · rw [answer, serve]
    rfl

theorem attempt_release_gone {rig : Rig} (faults : rig.faults = .none) (locks : PageLocks)
    (buffer : Handle) :
    (rig.attempt ⟨locks, .releaseBuffer buffer⟩).2.host.buffer? buffer = none := by
  rcases attempt_cases faults ⟨locks, .releaseBuffer buffer⟩ with
    ⟨error, serve, -, host⟩ | ⟨served, serve, -, host⟩ <;> rw [host]
  · exact Host.absent_of_refused serve
  · cases Host.serves_of_serve serve
    exact (Host.getElem?_erase _ _ _).trans (if_pos rfl)

/-- The calls so far, told from their answers, account for everything in the tables, as long as the
counter has not been through all words. -/
structure Accounted (sizes : List Nat) (lockPages : Bool) (rig : Rig) : Prop where
  faults : rig.faults = .none
  arises : rig.host.Arises rig.created.length
  devices : rig.host.devices = Host.simulated 0 sizes
  locking : rig.host.lockPages = lockPages
  next : rig.host.handle = (1 + rig.created.length) % 2 ^ 64
  created : rig.created = (List.range' 1 rig.created.length).map (· % 2 ^ 64)
  live : rig.created.length < 2 ^ 64 → ∀ h buffer, rig.host.buffer? h = some buffer ↔
    buffer.locked = lockPages ∧
      Outstanding rig.dealt h buffer.context buffer.address buffer.length
  gone : rig.created.length < 2 ^ 64 → ∀ h answer, (.releaseBuffer h, .ok answer) ∈ rig.dealt →
    h ∈ rig.created ∧ rig.host.buffer? h = none

variable {sizes : List Nat} {lockPages : Bool} {rig : Rig}

theorem accounted_opening (sizes : List Nat) (lockPages : Bool) (locks : PageLocks) :
    (ofHost (.ofSizes sizes lockPages) locks .none).Accounted sizes lockPages where
  faults := rfl
  arises := .fresh sizes lockPages
  devices := rfl
  locking := rfl
  next := rfl
  created := rfl
  live _ h buffer := by
    simp [ofHost, Host.ofSizes, Host.buffer?, Outstanding, dealt]
  gone _ h answer member := by cases member

theorem created_concat {rig' : Rig} {deal : Deal} (dealt : rig'.dealt = rig.dealt ++ [deal]) :
    rig'.created = rig.created ++ deal.created?.toList := by
  rw [created, dealt, List.filterMap_append, created, List.filterMap_cons, List.filterMap_nil]
  split <;> rename_i new <;> rw [new] <;> rfl

theorem Accounted.created_eq (accounted : rig.Accounted sizes lockPages)
    (few : rig.created.length < 2 ^ 64) : rig.created = List.range' 1 rig.created.length := by
  refine accounted.created.trans ((List.map_congr_left fun h member => ?_).trans (List.map_id _))
  have below := (List.mem_range'_1.1 member).2
  exact Nat.mod_eq_of_lt (by omega)

theorem Accounted.handle_notMem (accounted : rig.Accounted sizes lockPages)
    (few : rig.created.length < 2 ^ 64) : rig.host.handle ∉ rig.created := by
  rw [accounted.created_eq few, List.mem_range'_1, accounted.next]
  omega

theorem Accounted.not_outstanding_handle (accounted : rig.Accounted sizes lockPages)
    (few : rig.created.length < 2 ^ 64) (context address length : Nat) :
    ¬ Outstanding rig.dealt rig.host.handle context address length := by
  rintro ⟨before, flags, after, whole, -⟩
  refine accounted.handle_notMem few (List.mem_filterMap.2
    ⟨(.createBuffer context flags address length, .ok rig.host.handle), ?_, rfl⟩)
  simp [whole]

theorem Accounted.refused {rig' : Rig} {c : Call} {error : AcceleratorError}
    (accounted : rig.Accounted sizes lockPages) (faults : rig'.faults = .none)
    (host : rig'.host = rig.host) (dealt : rig'.dealt = rig.dealt ++ [(c, .error error)])
    (absent : ∀ h, c = .releaseBuffer h → rig.host.buffer? h = none) :
    rig'.Accounted sizes lockPages := by
  have created : rig'.created = rig.created := by
    rw [created_concat dealt]
    cases c <;> exact List.append_nil _
  refine ⟨faults, by rw [host, created]; exact accounted.arises, host ▸ accounted.devices,
    host ▸ accounted.locking, by rw [host, created, accounted.next],
    by rw [created]; exact accounted.created, fun few h buffer => ?_, fun few h answer member => ?_⟩
  · rw [created] at few
    rw [dealt, host, accounted.live few, outstanding_concat]
    constructor
    · rintro ⟨locked, outstanding⟩
      refine ⟨locked, .inr ⟨outstanding, fun released => ?_⟩⟩
      have here := (accounted.live few h buffer).2 ⟨locked, outstanding⟩
      rw [absent h released] at here
      cases here
    · rintro ⟨locked, ⟨_, created⟩ | ⟨outstanding, -⟩⟩
      · cases (Prod.mk.inj created).2
      · exact ⟨locked, outstanding⟩
  · rw [created] at few ⊢
    rw [dealt, List.mem_append] at member
    rw [host]
    rcases member with member | member
    · exact accounted.gone few h answer member
    · cases (Prod.mk.inj (List.mem_singleton.1 member)).2

/-- Something new takes the counter's handle. -/
theorem Accounted.added {rig' : Rig} {c : Call} (accounted : rig.Accounted sizes lockPages)
    (faults : rig'.faults = .none) (arises : rig'.host.Arises (rig.created.length + c.creations))
    (devices : rig'.host.devices = rig.host.devices)
    (locking : rig'.host.lockPages = rig.host.lockPages)
    (dealt : rig'.dealt = rig.dealt ++ [(c, .ok rig.host.handle)])
    (adds : ∀ h, c ≠ .releaseBuffer h) (next : rig'.host.next = rig.host.next + 1)
    (buffers : rig.host.buffer? rig.host.handle = none → ∀ h, rig'.host.buffer? h =
      if h = rig.host.handle then c.wrapped? rig.host.lockPages else rig.host.buffer? h) :
    rig'.Accounted sizes lockPages := by
  have new : Deal.created? (c, .ok rig.host.handle) = some rig.host.handle ∧ c.creations = 1 := by
    cases c with
    | releaseBuffer h => exact absurd rfl (adds h)
    | _ => exact ⟨rfl, rfl⟩
  have created : rig'.created = rig.created ++ [rig.host.handle] := by
    rw [created_concat dealt, new.1, Option.toList_some]
  have grown : rig'.created.length = rig.created.length + 1 := by
    rw [created, List.length_append, List.length_singleton]
  have before (few : rig'.created.length < 2 ^ 64) : rig.created.length < 2 ^ 64 :=
    Nat.lt_of_succ_lt (by rwa [grown] at few)
  have buffers (few : rig'.created.length < 2 ^ 64) := by
    have spare : rig.host.Spare 1 := accounted.arises.spare (before few)
    have unused := spare.buffers 0 Nat.one_pos
    rw [Host.upcoming_zero] at unused
    exact buffers unused
  refine ⟨faults, by rw [grown, ← new.2]; exact arises, devices.trans accounted.devices,
    locking.trans accounted.locking, ?_, ?_, fun few h buffer => ?_, fun few h answer member => ?_⟩
  · have stood : rig.host.next.toNat = (1 + rig.created.length) % 2 ^ 64 := accounted.next
    rw [Host.handle, next, UInt64.toNat_add, stood, grown]
    show ((1 + rig.created.length) % 2 ^ 64 + 1) % 2 ^ 64 = _
    omega
  · rw [grown, List.range'_concat, List.map_append, ← accounted.created, created, accounted.next,
      Nat.one_mul]
    rfl
  · have old := accounted.not_outstanding_handle (before few)
      buffer.context buffer.address buffer.length
    rw [dealt, buffers few, outstanding_concat]
    split
    · rename_i new
      rw [new, accounted.locking]
      cases c <;> simp [Call.wrapped?, old]
      constructor
      · rintro rfl
        exact ⟨rfl, rfl, rfl, rfl⟩
      · rintro ⟨rfl, rfl, rfl, rfl⟩
        rfl
    · rename_i other
      simp [accounted.live (before few), adds h, Ne.symm other]
  · rw [dealt, List.mem_append] at member
    rcases member with member | member
    · obtain ⟨given, gone⟩ := accounted.gone (before few) h answer member
      have other : h ≠ rig.host.handle := by
        rintro rfl
        exact accounted.handle_notMem (before few) given
      rw [buffers few, if_neg other, created]
      exact ⟨List.mem_append_left _ given, gone⟩
    · exact absurd (Prod.mk.inj (List.mem_singleton.1 member)).1.symm (adds h)

theorem Accounted.released {rig' : Rig} {b : Handle} (accounted : rig.Accounted sizes lockPages)
    (faults : rig'.faults = .none) (arises : rig'.host.Arises rig.created.length)
    (host : rig'.host = { rig.host with buffers := rig.host.buffers.erase b })
    (dealt : rig'.dealt = rig.dealt ++ [(.releaseBuffer b, .ok b)])
    (here : (rig.host.buffer? b).isSome) : rig'.Accounted sizes lockPages := by
  have created : rig'.created = rig.created := (created_concat dealt).trans (List.append_nil _)
  have buffers (h : Handle) :
      rig'.host.buffer? h = if b = h then none else rig.host.buffer? h := by
    rw [host]
    exact Host.getElem?_erase _ _ _
  refine ⟨faults, created ▸ arises, host ▸ accounted.devices, host ▸ accounted.locking, ?_,
    created ▸ accounted.created, fun few h buffer => ?_, fun few h answer member => ?_⟩
  · rw [created, ← accounted.next, host]
    rfl
  · rw [dealt, buffers, outstanding_concat]
    split
    · rename_i same
      simp [same]
    · rename_i other
      simp [accounted.live (created ▸ few), other]
  · rw [created] at few ⊢
    rw [buffers]
    rw [dealt, List.mem_append] at member
    rcases member with member | member
    · obtain ⟨given, gone⟩ := accounted.gone few h answer member
      exact ⟨given, by rw [gone, ite_self]⟩
    · obtain rfl := Call.releaseBuffer.inj (Prod.mk.inj (List.mem_singleton.1 member)).1
      obtain ⟨buffer, here⟩ := Option.isSome_iff_exists.1 here
      obtain ⟨-, before, flags, after, whole, -⟩ := (accounted.live few h buffer).1 here
      refine ⟨List.mem_filterMap.2 ⟨(.createBuffer buffer.context flags buffer.address
        buffer.length, .ok h), ?_, rfl⟩, if_pos rfl⟩
      simp [whole]

theorem Accounted.attempt (accounted : rig.Accounted sizes lockPages) (trial : Trial) :
    (rig.attempt trial).2.Accounted sizes lockPages := by
  have dealt := rig.dealt_attempt trial
  have faults := (rig.faults_attempt trial).trans accounted.faults
  rcases rig.attempt_cases accounted.faults trial with
    ⟨error, serve, answer, host⟩ | ⟨served, serve, answer, host⟩ <;> rw [answer] at dealt
  · exact accounted.refused faults host dealt fun h release =>
      Host.absent_of_refused (release ▸ serve)
  · have arises := host ▸ accounted.arises.served serve
    have serves := Host.serves_of_serve serve
    have admits := Host.admits_of_serve serve
    rcases serves.adds with ⟨b, release, handle, erased⟩ | ⟨adds, handle, next, buffers⟩ <;>
      rw [handle] at dealt
    · rw [release] at dealt admits arises
      exact accounted.released faults arises (host.trans erased) dealt
        (Option.isSome_iff_exists.2 admits)
    · exact accounted.added faults arises (host ▸ serves.same.1) (host ▸ serves.same.2) dealt adds
        (host ▸ next) (host ▸ buffers)

theorem Accounted.attemptAll (accounted : rig.Accounted sizes lockPages) (trials : List Trial) :
    (rig.attemptAll trials).Accounted sizes lockPages := by
  induction trials generalizing rig with
  | nil => exact accounted
  | cons trial trials ih => exact ih (accounted.attempt trial)

theorem dealt_attemptAll (rig : Rig) (trials : List Trial) :
    (rig.attemptAll trials).dealt.map Prod.fst =
      rig.dealt.map Prod.fst ++ trials.map Trial.call := by
  induction trials generalizing rig with
  | nil => exact (List.append_nil _).symm
  | cons trial trials ih =>
    refine (ih _).trans ?_
    rw [dealt_attempt]
    simp

theorem mem_leaks {rig : Rig} {notice : Notice} : notice ∈ rig.leaks ↔
    ∃ h buffer, rig.host.buffer? h = some buffer ∧
      notice = .neverReleased h buffer.address buffer.length := by
  simp only [leaks, List.mem_map, Prod.exists, Std.TreeMap.mem_toList_iff_getElem?_eq_some,
    Host.buffer?, eq_comm]

theorem nodup_leaks (rig : Rig) : rig.leaks.Nodup := by
  have distinct := rig.host.buffers.distinct_keys_toList
  unfold leaks List.Nodup
  rw [List.pairwise_map]
  refine distinct.imp fun other same => ?_
  have handles := (Notice.neverReleased.inj same).1
  simp [handles] at other

end Rig

/-- Whatever is asked of a host and however the kernel answers to locking and unlocking: what is new
gets the numbers from one on, up to the size of a word, after which the counter starts over; a
refused call changes nothing; and a context has devices that are there. As long as the counter has
not started over no handle is given out twice, the tables refer to what is there and to devices that
take it, and a buffer is there from its creation to its first release, which nothing prevents, so
that those never released are those left at the end. -/
theorem tables_account (sizes : List Nat) (lockPages : Bool) (locks : PageLocks)
    (trials : List Trial) :
    let rig := (Rig.ofHost (.ofSizes sizes lockPages) locks .none).attemptAll trials
    rig.dealt.map Prod.fst = trials.map Trial.call ∧
    rig.created = (List.range' 1 rig.created.length).map (· % 2 ^ 64) ∧
    (∀ trial error, (rig.attempt trial).1 = .error error →
      (rig.attempt trial).2.host = rig.host) ∧
    rig.host.devices = Host.simulated 0 sizes ∧
    (∀ h members, rig.host.contextDevices? h = some members → members ≠ [] ∧
      ∀ d ∈ members, ∃ device ∈ rig.host.devices, device.id = d) ∧
    (∀ h locks, (rig.attempt ⟨locks, .releaseBuffer h⟩).1 =
        (if (rig.host.buffer? h).isSome then .ok h else .error (.invalidBuffer h)) ∧
      (rig.attempt ⟨locks, .releaseBuffer h⟩).2.host.buffer? h = none) ∧
    rig.leaks.Nodup ∧
    (rig.created.length < 2 ^ 64 →
      rig.created = List.range' 1 rig.created.length ∧ rig.host.Consistent ∧
      (∀ h buffer, rig.host.buffer? h = some buffer ↔ buffer.locked = lockPages ∧
        Outstanding rig.dealt h buffer.context buffer.address buffer.length) ∧
      (∀ h answer locks, (.releaseBuffer h, .ok answer) ∈ rig.dealt →
        (rig.attempt ⟨locks, .releaseBuffer h⟩).1 = .error (.invalidBuffer h)) ∧
      ∀ notice, notice ∈ rig.leaks ↔ ∃ h context address length,
        notice = .neverReleased h address length ∧
          Outstanding rig.dealt h context address length) := by
  have accounted := (Rig.accounted_opening sizes lockPages locks).attemptAll trials
  have calls := (Rig.ofHost (.ofSizes sizes lockPages) locks .none).dealt_attemptAll trials
  generalize (Rig.ofHost (.ofSizes sizes lockPages) locks .none).attemptAll trials = rig
    at accounted calls
  have release (h locks) := Rig.attempt_release accounted.faults locks h
  refine ⟨calls, accounted.created, fun trial error refused => ?_, accounted.devices,
    fun h members here => accounted.arises.members here,
    fun h locks => ⟨release h locks, Rig.attempt_release_gone accounted.faults locks h⟩,
    rig.nodup_leaks, fun few => ⟨accounted.created_eq few, accounted.arises.consistent few,
      accounted.live few, fun h answer locks member => ?_, fun notice => ?_⟩⟩
  · rcases rig.attempt_cases accounted.faults trial with
      ⟨error, serve, answer, host⟩ | ⟨served, serve, answer, host⟩
    · exact host
    · rw [answer] at refused
      cases refused
  · rw [release, (accounted.gone few h answer member).2]
    rfl
  · rw [Rig.mem_leaks]
    constructor
    · rintro ⟨h, buffer, here, rfl⟩
      exact ⟨h, _, _, _, rfl, ((accounted.live few h buffer).1 here).2⟩
    · rintro ⟨h, context, address, length, rfl, outstanding⟩
      exact ⟨h, ⟨context, address, length, lockPages⟩,
        (accounted.live few h _).2 ⟨rfl, outstanding⟩, rfl⟩

/-- The kernel locks no range at first and unlocks none at the end. -/
def Trial.busy : List Trial :=
  let busy : PageLocks := ⟨fun _ _ => some .outOfMemory, fun _ _ => some .outOfMemory⟩
  [⟨busy, .createContext [1]⟩, ⟨busy, .createBuffer 1 .zone 0x1000 8⟩,
    ⟨.always, .createBuffer 1 .zone 0x1000 8⟩, ⟨.always, .createBuffer 1 .zone 0x2000 5⟩,
    ⟨busy, .releaseBuffer 2⟩]

def Rig.busy : Rig := (ofHost (.ofSizes [8] true) .always .none).attemptAll Trial.busy

theorem tables_account_of_busy :
    Rig.busy.dealt.map Prod.snd =
      [.ok 1, .error (.pageLockFailed 8 .outOfMemory), .ok 2, .ok 3, .ok 2] ∧
    Rig.busy.created = [1, 2, 3] ∧
    (∀ locks, (Rig.busy.attempt ⟨locks, .releaseBuffer 2⟩).1 = .error (.invalidBuffer 2)) ∧
    Rig.busy.leaks = [.neverReleased 3 0x2000 5] ∧
    ∃ context, Outstanding Rig.busy.dealt 3 context 0x2000 5 := by
  have created : Rig.busy.created = [1, 2, 3] := by rfl
  have released : Rig.busy.dealt[4]? = some (.releaseBuffer 2, .ok 2) := by rfl
  have leaks : Rig.busy.leaks = [.neverReleased 3 0x2000 5] := by rfl
  obtain ⟨-, -, -, -, -, -, -, young⟩ := tables_account [8] true .always Trial.busy
  obtain ⟨-, -, -, later, left⟩ := young (by show Rig.busy.created.length < _; rw [created]; decide)
  refine ⟨by rfl, created, fun locks => later 2 2 locks (List.mem_of_getElem? released), leaks, ?_⟩
  obtain ⟨h, context, address, length, same, outstanding⟩ :=
    (left (.neverReleased 3 0x2000 5)).1 (by show _ ∈ Rig.busy.leaks; simp [leaks])
  obtain ⟨rfl, rfl, rfl⟩ := Notice.neverReleased.inj same
  exact ⟨context, outstanding⟩

end DispatchServer
