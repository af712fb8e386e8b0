import DispatchServer.Proofs.Submissions
import DispatchServer.Proofs.Tables

/-! How a device set comes about. Whatever the accelerator answers, it is asked for one context over
all devices and then for one queue after the other, in the order of the devices and up to the first
refusal. The tables of the host answer with one new handle after the other. -/
namespace DispatchServer

/-- Something that answers calls as it likes and keeps a list of them. -/
structure Accelerator (σ : Type) where
  call : Call → σ → Except AcceleratorError Handle × σ
  log : Notice → σ → σ
  dealt : σ → List Deal
  dealt_call : ∀ c state, dealt (call c state).2 = dealt state ++ [(c, (call c state).1)]
  dealt_log : ∀ notice state, dealt (log notice state) = dealt state

def Device.deal (context : Handle) (device : Device) (answer : Except AcceleratorError Handle) :
    Deal := (.createQueue context device.id .dispatch, answer)

namespace Accelerator

variable {σ : Type}

def recording (call : Call → σ → Except AcceleratorError Handle × σ) (log : Notice → σ → σ) :
    Accelerator (σ × List Deal) where
  call c state := ((call c state.1).1, (call c state.1).2, state.2 ++ [(c, (call c state.1).1)])
  log notice state := (log notice state.1, state.2)
  dealt := Prod.snd
  dealt_call _ _ := rfl
  dealt_log _ _ := rfl

section

variable (accelerator : Accelerator σ)

def createQueues (context : Handle) : (position : Nat) → List Device → σ →
    Except ServerError (List Handle) × σ
  | _, [], state => (.ok [], state)
  | position, device :: devices, state =>
    match accelerator.call (.createQueue context device.id .dispatch) state with
    | (.error source, state) =>
      (.error (.queueCreation position source),
        accelerator.log (.queueFailed device.name source) state)
    | (.ok queue, state) =>
      match createQueues context (position + 1) devices state with
      | (.error error, state) => (.error error, state)
      | (.ok queues, state) => (.ok (queue :: queues), state)

/-- Any refusal aborts; there is no partial set. -/
def createSet (devices : List Device) (state : σ) : Except ServerError DeviceSet × σ :=
  if devices.isEmpty then (.error .noDevices, accelerator.log .noDevices state)
  else
    match accelerator.call (.createContext (devices.map (·.id))) state with
    | (.error source, state) =>
      (.error (.contextCreation source), accelerator.log (.contextFailed source) state)
    | (.ok context, state) =>
      match accelerator.createQueues context 0 devices state with
      | (.error error, state) => (.error error, state)
      | (.ok queues, state) =>
        (.ok ⟨context, devices, queues⟩,
          accelerator.log (.contextCreated context devices.length) state)

end

end Accelerator

namespace DeviceSet

/-- The requests for the queues of devices, the first of them at a position, and what comes of
them. A refusal names the position of the device that it is about. -/
inductive AsksQueues (context position : Nat) (devices : List Device) :
    List Deal → Except ServerError (List Handle) → Prop
  | complete (queues : List Handle) (each : queues.length = devices.length) :
      AsksQueues context position devices
        (devices.zipWith (Device.deal context) (queues.map .ok)) (.ok queues)
  | refused (queues : List Handle) (source : AcceleratorError)
      (before : queues.length < devices.length) :
      AsksQueues context position devices
        (devices.zipWith (Device.deal context) (queues.map .ok ++ [.error source]))
        (.error (.queueCreation (position + queues.length) source))

/-- The requests for a set over devices, and what comes of them. -/
inductive Asks (devices : List Device) : List Deal → Except ServerError DeviceSet → Prop
  | nothing (none : devices = []) : Asks devices [] (.error .noDevices)
  | context (source : AcceleratorError) (some : devices ≠ []) :
      Asks devices [(.createContext (devices.map (·.id)), .error source)]
        (.error (.contextCreation source))
  | queues {deals : List Deal} {result : Except ServerError (List Handle)} (context : Handle)
      (some : devices ≠ []) (asks : AsksQueues context 0 devices deals result) :
      Asks devices ((.createContext (devices.map (·.id)), .ok context) :: deals)
        (result.map (⟨context, devices, ·⟩))

variable {context position : Nat} {devices : List Device} {deals : List Deal}

theorem AsksQueues.cons {result : Except ServerError (List Handle)}
    (asks : AsksQueues context (position + 1) devices deals result) (device : Device)
    (queue : Handle) :
    AsksQueues context position (device :: devices) (device.deal context (.ok queue) :: deals)
      (result.map (queue :: ·)) := by
  cases asks with
  | complete queues each => exact .complete (queue :: queues) (congrArg Nat.succ each)
  | refused queues source before =>
    rw [Except.map, Nat.succ_add_eq_add_succ]
    exact .refused (queue :: queues) source (Nat.succ_lt_succ before)

/-- A set has a device and its queue at each position, and nothing behind them. -/
theorem Asks.present {set : DeviceSet} {result : Except ServerError DeviceSet}
    (asks : Asks devices deals result) (created : result = .ok set) :
    (∀ (i : Nat) (inside : i < devices.length), ∃ queue,
      set.device? i = some devices[i] ∧ set.queue? i = some queue) ∧
    ∀ i, devices.length ≤ i → set.device? i = none ∧ set.queue? i = none := by
  cases asks with
  | nothing => cases created
  | context => cases created
  | queues context some asks =>
    cases asks with
    | refused => cases created
    | complete queues each =>
      cases created
      refine ⟨fun i inside => ?_, fun i outside => ?_⟩
      · have here : i < queues.length := each ▸ inside
        exact ⟨queues[i], List.getElem?_eq_getElem inside, List.getElem?_eq_getElem here⟩
      · exact ⟨List.getElem?_eq_none outside, List.getElem?_eq_none (each ▸ outside)⟩

end DeviceSet

namespace Accelerator

variable {σ : Type} (accelerator : Accelerator σ)

theorem asks_createQueues (context position : Nat) (devices : List Device) (state : σ) :
    ∃ deals result after,
      accelerator.createQueues context position devices state = (result, after) ∧
      accelerator.dealt after = accelerator.dealt state ++ deals ∧
      DeviceSet.AsksQueues context position devices deals result := by
  induction devices generalizing position state with
  | nil => exact ⟨[], .ok [], state, rfl, (List.append_nil _).symm, .complete [] rfl⟩
  | cons device devices ih =>
    have dealt := accelerator.dealt_call (.createQueue context device.id .dispatch) state
    unfold createQueues
    cases asked : accelerator.call (.createQueue context device.id .dispatch) state with
    | mk answer mid =>
      rw [asked] at dealt
      cases answer with
      | error source =>
        refine ⟨_, _, _, rfl, ?_, .refused [] source (Nat.succ_pos _)⟩
        rw [accelerator.dealt_log, dealt]
        simp [Device.deal]
      | ok queue =>
        obtain ⟨deals, result, after, created, later, asks⟩ := ih (position + 1) mid
        refine ⟨_, _, after, ?_, ?_, asks.cons device queue⟩
        · dsimp only
          rw [created]
          cases result <;> rfl
        · rw [later, dealt, List.append_assoc]
          rfl

theorem asks_createSet (devices : List Device) (state : σ) : ∃ deals result after,
    accelerator.createSet devices state = (result, after) ∧
    accelerator.dealt after = accelerator.dealt state ++ deals ∧
    DeviceSet.Asks devices deals result := by
  unfold createSet
  split
  · rename_i none
    refine ⟨[], _, _, rfl, ?_, .nothing (List.isEmpty_iff.1 none)⟩
    rw [accelerator.dealt_log, List.append_nil]
  · rename_i some
    have some : devices ≠ [] := fun none => some (List.isEmpty_iff.2 none)
    have dealt := accelerator.dealt_call (.createContext (devices.map (·.id))) state
    cases asked : accelerator.call (.createContext (devices.map (·.id))) state with
    | mk answer mid =>
      rw [asked] at dealt
      cases answer with
      | error source =>
        refine ⟨_, _, _, rfl, ?_, .context source some⟩
        rw [accelerator.dealt_log, dealt]
      | ok context =>
        obtain ⟨deals, result, after, created, later, asks⟩ :=
          accelerator.asks_createQueues context 0 devices mid
        rw [dealt, List.append_assoc] at later
        dsimp only
        rw [created]
        cases result with
        | error error => exact ⟨_, _, _, rfl, later, .queues context some asks⟩
        | ok queues =>
          exact ⟨_, _, _, rfl, (accelerator.dealt_log _ _).trans later,
            .queues context some asks⟩

end Accelerator

namespace Rig

def accelerator : Accelerator Rig where
  call c rig := rig.call c
  log notice rig := rig.log notice
  dealt := dealt
  dealt_call c rig := rig.dealt_attempt ⟨rig.locks, c⟩
  dealt_log notice rig := by
    rw [log, dealt_record]
    exact List.append_nil _

@[simp] theorem accelerator_call (c : Call) (rig : Rig) : accelerator.call c rig = rig.call c := rfl

theorem accelerator_createQueues (context position : Nat) (devices : List Device) (rig : Rig) :
    accelerator.createQueues context position devices rig =
      DeviceSet.createQueues context position devices rig := by
  induction devices generalizing position rig with
  | nil => rfl
  | cons device devices ih =>
    unfold Accelerator.createQueues DeviceSet.createQueues
    rw [accelerator_call]
    cases rig.call (.createQueue context device.id .dispatch) with
    | mk answer mid =>
      cases answer with
      | error source => rfl
      | ok queue =>
        dsimp only
        rw [ih]
        cases DeviceSet.createQueues context (position + 1) devices mid with
        | mk result after => cases result <;> rfl

theorem accelerator_createSet (devices : List Device) (rig : Rig) :
    accelerator.createSet devices rig = DeviceSet.create devices rig := by
  unfold Accelerator.createSet DeviceSet.create
  rw [accelerator_call]
  split
  · rfl
  · cases rig.call (.createContext (devices.map (·.id))) with
    | mk answer mid =>
      cases answer with
      | error source => rfl
      | ok context =>
        dsimp only
        rw [accelerator_createQueues]
        cases DeviceSet.createQueues context 0 devices mid with
        | mk result after => cases result <;> rfl

variable {rig rig' : Rig} {devices : List Device}

theorem handles_createQueues {context position : Nat} {queues : List Handle}
    (h : DeviceSet.createQueues context position devices rig = (.ok queues, rig')) :
    queues = (List.range devices.length).map rig.host.upcoming := by
  induction devices generalizing position rig queues with
  | nil =>
    cases h
    rfl
  | cons device devices ih =>
    obtain ⟨mid, later, -, host, created, rfl⟩ := createQueues_cases h
    rw [ih created, Host.map_upcoming (by rw [host]), List.length_cons]

theorem handles_create {set : DeviceSet} (h : DeviceSet.create devices rig = (.ok set, rig')) :
    set.context :: set.queues = (List.range (devices.length + 1)).map rig.host.upcoming := by
  obtain ⟨mid, last, queues, -, host, created, rfl, -⟩ := create_cases h
  rw [handles_createQueues created, Host.map_upcoming (by rw [host])]

end Rig

/-- Whatever the accelerator answers: it is asked for nothing without a device, else for one context
over all devices and then for their queues in turn, up to the first refusal, which is the result. A
set comes of it only if nothing is refused, and it has one queue for each device. The host's tables
have a new handle for the context and each of the queues, and each queue is bound to the device at
its position, out of order and with profiling. -/
theorem device_set_created (devices : List Device) :
    (∀ {σ : Type} (accelerator : Accelerator σ) (state : σ), ∃ deals result after,
      accelerator.createSet devices state = (result, after) ∧
      accelerator.dealt after = accelerator.dealt state ++ deals ∧
      DeviceSet.Asks devices deals result ∧
      ∀ set, result = .ok set →
        (∀ (i : Nat) (inside : i < devices.length), ∃ queue,
          set.device? i = some devices[i] ∧ set.queue? i = some queue) ∧
        ∀ i, devices.length ≤ i → set.device? i = none ∧ set.queue? i = none) ∧
    (∀ rig, Rig.accelerator.createSet devices rig = DeviceSet.create devices rig) ∧
    ∀ (rig rig' : Rig) (set : DeviceSet), devices.length < 2 ^ 64 →
      DeviceSet.create devices rig = (.ok set, rig') →
        (set.context :: set.queues).Nodup ∧
        ∀ i device, devices[i]? = some device → ∃ queue, set.queue? i = some queue ∧
          rig'.host.queue? queue = some ⟨set.context, device.id, ⟨true, true⟩⟩ := by
  refine ⟨fun accelerator state => ?_, Rig.accelerator_createSet devices,
    fun rig rig' set few created => ⟨?_, fun i device here => ?_⟩⟩
  · obtain ⟨deals, result, after, created, dealt, asks⟩ := accelerator.asks_createSet devices state
    exact ⟨deals, result, after, created, dealt, asks, fun set complete => asks.present complete⟩
  · rw [Rig.handles_create created]
    exact rig.host.nodup_upcoming few
  · have bound := Rig.binds_create few created
    obtain ⟨inside, rfl⟩ := List.getElem?_eq_some_iff.1 here
    have there : i < set.queues.length := bound.length_eq ▸ inside
    exact ⟨set.queues[i], List.getElem?_eq_getElem there, bound.get inside there⟩

/-- The devices stand in another order than discovery found them in, and one of them is there
twice. -/
theorem device_set_created_of_repeated :
    ∃ (set : DeviceSet) (rig' : Rig),
      DeviceSet.create [⟨2, 1, "b", 20⟩, ⟨1, 0, "a", 10⟩, ⟨2, 1, "b", 20⟩]
        (.ofHost (.ofSizes [10, 20] false) .always .none) = (.ok set, rig') ∧
      (set.context :: set.queues).Nodup ∧ ∃ first second third,
        set.queues = [first, second, third] ∧
        rig'.host.queue? first = some ⟨set.context, 2, ⟨true, true⟩⟩ ∧
        rig'.host.queue? second = some ⟨set.context, 1, ⟨true, true⟩⟩ ∧
        rig'.host.queue? third = some ⟨set.context, 2, ⟨true, true⟩⟩ := by
  let devices : List Device := [⟨2, 1, "b", 20⟩, ⟨1, 0, "a", 10⟩, ⟨2, 1, "b", 20⟩]
  obtain ⟨-, -, onHost⟩ := device_set_created devices
  have created : DeviceSet.create devices (.ofHost (.ofSizes [10, 20] false) .always .none) =
      (.ok ⟨1, devices, [2, 3, 4]⟩,
        (DeviceSet.create devices (.ofHost (.ofSizes [10, 20] false) .always .none)).2) := by
    rfl
  obtain ⟨distinct, bound⟩ := onHost _ _ _ (by decide) created
  obtain ⟨_, ⟨⟩, first⟩ := bound 0 _ rfl
  obtain ⟨_, ⟨⟩, second⟩ := bound 1 _ rfl
  obtain ⟨_, ⟨⟩, third⟩ := bound 2 _ rfl
  exact ⟨_, _, created, distinct, 2, 3, 4, rfl, first, second, third⟩

/-- The second queue is refused, and nobody asks for the third. -/
example : (Accelerator.recording (fun _ n => (if n = 2 then .error (.invalidContext 0) else .ok n,
      n + 1)) fun _ n => n).createSet
    [⟨2, 1, "b", 20⟩, ⟨1, 0, "a", 10⟩, ⟨2, 1, "b", 20⟩] (0, []) =
      (.error (.queueCreation 1 (.invalidContext 0)), 3,
        [(.createContext [2, 1, 2], .ok 0), (.createQueue 0 2 .dispatch, .ok 1),
          (.createQueue 0 1 .dispatch, .error (.invalidContext 0))]) := rfl

end DispatchServer
