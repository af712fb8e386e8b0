import DispatchServer.Message.Work

/-! The channel between producers and server threads: first in, first out. What came last waits in
reverse order until all that came earlier is gone, so that no operation looks at more than it moves.
-/
namespace DispatchServer

def totalWork : List Message → Nat
  | [] => 0
  | m :: messages => m.work + totalWork messages

@[simp] theorem totalWork_append (a b : List Message) :
    totalWork (a ++ b) = totalWork a + totalWork b := by
  induction a with
  | nil => simp [totalWork]
  | cons m a ih => simp [totalWork, ih, Nat.add_assoc]

@[simp] theorem totalWork_reverse (a : List Message) : totalWork a.reverse = totalWork a := by
  induction a with
  | nil => rfl
  | cons m a ih => simp [totalWork, ih, Nat.add_comm]

/-- The oldest message is the first one in front, the latest the first one at the back. The work is
enough steps for all of them. -/
structure Channel where
  front : List Message
  back : List Message
  length : Nat
  work : Nat
  length_eq : length = front.length + back.length
  work_eq : work = totalWork front + totalWork back

namespace Channel

def empty : Channel := ⟨[], [], 0, 0, rfl, rfl⟩

/-- The messages in the order in which they leave. -/
def toList (channel : Channel) : List Message := channel.front ++ channel.back.reverse

def isEmpty (channel : Channel) : Bool := channel.length = 0

def push (channel : Channel) (m : Message) : Channel where
  front := channel.front
  back := m :: channel.back
  length := channel.length + 1
  work := channel.work + m.work
  length_eq := by simp [channel.length_eq, Nat.add_assoc]
  work_eq := by simp [totalWork, channel.work_eq, Nat.add_assoc, Nat.add_comm]

/-- The oldest message and what is left without it. -/
def pop? (channel : Channel) : Option (Message × Channel) :=
  match front_eq : channel.front, back_eq : channel.back.reverse with
  | m :: front, _ => some (m, {
      front := front
      back := channel.back
      length := channel.length - 1
      work := channel.work - m.work
      length_eq := by simp [channel.length_eq, front_eq, Nat.add_right_comm]
      work_eq := by simp [channel.work_eq, front_eq, totalWork, Nat.add_assoc] })
  | [], m :: front => some (m, {
      front := front
      back := []
      length := channel.length - 1
      work := channel.work - m.work
      length_eq := by
        have := congrArg List.length back_eq
        simp at this
        simp [channel.length_eq, front_eq, this]
      work_eq := by
        have := congrArg totalWork back_eq
        simp [totalWork] at this
        simp [channel.work_eq, front_eq, totalWork, this] })
  | [], [] => none

@[simp] theorem toList_empty : empty.toList = [] := rfl

@[simp] theorem toList_push (channel : Channel) (m : Message) :
    (channel.push m).toList = channel.toList ++ [m] := by
  simp [toList, push]

theorem length_toList (channel : Channel) : channel.toList.length = channel.length := by
  simp [toList, channel.length_eq]

theorem toList_of_pop? {channel rest : Channel} {m : Message}
    (h : channel.pop? = some (m, rest)) : channel.toList = m :: rest.toList := by
  unfold pop? at h
  split at h <;> simp_all [toList] <;> obtain ⟨rfl, rfl⟩ := h <;> simp

theorem pop?_eq_none_iff (channel : Channel) : channel.pop? = none ↔ channel.toList = [] := by
  unfold pop?
  split <;> simp_all [toList]

end Channel

end DispatchServer
