import DispatchServer.Proofs.Calls

/-! What the queue promises, whoever uses it and in whatever order their steps come. -/
namespace DispatchServer

/-- Every message is in one place, what was received is what was sent first, an enqueue tells truly
whether it sent its message, and closing leaves an empty channel that takes nothing more. -/
theorem queue_accounts {rig : Rig} {devices : DeviceSet} {robin : RoundRobin} {sc : Scene}
    (run : Scene.Reaches .queue (.opening rig devices robin) sc) :
    (∀ k < sc.traffic.ledger.next,
      ∃ place, ∀ other, sc.occurs k other = if other = place then 1 else 0) ∧
    sc.traffic.received ++ sc.traffic.channel.map Message.ticket = sc.traffic.sent ∧
    (∀ t m last answer, Scene.Returns .queue t (.enqueue m) sc last answer →
      (answer = .accepted ∧ sc.world.shared.closing = false ∧
        last.traffic.sent.count m.ticket = sc.traffic.sent.count m.ticket + 1 ∧
        last.traffic.failures m.ticket = []) ∨
      (answer = .refused ∧ last.traffic.sent.count m.ticket = sc.traffic.sent.count m.ticket ∧
        last.traffic.failures m.ticket = [.queueClosed])) ∧
    (Scene.Calmly .queue (.opening rig devices robin) sc → sc.Gate) := by
  have opening := Scene.sound_opening rig devices robin
  have sound := run.sound opening
  refine ⟨fun k built => sound.placed built, sound.custody.order, ?_, fun calmly => ?_⟩
  · intro t m last answer returns
    exact sound.enqueue_returns returns
  · exact Scene.gate_of_calmly calmly opening (Scene.gate_opening rig devices robin)

/-- Two messages are enqueued, the first of them is dequeued, and the queue is closed. The enqueue
of a third one comes too late. -/
theorem queue_accounts_of_late :
    let opening := Scene.opening (.ofHost (.ofSizes [] false) .always .none) ⟨0, [], []⟩ ⟨0, 1⟩
    ∃ sc, Scene.Calmly .queue opening sc ∧ sc.Gate ∧
      sc.world.shared.closing = true ∧ sc.traffic.ledger.next = 3 ∧
      (∀ k < 3, ∃ place, ∀ other, sc.occurs k other = if other = place then 1 else 0) ∧
      sc.traffic.received = [0, 1] ∧
      sc.traffic.received ++ sc.traffic.channel.map Message.ticket = sc.traffic.sent ∧
      (∃ last, Scene.Returns .queue 0 (.enqueue ⟨2, default⟩) sc last .refused) ∧
      ∀ last answer, Scene.Returns .queue 0 (.enqueue ⟨2, default⟩) sc last answer →
        answer = .refused ∧ last.traffic.failures 2 = [.queueClosed] := by
  intro opening
  let quiet {w : World} {hands : List Message} := @Scene.calm_of_quiet w hands
  have built : Scene.Calmly .queue opening ⟨_, [⟨2, default⟩, ⟨1, default⟩, ⟨0, default⟩]⟩ :=
    ((Relation.ReflTransGen.single ⟨.build default trivial, quiet (by decide)⟩).tail
      ⟨.build default trivial, quiet (by decide)⟩).tail ⟨.build default trivial, quiet (by decide)⟩
  have sent := (built.tail ⟨@Scene.Move.use .queue _ [⟨2, default⟩, ⟨1, default⟩] [] 0 _ .enqueue
    trivial trivial ⟨_, rfl, rfl, rfl⟩, quiet (by decide)⟩).trans
    (Scene.calmly_advanceFor (t := 0) (n := 2) (by decide))
  have sent := (sent.tail ⟨@Scene.Move.use .queue _ [⟨2, default⟩] [] 0 _ .enqueue
    trivial trivial ⟨_, rfl, rfl, rfl⟩, quiet (by decide)⟩).trans
    (Scene.calmly_advanceFor (t := 0) (n := 2) (by decide))
  have received := (sent.tail ⟨.call 0 .dequeue trivial trivial ⟨_, rfl, rfl, rfl⟩,
    quiet (by decide)⟩).trans (Scene.calmly_advanceFor (t := 0) (n := 2) (by decide))
  have taken := received.tail ⟨.take 0 ⟨0, default⟩ ⟨_, rfl, rfl, rfl⟩, quiet (by decide)⟩
  have closed := (taken.tail ⟨.call 0 .close trivial trivial ⟨_, rfl, rfl, rfl⟩,
    quiet (by decide)⟩).trans (Scene.calmly_advanceFor (t := 0) (n := 7) (by decide))
  have late := closed.tail ⟨@Scene.Move.use .queue _ [⟨0, default⟩] [] 0 ⟨2, default⟩ .enqueue
    trivial trivial ⟨_, rfl, rfl, rfl⟩, quiet (by decide)⟩
  obtain ⟨placed, order, tells, gate⟩ := queue_accounts (Scene.reaches_of_calmly late)
  refine ⟨_, late, gate late, rfl, rfl, placed, rfl, order, ⟨_, _, _, [], rfl, _, _,
    Scene.within_of_steps _ (World.reaches_advanceFor _ 0 4) ⟨_, rfl, List.cons_ne_nil _ _⟩,
    .step 0 rfl, rfl⟩, fun last answer returns => ?_⟩
  rcases tells 0 _ last answer returns with ⟨-, ⟨⟩, -⟩ | ⟨refused, -, failed⟩
  exact ⟨refused, failed⟩

end DispatchServer
