import Overseer.Proofs.Manager.Move

/-!
# The tasks of the manager

The dispatcher, the producer and the admission begin to work when the manager is started, and none
of them ends before it is asked to; what has ended does not come back.
-/

namespace Overseer.Manager

structure Queue.Frame (q q' : Queue) : Prop where
  started : q'.started = q.started
  capacity : q'.capacity = q.capacity
  dispatching : q'.dispatching = true → q.dispatching = true
  producing : q'.producing = true → q.producing = true
  cancelled : q.cancelled = true → q'.cancelled = true

namespace Queue

variable {q next : Queue}

theorem Frame.refl (q : Queue) : q.Frame q := ⟨rfl, rfl, id, id, id⟩

theorem frame_signal (q : Queue) (n : String) : q.Frame (q.signal n) := by
  unfold signal
  split <;> exact ⟨rfl, rfl, id, id, id⟩

theorem frame_notify (q : Queue) (n : String) : q.Frame (q.notify n) := by
  unfold notify
  split
  · exact .refl _
  · exact q.frame_signal n

theorem frame_release (q : Queue) (c : Command) (origin : Runner.Origin) :
    q.Frame (if origin = .released then q.notify c.queue else q) := by
  split
  · exact q.frame_notify _
  · exact .refl _

theorem frame_push (q : Queue) (c : Command) : q.Frame (q.push c).1 := by
  unfold push
  split
  · exact .refl _
  · split <;> exact ⟨rfl, rfl, id, id, id⟩

theorem frame_dispatch (work : q.dispatch? = some next) : q.Frame next := by
  unfold dispatch? at work
  split at work <;> cases work
  unfold enqueue
  split
  · exact ⟨rfl, rfl, id, id, id⟩
  · obtain ⟨started, capacity, dispatching, producing, cancelled⟩ := frame_signal _ _
    exact ⟨started, capacity, dispatching, producing, cancelled⟩

theorem frame_produce (work : q.produce? = some next) : q.Frame next := by
  unfold produce? at work
  split at work <;> cases work
  unfold pop
  split <;> exact ⟨rfl, rfl, id, id, id⟩

theorem frame_deliver (work : q.deliver? = some next) : q.Frame next := by
  unfold deliver? at work
  split at work
  · split at work
    · cases work
      exact ⟨rfl, rfl, id, nofun, id⟩
    · split at work <;> cases work
      exact ⟨rfl, rfl, id, id, id⟩
  · cases work

theorem frame_take {c : Command} (work : q.take? = some (c, next)) : q.Frame next := by
  unfold take? at work
  split at work <;> cases work
  exact ⟨rfl, rfl, id, id, id⟩

theorem frame_stopDispatcher (work : q.stopDispatcher? = some next) : q.Frame next := by
  unfold stopDispatcher? at work
  split at work <;> cases work
  exact ⟨rfl, rfl, nofun, id, id⟩

theorem frame_stopProducer (work : q.stopProducer? = some next) : q.Frame next := by
  unfold stopProducer? at work
  split at work <;> cases work
  exact ⟨rfl, rfl, id, nofun, id⟩

end Queue

namespace System

structure Wired (s : System) : Prop where
  capacity : s.queue.capacity = releaseCapacity
  started : s.queue.started = s.started
  working : s.queue.dispatching = true ∨ s.queue.producing = true → s.started = true
  off_iff : s.admission = .off ↔ s.started = false
  stopped : s.admission = .stopped → s.cancelled = true

variable {config : Config} {dawn : Int} {s next : System} {act : Action}

theorem Wired.congr (wired : s.Wired) (frame : s.queue.Frame next.queue)
    (started : next.started = s.started) (off : next.admission = .off ↔ s.admission = .off)
    (stopped : next.admission = .stopped → s.admission = .stopped ∨ s.cancelled = true) :
    next.Wired where
  capacity := frame.capacity.trans wired.capacity
  started := by rw [frame.started, wired.started, started]
  working busy := by
    rw [started]
    exact wired.working (busy.imp frame.dispatching frame.producing)
  off_iff := by rw [off, wired.off_iff, started]
  stopped ended := frame.cancelled ((stopped ended).elim wired.stopped id)

theorem Move.wired (move : Move s act next) (wired : s.Wired) : next.Wired := by
  cases move with
  | start fresh =>
      have resting : s.queue.started = false := wired.started.trans fresh
      have start : s.queue.start.1 =
          { s.queue with started := true, dispatching := true, producing := true } := by
        simp [Queue.start, resting]
      exact ⟨start ▸ wired.capacity, by simp [start], fun _ => rfl, by simp, by simp⟩
  | cancel => exact wired.congr ⟨rfl, rfl, id, id, fun _ => rfl⟩ rfl Iff.rfl .inl
  | enterQueue => exact wired.congr (s.queue.frame_push _) rfl Iff.rfl .inl
  | dispatch work => exact wired.congr (Queue.frame_dispatch work) rfl Iff.rfl .inl
  | produce work => exact wired.congr (Queue.frame_produce work) rfl Iff.rfl .inl
  | deliver work => exact wired.congr (Queue.frame_deliver work) rfl Iff.rfl .inl
  | stopDispatcher work => exact wired.congr (Queue.frame_stopDispatcher work) rfl Iff.rfl .inl
  | stopProducer work => exact wired.congr (Queue.frame_stopProducer work) rfl Iff.rfl .inl
  | release => exact wired.congr (s.queue.frame_release _ _) rfl Iff.rfl .inl
  | awaken =>
      refine wired.congr (.refl _) rfl ?_ fun ended => .inl ?_
      · show s.admission.awoken = .off ↔ _
        cases s.admission <;> simp [Admission.awoken]
      · revert ended
        show s.admission.awoken = .stopped → _
        cases s.admission <;> simp [Admission.awoken]
  | arm before | countRoom before | countFull before | wake before | takeDirect before
  | enroll before =>
      exact wired.congr (.refl _) rfl (by simp [before]) (by simp)
  | takeReleased before work =>
      exact wired.congr (Queue.frame_take work) rfl (by simp [before]) (by simp)
  | reject before => exact wired.congr (s.queue.frame_release _ _) rfl (by simp [before]) (by simp)
  | stopAdmission cancelled rests =>
      refine wired.congr ⟨rfl, rfl, id, id, id⟩ rfl ?_ fun _ => .inr cancelled
      have going : s.admission ≠ .off := fun off => by simp [admissionRests, off] at rests
      simp [System.stopAdmission, going]
  | _ => exact wired.congr (.refl _) rfl Iff.rfl .inl

theorem wired (reach : Reachable config dawn s) : s.Wired := by
  induction reach with
  | new =>
      exact ⟨rfl, rfl, by simp [System.new, Queue.new], by simp [System.new],
        by simp [System.new]⟩
  | next _ step ih => exact (move_of_step step).wired ih

end System

end Overseer.Manager
