import ServiceBroker.Proofs.Replication.OneLoop.BusSteps

/-!
# Settling when a signal is raised

A loop takes no message once the signal of its replica is raised: when it goes on it stops. So no
loop of the replica is left when all loops have settled.

- `ConsumeLoop.isRunning_run_of_raised`: a loop that goes on stops;
- `ReplicaGroup.replica_ne_settle`: no loop of the replica is left.
-/

namespace ServiceBroker

namespace ConsumeLoop

variable {now : Nat} {signal : Signal} {l : ConsumeLoop}

/-- A loop that runs and finds its signal raised stops. -/
private theorem step_of_raised (hraised : signal.raised) (hheeds : l.Heeds signal)
    (hrunning : l.isRunning) (c : Context) : l.step now signal c = some (l.stop c) := by
  have hseen : signal.version ≠ l.seen := fun heq => by
    rw [hheeds.raised heq.symm] at hraised
    cases hraised
  unfold step
  cases hstate : l.state with
  | listening s => exact if_pos hraised
  | waiting wake => exact (if_pos hseen).trans (if_pos hraised)
  | stopped =>
    rw [isRunning, hstate] at hrunning
    cases hrunning

theorem run_of_stopped (hstopped : l.isRunning = false) (steps : Nat) (c : Context) :
    l.run now signal steps c = (l, c) := by
  cases steps with
  | zero => rfl
  | succ steps =>
    have hstate : l.state = .stopped := by simpa [isRunning] using hstopped
    rw [run, step_stopped hstate]

theorem isRunning_run_of_raised (hraised : signal.raised) (hheeds : l.Heeds signal) {steps : Nat}
    (hsteps : 0 < steps) (c : Context) : (l.run now signal steps c).1.isRunning = false := by
  cases hrunning : l.isRunning with
  | false => rw [run_of_stopped hrunning, hrunning]
  | true =>
    obtain ⟨n, rfl⟩ := Nat.exists_eq_succ_of_ne_zero (Nat.ne_of_gt hsteps)
    have hstopped : (l.stop c).1.isRunning = false := rfl
    rw [run, step_of_raised hraised hheeds hrunning]
    exact (congrArg (·.1.isRunning) (run_of_stopped hstopped n (l.stop c).2)).trans hstopped

end ConsumeLoop

namespace ReplicaGroup

variable {g : ReplicaGroup} {i : Nat}

private theorem replica_runLoops (todo : List ConsumeLoop) (g : ReplicaGroup) :
    (runLoops todo g).1.map (·.replica) = todo.map (·.replica) := by
  induction todo generalizing g with
  | nil => rfl
  | cons l todo ih =>
    rw [runLoops_cons, List.map_cons, List.map_cons, ih, replica_ran]

/-- Every loop of a replica stops whose signal is raised. -/
private theorem isRunning_runLoops {todo : List ConsumeLoop} (hraised : (g.member i).signal.raised)
    (hheeds : ∀ l ∈ todo, l.replica = i → l.Heeds (g.member i).signal) :
    ∀ l ∈ (runLoops todo g).1, l.replica = i → l.isRunning = false := by
  induction todo generalizing g with
  | nil => simp [runLoops]
  | cons l todo ih =>
    rw [runLoops_cons]
    -- that one loop runs does not change whether the others heed the signal
    have hsignal := g.member_signal_setContext l.replica i (g.ran l).2
    have hrest := ih (hsignal ▸ hraised) fun l₁ h₁ hi =>
      hsignal ▸ hheeds l₁ (List.mem_cons_of_mem _ h₁) hi
    intro l₁ h₁ hi
    obtain rfl | h₁ := List.mem_cons.mp h₁
    · rw [replica_ran] at hi
      have hl := hheeds l (List.mem_cons_self ..) hi
      rw [← hi] at hl hraised
      refine ConsumeLoop.isRunning_run_of_raised hraised hl ?_ _
      unfold ConsumeLoop.stepBound
      omega
    · exact hrest l₁ h₁ hi

/-- A replica without loops has none later. -/
private theorem replica_ne_settleRounds (rounds : Nat) (h : ∀ l ∈ g.loops, l.replica ≠ i) :
    ∀ l ∈ (settleRounds rounds g).loops, l.replica ≠ i := by
  induction rounds generalizing g with
  | zero => exact h
  | succ rounds ih =>
    refine ih fun l hl => ?_
    have hreplica := List.mem_map_of_mem (f := (·.replica)) (List.mem_of_mem_filter hl)
    rw [replica_runLoops] at hreplica
    obtain ⟨l', hl', heq⟩ := List.mem_map.mp hreplica
    rw [← heq]
    exact h l' ((inOrder_perm g.loops).mem_iff.mp hl')

/-- After settling a replica has no loop whose signal is raised. -/
theorem replica_ne_settle (hraised : (g.member i).signal.raised)
    (hheeds : ∀ l ∈ g.loops, l.replica = i → l.Heeds (g.member i).signal) :
    ∀ l ∈ g.settle.loops, l.replica ≠ i := by
  have hstopped : ∀ l ∈ (runLoops (inOrder g.loops) g).1, l.replica = i → l.isRunning = false :=
    isRunning_runLoops hraised fun l hl => hheeds l ((inOrder_perm g.loops).mem_iff.mp hl)
  refine replica_ne_settleRounds g.loops.length fun l hl hi => ?_
  obtain ⟨hl, hrunning⟩ := List.mem_filter.mp hl
  rw [hstopped l hl hi] at hrunning
  cases hrunning

end ReplicaGroup

end ServiceBroker
