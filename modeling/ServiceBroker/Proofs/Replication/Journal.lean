import Mathlib.Data.List.Perm.Subperm
import ServiceBroker.Proofs.Replication.LoopSteps
import ServiceBroker.Proofs.Replication.Run
import ServiceBroker.Proofs.Replication.Synchronizer

/-!
# What consume loops receive

Beside a group of replicas a journal notes the messages that consume loops receive, each with the
replica that the loop works for. However the steps of the loops are interleaved, a replica is what
its synchronizer makes of the messages received for it, each handled once.

## Main definitions

* `ReplicaGroup.Advances`: one step of one loop of a group, and what is received in it;
* `Journal.Works`: loops go on by any number of steps, in any order;
* `Journal.Handled`: synchronizers have handled what was received.

## Main results

* `Journal.exists_works_settle`: settling a group is such a series of steps;
* `Journal.Works.handled`: in such steps every message received is handled, once.
-/

namespace ServiceBroker

/-! ## One step of a group -/

namespace ReplicaGroup

variable {g g' : ReplicaGroup} {i : Nat}

/-- What a loop of a replica works on. -/
def context (g : ReplicaGroup) (i : Nat) : ConsumeLoop.Context :=
  ⟨(g.member i).sync, g.transport i, g.metrics⟩

/-- The message that the loop at a place takes in its next step, with the replica it works for. -/
def takes? (g : ReplicaGroup) (n : Nat) : Option (Nat × BusMessage) :=
  g.loops[n]?.bind fun l =>
    (l.takes? (g.member l.replica).signal (g.transport l.replica)).map (l.replica, ·)

/-- One loop of a group goes on by one step, or none does; with the message that is received. -/
inductive Advances (g : ReplicaGroup) : Option (Nat × BusMessage) → ReplicaGroup → Prop
  | wait : Advances g none g
  | loop {before after : List ConsumeLoop} {l l' : ConsumeLoop} {taken : Option BusMessage}
      {c : ConsumeLoop.Context} :
      g.loops = before ++ l :: after →
      ConsumeLoop.Does g.now (g.member l.replica).signal l (g.context l.replica) taken l' c →
      Advances g (taken.map (l.replica, ·))
        { g.setContext l.replica c with loops := before ++ l' :: after }

/-- Loops go on by what a loop can do. -/
theorem advances_stepLoop (g : ReplicaGroup) (n : Nat) :
    g.Advances (g.takes? n) (g.stepLoop n) := by
  unfold stepLoop takes?
  split
  next hl =>
    rw [hl]
    exact .wait
  next l hl =>
    dsimp only
    rw [hl, Option.bind_some]
    split
    next hwaits =>
      rw [ConsumeLoop.takes?_eq_none hwaits]
      exact .wait
    next l' c hstep =>
      obtain ⟨hn, rfl⟩ := List.getElem?_eq_some_iff.mp hl
      -- the loop that goes on stays at its place in the list
      rw [List.set_eq_take_append_cons_drop, if_pos hn]
      refine .loop ?_ (ConsumeLoop.does_of_step hstep)
      rw [List.getElem_cons_drop, List.take_append_drop]

/-! ### Putting a context back -/

/-- Every replica of a group is on one of its transports, and every loop works for one of its
replicas. -/
structure Placed (g : ReplicaGroup) : Prop where
  replica_lt : ∀ l ∈ g.loops, l.replica < g.members.size
  transport_lt : ∀ i, i < g.members.size → (g.member i).transport < g.transports.size

theorem member_transport_setContext (g : ReplicaGroup) (i j : Nat) (c : ConsumeLoop.Context) :
    ((g.setContext i c).member j).transport = (g.member j).transport :=
  member_setContext_congr (·.transport) g i j c rfl

theorem member_signal_setContext (g : ReplicaGroup) (i j : Nat) (c : ConsumeLoop.Context) :
    ((g.setContext i c).member j).signal = (g.member j).signal :=
  member_setContext_congr (·.signal) g i j c rfl

theorem transport_setContext_self (g : ReplicaGroup) (c : ConsumeLoop.Context)
    (hlt : (g.member i).transport < g.transports.size) :
    (g.setContext i c).transport i = c.transport := by
  rw [transport, member_transport_setContext]
  simp only [setContext, Array.getD_eq_getD_getElem?, Array.getElem?_setIfInBounds_self_of_lt hlt,
    Option.getD_some]

/-- What is put back is what is found. -/
private theorem context_setContext (hi : i < g.members.size)
    (hlt : (g.member i).transport < g.transports.size) (c : ConsumeLoop.Context) :
    (g.setContext i c).context i = c := by
  rw [context, transport_setContext_self g c hlt, member_setContext, if_pos ⟨rfl, hi⟩]
  rfl

private theorem setContext_context (g : ReplicaGroup) (i : Nat) :
    g.setContext i (g.context i) = g :=
  g.setContext_self i

/-- What is put back last stays. -/
private theorem setContext_setContext (hi : i < g.members.size) (c c' : ConsumeLoop.Context) :
    (g.setContext i c).setContext i c' = g.setContext i c' := by
  have hmember := g.member_setContext i i c
  rw [if_pos ⟨rfl, hi⟩] at hmember
  rw [setContext, hmember]
  simp [setContext]

theorem Placed.setContext (h : g.Placed) (i : Nat) (c : ConsumeLoop.Context)
    {loops : List ConsumeLoop} (hloops : ∀ l ∈ loops, l.replica < g.members.size) :
    Placed { g.setContext i c with loops } where
  replica_lt l hl := by
    show l.replica < (g.setContext i c).members.size
    rw [size_members_setContext]
    exact hloops l hl
  transport_lt j hj := by
    show ((g.setContext i c).member j).transport < (g.transports.setIfInBounds _ _).size
    rw [Array.size_setIfInBounds, member_transport_setContext]
    exact h.transport_lt j (g.size_members_setContext i c ▸ hj)

theorem Advances.size_members_eq {received : Option (Nat × BusMessage)}
    (h : g.Advances received g') : g'.members.size = g.members.size := by
  cases h with
  | wait => rfl
  | loop => exact g.size_members_setContext _ _

theorem Advances.signal_eq {received : Option (Nat × BusMessage)} (h : g.Advances received g')
    (i : Nat) : (g'.member i).signal = (g.member i).signal := by
  cases h with
  | wait => rfl
  | loop => exact g.member_signal_setContext _ i _

/-- A replica for which nothing is received stays as it is. -/
theorem Advances.sync_eq {received : Option (Nat × BusMessage)} (h : g.Advances received g')
    (hnone : ∀ m, received ≠ some (i, m)) : (g'.member i).sync = (g.member i).sync := by
  cases h with
  | wait => rfl
  | @loop _ _ l l' taken c _ hdoes =>
    show ((g.setContext l.replica c).member i).sync = _
    rw [member_setContext]
    split
    next hi =>
      obtain ⟨rfl, -⟩ := hi
      show c.sync = _
      -- the loop works for this replica, so that it takes nothing
      rw [hdoes.sync_eq]
      cases taken with
      | none => rfl
      | some m => exact absurd rfl (hnone m)
    next => rfl

/-- Nothing is received for a replica whose signal is raised. -/
theorem Advances.not_received {received : Option (Nat × BusMessage)} (h : g.Advances received g')
    (hraised : (g.member i).signal.raised) (m : BusMessage) : received ≠ some (i, m) := by
  cases h with
  | wait => rintro ⟨⟩
  | @loop _ _ l l' taken c _ hdoes =>
    intro heq
    obtain ⟨m', rfl, hl⟩ := Option.map_eq_some_iff.mp heq
    obtain ⟨rfl, rfl⟩ := Prod.mk.inj hl
    rw [hdoes.not_raised] at hraised
    cases hraised

/-! ### Running a loop -/

private theorem replica_run (now : Nat) (signal : Signal) (steps : Nat) (l : ConsumeLoop)
    (c : ConsumeLoop.Context) : (l.run now signal steps c).1.replica = l.replica := by
  induction steps generalizing l c with
  | zero => rfl
  | succ steps ih =>
    unfold ConsumeLoop.run
    split
    next => rfl
    next l' c' hstep => exact (ih l' c').trans (ConsumeLoop.does_of_step hstep).replica_eq

/-- A loop that has run, with what it leaves behind. -/
def ran (g : ReplicaGroup) (l : ConsumeLoop) : ConsumeLoop × ConsumeLoop.Context :=
  l.run g.now (g.member l.replica).signal (l.stepBound (g.context l.replica))
    (g.context l.replica)

theorem replica_ran (g : ReplicaGroup) (l : ConsumeLoop) : (g.ran l).1.replica = l.replica :=
  replica_run ..

private theorem runLoop_eq (g : ReplicaGroup) (l : ConsumeLoop) :
    g.runLoop l = ((g.ran l).1, g.setContext l.replica (g.ran l).2) := by
  rw [← g.replica_ran l]
  rfl

theorem runLoops_cons (l : ConsumeLoop) (loops : List ConsumeLoop) (g : ReplicaGroup) :
    runLoops (l :: loops) g =
      ((g.ran l).1 :: (runLoops loops (g.setContext l.replica (g.ran l).2)).1,
        (runLoops loops (g.setContext l.replica (g.ran l).2)).2) := by
  rw [runLoops, runLoop_eq]

end ReplicaGroup

/-! ## Journals -/

/-- A group of replicas with what its loops have received: every message with the replica that the
loop worked for, in the order of receipt. -/
structure Journal where
  /-- The group. -/
  group : ReplicaGroup
  /-- What was received. -/
  received : List (Nat × BusMessage) := []

namespace Journal

open ReplicaGroup (Advances Placed)

/-- What was received for one replica. -/
def receivedBy (j : Journal) (i : Nat) : List BusMessage :=
  j.received.filterMap fun (k, m) => if k = i then some m else none

/-- One loop goes on by one step. -/
def stepLoop (j : Journal) (n : Nat) : Journal :=
  ⟨j.group.stepLoop n, j.received ++ (j.group.takes? n).toList⟩

/-- Loops go on by some steps, in any order. Between the steps they are put in the order in which
they go on, and those that have stopped are forgotten. -/
inductive Works (j : Journal) : Journal → Prop
  | refl : Works j j
  | loop {j' : Journal} (n : Nat) : Works j j' → Works j (j'.stepLoop n)
  | order {j' : Journal} : Works j j' → Works j { j' with
      group := { j'.group with loops := ReplicaGroup.inOrder j'.group.loops } }
  | forget {j' : Journal} : Works j j' → Works j { j' with
      group := { j'.group with loops := j'.group.loops.filter (·.isRunning) } }

variable {j j' j'' : Journal}

theorem Works.trans (h : j.Works j') (h' : j'.Works j'') : j.Works j'' := by
  induction h' with
  | refl => exact h
  | loop n _ ih => exact ih.loop n
  | order _ ih => exact ih.order
  | forget _ ih => exact ih.forget

/-- What holds of a group and stays so by the steps of its loops, wherever these stand in the list
and whichever of them are forgotten, holds after loops have gone on. -/
theorem Works.induct {P : Journal → Prop} (h : j.Works j') (hj : P j)
    (hadvance : ∀ (j : Journal) (taken : Option (Nat × BusMessage)) (g : ReplicaGroup),
      P j → j.group.Advances taken g → P ⟨g, j.received ++ taken.toList⟩)
    (harrange : ∀ (j : Journal) (loops : List ConsumeLoop), P j → loops.Subperm j.group.loops →
      P { j with group := { j.group with loops } }) : P j' := by
  induction h with
  | refl => exact hj
  | loop n _ ih => exact hadvance _ _ _ ih (ReplicaGroup.advances_stepLoop _ n)
  | order _ ih => exact harrange _ _ ih (ReplicaGroup.inOrder_perm _).subperm
  | forget _ ih => exact harrange _ _ ih List.filter_sublist.subperm

theorem Works.size_members_eq (h : j.Works j') :
    j'.group.members.size = j.group.members.size := by
  refine h.induct (P := fun k => k.group.members.size = j.group.members.size) rfl ?_ ?_
  · intro k taken g hsize hadvance
    exact hadvance.size_members_eq.trans hsize
  · exact fun _ _ hsize _ => hsize

/-! ### Settling -/

section Settling

variable {g : ReplicaGroup}

/-- The step of one loop, wherever it stands in the list. -/
private theorem exists_works_step {before after : List ConsumeLoop} {l l' : ConsumeLoop}
    {c : ConsumeLoop.Context} (hloops : j.group.loops = before ++ l :: after)
    (hstep : l.step j.group.now (j.group.member l.replica).signal (j.group.context l.replica) =
      some (l', c)) :
    ∃ received, j.Works
      ⟨{ j.group.setContext l.replica c with loops := before ++ l' :: after }, received⟩ := by
  have hget : j.group.loops[before.length]? = some l := by simp [hloops]
  have hgroup : j.group.stepLoop before.length =
      { j.group.setContext l.replica c with loops := before ++ l' :: after } := by
    rw [ReplicaGroup.stepLoop, hget]
    dsimp only
    rw [ReplicaGroup.context] at hstep
    rw [hstep, hloops]
    simp
  rw [← hgroup]
  exact ⟨_, .loop before.length .refl⟩

/-- A loop that runs until it has to wait goes on step by step. -/
private theorem exists_works_run {i : Nat} (hi : i < g.members.size)
    (hlt : (g.member i).transport < g.transports.size) (steps : Nat)
    {before after : List ConsumeLoop} {l : ConsumeLoop} (hl : l.replica = i)
    {c : ConsumeLoop.Context} {received : List (Nat × BusMessage)}
    (h : j.Works ⟨{ g.setContext i c with loops := before ++ l :: after }, received⟩) :
    ∃ received, j.Works ⟨{
      g.setContext i (l.run g.now (g.member i).signal steps c).2 with
      loops := before ++ (l.run g.now (g.member i).signal steps c).1 :: after }, received⟩ := by
  induction steps generalizing l c received with
  | zero => exact ⟨received, h⟩
  | succ steps ih =>
    unfold ConsumeLoop.run
    split
    next => exact ⟨received, h⟩
    next l' c' hstep =>
      have hreplica : l'.replica = l.replica := (ConsumeLoop.does_of_step hstep).replica_eq
      -- the loop finds in the group what it has put back
      have hcontext := ReplicaGroup.context_setContext hi hlt c
      have hstep' : l.step g.now ((g.setContext i c).member l.replica).signal
          ((g.setContext i c).context l.replica) = some (l', c') := by
        rw [hl, hcontext, ReplicaGroup.member_signal_setContext, hstep]
      obtain ⟨received', h'⟩ := exists_works_step
        (j := ⟨{ g.setContext i c with loops := before ++ l :: after }, received⟩) rfl hstep'
      rw [hl] at h'
      refine @ih l' (hreplica.trans hl) c' received' ?_
      have hlast := ReplicaGroup.setContext_setContext hi c c'
      have hgroup : ({ ({ g.setContext i c with loops := before ++ l :: after } :
          ReplicaGroup).setContext i c' with loops := before ++ l' :: after } : ReplicaGroup) =
          { g.setContext i c' with loops := before ++ l' :: after } := by
        rw [← hlast]
        rfl
      rw [← hgroup]
      exact h.trans h'

/-- Loops that run one after the other go on step by step. -/
private theorem exists_works_runLoops {done todo : List ConsumeLoop}
    {received : List (Nat × BusMessage)}
    (hplaced : Placed { g with loops := done ++ todo })
    (h : j.Works ⟨{ g with loops := done ++ todo }, received⟩) :
    Placed { (ReplicaGroup.runLoops todo g).2 with
        loops := done ++ (ReplicaGroup.runLoops todo g).1 } ∧
      ∃ received, j.Works ⟨{ (ReplicaGroup.runLoops todo g).2 with
        loops := done ++ (ReplicaGroup.runLoops todo g).1 }, received⟩ := by
  induction todo generalizing done g received with
  | nil => exact ⟨hplaced, received, h⟩
  | cons l todo ih =>
    have hi : l.replica < g.members.size :=
      hplaced.replica_lt l (List.mem_append_right _ (List.mem_cons_self ..))
    have hlt := hplaced.transport_lt _ hi
    rw [← g.setContext_context l.replica] at h
    obtain ⟨received', hrun⟩ := exists_works_run hi hlt (l.stepBound (g.context l.replica)) rfl h
    rw [← ReplicaGroup.ran] at hrun
    have hreplica := g.replica_ran l
    rw [ReplicaGroup.runLoops_cons]
    generalize g.ran l = ran at hrun hreplica ⊢
    -- the loop has run, and the others run after it
    have hsame : done ++ ran.1 :: todo = (done ++ [ran.1]) ++ todo := by simp
    rw [hsame] at hrun
    have hplaced' : Placed
        { g.setContext l.replica ran.2 with loops := (done ++ [ran.1]) ++ todo } := by
      refine hplaced.setContext l.replica ran.2 fun l₁ h₁ => ?_
      rw [← hsame] at h₁
      obtain h₁ | h₁ := List.mem_append.mp h₁
      · exact hplaced.replica_lt l₁ (List.mem_append_left _ h₁)
      · obtain rfl | h₁ := List.mem_cons.mp h₁
        · exact hreplica ▸ hi
        · exact hplaced.replica_lt l₁ (List.mem_append_right _ (List.mem_cons_of_mem _ h₁))
    have hrest := ih (g := g.setContext l.replica ran.2) hplaced' hrun
    rwa [List.append_assoc] at hrest

private theorem exists_works_settleRounds (rounds : Nat) {received : List (Nat × BusMessage)}
    (hplaced : g.Placed) (h : j.Works ⟨g, received⟩) :
    ∃ received, j.Works ⟨ReplicaGroup.settleRounds rounds g, received⟩ := by
  induction rounds generalizing g received with
  | zero => exact ⟨received, h⟩
  | succ rounds ih =>
    have hordered : Placed { g with loops := [] ++ ReplicaGroup.inOrder g.loops } :=
      ⟨fun l hl => hplaced.replica_lt l ((ReplicaGroup.inOrder_perm g.loops).mem_iff.mp hl),
        hplaced.transport_lt⟩
    obtain ⟨hplaced', received', hran⟩ := exists_works_runLoops hordered h.order
    refine ih ⟨fun l hl => ?_, hplaced'.transport_lt⟩ hran.forget
    exact hplaced'.replica_lt l (List.mem_of_mem_filter hl)

/-- Loops that run until all have to wait go on step by step. -/
theorem exists_works_settle (h : j.group.Placed) :
    ∃ received, j.Works ⟨j.group.settle, received⟩ := exists_works_settleRounds _ h .refl

end Settling

/-! ### What was received is handled -/

/-- Every replica of the group has handled what was received for it. -/
def Handled (j : Journal) : Prop :=
  ∀ i, i < j.group.members.size → (j.group.member i).sync.Digests (j.receivedBy i)

/-- One more message was received for a replica, or none was. -/
theorem receivedBy_append (g : ReplicaGroup) (received : List (Nat × BusMessage)) (k i : Nat)
    (taken : Option BusMessage) :
    receivedBy ⟨g, received ++ (taken.map (k, ·)).toList⟩ i =
      receivedBy ⟨g, received⟩ i ++ if k = i then taken.toList else [] := by
  cases taken with
  | none => simp [receivedBy]
  | some m =>
    by_cases hk : k = i
    · simp [receivedBy, hk]
    · simp [receivedBy, hk]

theorem Handled.advance {taken : Option (Nat × BusMessage)} {g : ReplicaGroup} (h : j.Handled)
    (hadvance : j.group.Advances taken g) : Handled ⟨g, j.received ++ taken.toList⟩ := by
  cases hadvance with
  | wait =>
    rw [Option.toList_none, List.append_nil]
    exact h
  | @loop before after l l' taken c hloops hdoes =>
    intro i hi
    replace hi : i < j.group.members.size := by
      rwa [← j.group.size_members_setContext l.replica c]
    rw [receivedBy_append]
    show ((j.group.setContext l.replica c).member i).sync.Digests
      (j.receivedBy i ++ if l.replica = i then taken.toList else [])
    rw [ReplicaGroup.member_setContext]
    -- only the replica of the loop can have received something
    by_cases hreplica : l.replica = i
    · subst hreplica
      rw [if_pos ⟨rfl, hi⟩, if_pos rfl]
      show c.sync.Digests _
      rw [hdoes.sync_eq]
      cases taken with
      | none =>
        rw [Option.toList_none, List.append_nil]
        exact h _ hi
      | some m => exact (h _ hi).handle m _
    · rw [if_neg fun heq => hreplica heq.1, if_neg hreplica, List.append_nil]
      exact h i hi

/-- What loops receive is handled. -/
theorem Works.handled (h : j.Works j') (hj : j.Handled) : j'.Handled :=
  h.induct hj (fun _ _ _ hj hadvance => hj.advance hadvance) fun _ _ hj _ => hj

/-- Nothing was received, and no synchronizer has handled anything. -/
theorem Handled.frame (h : j.Handled) {g : ReplicaGroup}
    (hsize : g.members.size = j.group.members.size)
    (hidle : ∀ i, (j.group.member i).sync.Idle (g.member i).sync) : Handled ⟨g, j.received⟩ :=
  fun i hi => (h i (hsize ▸ hi)).idle (hidle i)

end Journal

end ServiceBroker
