import ServiceBroker.Proofs.Replication.OneLoop.Invariant

/-!
# When the only loop of a replica goes on

A loop that goes on receives a message that was accepted after those it has received. It takes no
message once it has read everything that a closed bus kept for it.

- `Journal.Exclusive.advance`: the invariant is kept when loops go on;
- `Journal.Exhausted`: the bus is closed, and the loops of a replica will find nothing;
- `Journal.Exhausted.replace`: such a replica receives nothing;
- `Journal.Works.exclusive`, `Journal.Works.exhausted`, `Journal.Works.raised`: so it is for some
  steps.
-/

namespace ServiceBroker

namespace Journal

open ConsumeLoop (Distinct Heeds ActsOn)

variable {bus bus' : InMemoryBus} {accepted new : List BusMessage} {j : Journal} {g : ReplicaGroup}
  {i : Nat}

/-! ### When loops go on -/

section Advance

variable {l l' l₁ : ConsumeLoop} {taken : Option BusMessage} {c : ConsumeLoop.Context}

/-- A loop that takes a message reads its subscription on. -/
theorem listening_of_isSome {topic : String} (hacts : ActsOn topic bus l taken bus' l')
    (htaken : taken.isSome) : ∃ s, l.state = .listening s ∧ l'.state = .listening s := by
  obtain ⟨hsame, s, hs⟩ := hacts.takes htaken
  exact ⟨s, hs, hsame.trans hs⟩

/-- What a loop finds in the next steps was accepted after what it has received. -/
theorem Exclusive.finds_next (h : Exclusive bus accepted j) (hl : l ∈ j.group.loops)
    (hacts : ActsOn (j.group.member l.replica).sync.config.topic bus l taken bus' l')
    {s : BusSubscription} (hs : l'.state = .listening s) :
    s.topic = (j.group.member l.replica).sync.config.topic ∧ ∃ rest, bus'.Holds s rest ∧
      (j.receivedBy l.replica ++ taken.toList ++ rest).Sublist
        (acceptedFor accepted j.group l.replica) := by
  rcases hacts.reads s hs with ⟨hold, hrest⟩ | ⟨rfl, -, htopic, hnew, -⟩
  · obtain ⟨htopic, unread, hunread, hsublist⟩ := (h.follows l hl).finds s hold
    obtain ⟨rest, hholds, hrest⟩ := hrest unread hunread
    refine ⟨htopic, rest, hholds, ?_⟩
    rw [List.append_assoc]
    exact (hrest.append_left _).trans hsublist
  · refine ⟨htopic, [], hnew, ?_⟩
    rw [Option.toList_none, List.append_nil, List.append_nil]
    exact h.once _

/-- A loop that goes on stays distinct from the others. -/
private theorem Exclusive.distinct_next (h : Exclusive bus accepted j) {now : Nat} {signal : Signal}
    {c₀ : ConsumeLoop.Context} (hdoes : ConsumeLoop.Does now signal l c₀ taken l' c)
    {topic : String} (hacts : ActsOn topic bus l taken bus' l') (h₁ : l₁ ∈ j.group.loops)
    (hdistinct : l.Distinct l₁) : l'.Distinct l₁ := by
  refine ⟨fun hrunning hrunning₁ => ?_, fun s hs hs₁ => ?_⟩
  · rw [hdoes.replica_eq]
    exact hdistinct.1 (hdoes.isRunning hrunning) hrunning₁
  · rcases hacts.reads s hs with ⟨hold, -⟩ | ⟨-, -, -, -, hnew⟩
    · exact hdistinct.2 s hold hs₁
    · obtain ⟨-, unread, hholds, -⟩ := (h.follows l₁ h₁).finds s hs₁
      exact hnew s unread hholds rfl

/-- Of two distinct loops only one receives messages for a replica. -/
private theorem toList_eq_nil_of_distinct {topic : String}
    (hacts : ActsOn topic bus l taken bus' l')
    (hdistinct : l.Distinct l₁) {s : BusSubscription} (hs₁ : l₁.state = .listening s)
    (hreplica : l.replica = l₁.replica) : taken.toList = [] := by
  cases taken with
  | none => rfl
  | some m =>
    obtain ⟨s', hs', -⟩ := listening_of_isSome hacts rfl
    refine absurd hreplica (hdistinct.1 ?_ ?_)
    · rw [ConsumeLoop.isRunning, hs']
      rfl
    · rw [ConsumeLoop.isRunning, hs₁]
      rfl

/-- The other loops of the list are distinct from the one that goes on. -/
theorem Exclusive.others (h : Exclusive bus accepted j) {before after : List ConsumeLoop}
    (hloops : j.group.loops = before ++ l :: after) (h₁ : l₁ ∈ before ∨ l₁ ∈ after) :
    l₁ ∈ j.group.loops ∧ l.Distinct l₁ :=
  hloops ▸ others_of_pairwise (fun _ _ => Distinct.symm) (hloops ▸ h.distinct) h₁

/-- The settings of a replica do not change by what is handled. -/
theorem config_setContext (hdoes : ConsumeLoop.Does j.group.now (j.group.member i).signal l
    (j.group.context i) taken l' c) (k : Nat) :
    ((j.group.setContext i c).member k).sync.config = (j.group.member k).sync.config := by
  refine ReplicaGroup.member_setContext_congr (·.sync.config) _ i k c ?_
  show c.sync.config = _
  rw [hdoes.sync_eq]
  cases taken with
  | none => rfl
  | some m => exact Synchronizer.config_handle ..

section Step

variable (h : Exclusive bus accepted j)
  (hdoes : ConsumeLoop.Does j.group.now (j.group.member l.replica).signal l
    (j.group.context l.replica) taken l' c)
  (hacts : ActsOn (j.group.member l.replica).sync.config.topic bus l taken bus' l')
  (loops : List ConsumeLoop)

include h hdoes hacts

/-- A loop that goes on has received what it took. -/
private theorem Exclusive.follows_next (hl : l ∈ j.group.loops) : Follows bus' accepted
    ⟨{ j.group.setContext l.replica c with loops },
      j.received ++ (taken.map (l.replica, ·)).toList⟩ l' := by
  have hfollows := h.follows l hl
  have hsignal := ReplicaGroup.member_signal_setContext j.group l.replica l.replica c
  have hconfig := config_setContext hdoes
  refine ⟨?_, ?_, fun s hs => ?_⟩
  · rw [hdoes.replica_eq]
    exact (j.group.size_members_setContext l.replica c).symm ▸ hfollows.replica_lt
  · rw [hdoes.replica_eq]
    exact hsignal.symm ▸ hdoes.heeds hfollows.heeds
  · rw [receivedBy_append, if_pos hdoes.replica_eq.symm, hdoes.replica_eq]
    obtain ⟨htopic, rest, hholds, hsublist⟩ := h.finds_next hl hacts hs
    exact ⟨htopic.trans (congrArg (·.topic) (hconfig l.replica)).symm, rest, hholds,
      acceptedFor_congr (hconfig l.replica) ▸ hsublist⟩

/-- A loop that does not go on has received nothing, and will find what it would have found. -/
private theorem Exclusive.follows_other (h₁ : l₁ ∈ j.group.loops) (hapart : l.Distinct l₁) :
    Follows bus' accepted
      ⟨{ j.group.setContext l.replica c with loops },
        j.received ++ (taken.map (l.replica, ·)).toList⟩ l₁ := by
  have hfollows := h.follows l₁ h₁
  have hsignal := ReplicaGroup.member_signal_setContext j.group l.replica l₁.replica c
  have hconfig := config_setContext hdoes
  refine ⟨(j.group.size_members_setContext l.replica c).symm ▸ hfollows.replica_lt,
    hsignal.symm ▸ hfollows.heeds, fun s hs => ?_⟩
  obtain ⟨htopic, unread, hholds, hsublist⟩ := hfollows.finds s hs
  refine ⟨htopic.trans (congrArg (·.topic) (hconfig l₁.replica)).symm, unread,
    hacts.others s unread (fun hs' => hapart.2 s hs' hs) hholds, ?_⟩
  rw [receivedBy_append]
  refine acceptedFor_congr (hconfig l₁.replica) ▸ ?_
  split
  next hreplica =>
    -- two loops of one replica never read at the same time
    rw [toList_eq_nil_of_distinct hacts hapart hs hreplica, List.append_nil]
    exact hsublist
  next =>
    rw [List.append_nil]
    exact hsublist

/-- What a replica has received, with what one loop takes, was accepted in this order. -/
theorem Exclusive.once_next (hl : l ∈ j.group.loops) (k : Nat) :
    (receivedBy ⟨{ j.group.setContext l.replica c with loops },
      j.received ++ (taken.map (l.replica, ·)).toList⟩ k).Sublist
        (acceptedFor accepted { j.group.setContext l.replica c with loops } k) := by
  rw [receivedBy_append]
  refine acceptedFor_congr (config_setContext hdoes k) ▸ ?_
  split
  next hk =>
    subst hk
    cases taken with
    | none =>
      rw [Option.toList_none, List.append_nil]
      exact h.once _
    | some m =>
      -- what was taken is the first of what the loop would find
      obtain ⟨s, -, hs⟩ := listening_of_isSome hacts rfl
      obtain ⟨-, rest, -, hsublist⟩ := h.finds_next hl hacts hs
      exact (List.sublist_append_left ..).trans hsublist
  next =>
    rw [List.append_nil]
    exact h.once k

end Step

/-- The invariant is kept by one step of a loop of the list. -/
theorem Exclusive.replace (h : Exclusive bus accepted j) {before after : List ConsumeLoop}
    (hloops : j.group.loops = before ++ l :: after)
    (hdoes : ConsumeLoop.Does j.group.now (j.group.member l.replica).signal l
      (j.group.context l.replica) taken l' c) (htransport : c.transport = .memory bus')
    (hacts : ActsOn (j.group.member l.replica).sync.config.topic bus l taken bus' l') :
    Exclusive bus' accepted
      ⟨{ j.group.setContext l.replica c with loops := before ++ l' :: after },
        j.received ++ (taken.map (l.replica, ·)).toList⟩ := by
  have hl : l ∈ j.group.loops := hloops ▸ List.mem_append_right _ (List.mem_cons_self ..)
  have honBus := h.onBus.setContext l.replica htransport
  constructor
  case onBus => exact ⟨honBus.transports_eq, honBus.transport_eq⟩
  case sound => exact hacts.sound
  case received_lt =>
    intro p hp
    show p.1 < (j.group.setContext l.replica c).members.size
    rw [j.group.size_members_setContext l.replica c]
    obtain hp | hp := List.mem_append.mp hp
    · exact h.received_lt p hp
    · -- what the loop receives it receives for its replica, which is there
      obtain ⟨m, -, rfl⟩ := Option.map_eq_some_iff.mp (Option.mem_toList.mp hp)
      exact (h.follows l hl).replica_lt
  case quiet =>
    intro k
    show ((j.group.setContext l.replica c).member k).signal.version = 0 →
      ((j.group.setContext l.replica c).member k).signal.raised = false
    rw [ReplicaGroup.member_signal_setContext]
    exact h.quiet k
  -- among the others nothing changes, and the loop that goes on stays apart from them
  case distinct =>
    refine pairwise_replace (fun _ _ => Distinct.symm) (hloops ▸ h.distinct) fun l₁ h₁ => ?_
    obtain ⟨hold, hapart⟩ := h.others hloops h₁
    exact h.distinct_next hdoes hacts hold hapart
  case follows =>
    intro l₁ h₁
    obtain rfl | h₁ := mem_replaced h₁
    · exact h.follows_next hdoes hacts _ hl
    · obtain ⟨hold, hapart⟩ := h.others hloops h₁
      exact h.follows_other hdoes hacts _ hold hapart
  case once => exact h.once_next hdoes hacts _ hl

/-! ### Replicas that receive nothing -/

/-- The bus is closed, and the loops of a replica will find nothing on it. -/
structure Exhausted (bus : InMemoryBus) (g : ReplicaGroup) (i : Nat) : Prop where
  closed : bus.closed = true
  finds : ∀ l ∈ g.loops, l.replica = i → ∀ s, l.state = .listening s → bus.Holds s []

/-- A replica that will find nothing receives nothing and will find nothing later. -/
theorem Exhausted.replace (hexhausted : Exhausted bus j.group i) (h : Exclusive bus accepted j)
    {before after : List ConsumeLoop} (hloops : j.group.loops = before ++ l :: after)
    (hdoes : ConsumeLoop.Does j.group.now (j.group.member l.replica).signal l
      (j.group.context l.replica) taken l' c)
    (hacts : ActsOn (j.group.member l.replica).sync.config.topic bus l taken bus' l') :
    Exhausted bus' { j.group.setContext l.replica c with loops := before ++ l' :: after } i ∧
      (l.replica = i → taken = none) := by
  have hl : l ∈ j.group.loops := hloops ▸ List.mem_append_right _ (List.mem_cons_self ..)
  -- nothing is left of what the loop would take
  have hnext (hi : l.replica = i) {s : BusSubscription} (hs : l'.state = .listening s) :
      bus'.Holds s [] ∧ taken = none := by
    rcases hacts.reads s hs with ⟨hold, hrest⟩ | ⟨-, hopen, -⟩
    · obtain ⟨rest, hholds, hsublist⟩ := hrest [] (hexhausted.finds l hl hi s hold)
      obtain ⟨htaken, rfl⟩ := List.append_eq_nil_iff.mp (List.sublist_nil.mp hsublist)
      exact ⟨hholds, Option.toList_eq_nil_iff.mp htaken⟩
    · rw [hexhausted.closed] at hopen
      cases hopen
  refine ⟨⟨hacts.closed.trans hexhausted.closed, fun l₁ h₁ hi s hs => ?_⟩, fun hi => ?_⟩
  · obtain rfl | h₁ := mem_replaced h₁
    · exact (hnext (hdoes.replica_eq ▸ hi) hs).1
    · obtain ⟨hold, hapart⟩ := h.others hloops h₁
      exact hacts.others s [] (fun hs' => hapart.2 s hs' hs) (hexhausted.finds l₁ hold hi s hs)
  · cases taken with
    | none => rfl
    | some m =>
      obtain ⟨s, -, hs⟩ := listening_of_isSome hacts rfl
      exact (hnext hi hs).2

end Advance

/-- The invariant is kept when one loop goes on by one step, and a replica that will find nothing
receives nothing. -/
theorem Exclusive.advance (h : Exclusive bus accepted j) {received : Option (Nat × BusMessage)}
    (hadvance : j.group.Advances received g) :
    ∃ bus', Exclusive bus' accepted ⟨g, j.received ++ received.toList⟩ ∧
      ∀ i, Exhausted bus j.group i → Exhausted bus' g i ∧ ∀ m, received ≠ some (i, m) := by
  cases hadvance with
  | wait =>
    rw [Option.toList_none, List.append_nil]
    exact ⟨bus, h, fun i hexhausted => ⟨hexhausted, by rintro m ⟨⟩⟩⟩
  | @loop before after l l' taken c hloops hdoes =>
    have hcontext := hdoes
    rw [ReplicaGroup.context, h.onBus.transport] at hcontext
    -- on the only bus the loop reads or leaves its own subscription
    obtain ⟨bus', htransport, hacts⟩ := hcontext.exists_actsOn h.sound
    refine ⟨bus', h.replace hloops hdoes htransport hacts, fun i hexhausted => ?_⟩
    obtain ⟨hexhausted', hnone⟩ := hexhausted.replace h hloops hdoes hacts
    refine ⟨hexhausted', fun m heq => ?_⟩
    obtain ⟨m', rfl, hl⟩ := Option.map_eq_some_iff.mp heq
    cases hnone (Prod.mk.inj hl).1

/-! ### Some steps -/

variable {j' : Journal}

theorem Works.exclusive (hworks : j.Works j') (h : Exclusive bus accepted j) :
    ∃ bus', Exclusive bus' accepted j' := by
  refine hworks.induct (P := fun j => ∃ bus, Exclusive bus accepted j) ⟨bus, h⟩ ?_ ?_
  · rintro j received g ⟨bus, h⟩ hadvance
    obtain ⟨bus', h', -⟩ := h.advance hadvance
    exact ⟨bus', h'⟩
  · rintro j loops ⟨bus, h⟩ hsubperm
    exact ⟨bus, h.arrange hsubperm⟩

/-- No loop starts by itself. -/
theorem Works.atRest (hworks : j.Works j') (h : j.group.AtRest i) : j'.group.AtRest i := by
  refine hworks.induct (P := fun j => j.group.AtRest i) h ?_ ?_
  · intro j received g h hadvance
    cases hadvance with
    | wait => exact h
    | @loop before after l l' taken c hloops hdoes =>
      intro l₁ h₁ hi
      by_contra hrunning
      rw [Bool.not_eq_false] at hrunning
      rw [ReplicaGroup.AtRest, hloops] at h
      -- a loop that runs after the step has run before it
      obtain rfl | h₁ := mem_replaced h₁
      · have hstopped := h l (List.mem_append_right _ (List.mem_cons_self ..))
          (hdoes.replica_eq ▸ hi)
        rw [hdoes.isRunning hrunning] at hstopped
        cases hstopped
      · rw [h l₁ (List.mem_append.mpr (h₁.imp_right (List.mem_cons_of_mem _))) hi] at hrunning
        cases hrunning
  · exact fun j loops h hsubperm l hl => h l (hsubperm.subset hl)

/-- A replica that will find nothing stays as it is. -/
theorem Works.exhausted (hworks : j.Works j') (h : Exclusive bus accepted j)
    (hexhausted : Exhausted bus j.group i) :
    (j'.group.member i).sync = (j.group.member i).sync ∧
      ∃ bus', Exclusive bus' accepted j' ∧ Exhausted bus' j'.group i := by
  refine hworks.induct (P := fun k => (k.group.member i).sync = (j.group.member i).sync ∧
    ∃ bus, Exclusive bus accepted k ∧ Exhausted bus k.group i) ⟨rfl, bus, h, hexhausted⟩ ?_ ?_
  · rintro k received g ⟨hsync, bus, h, hexhausted⟩ hadvance
    obtain ⟨bus', h', hexhausted'⟩ := h.advance hadvance
    obtain ⟨hlater, hnone⟩ := hexhausted' i hexhausted
    exact ⟨(hadvance.sync_eq hnone).trans hsync, bus', h', hlater⟩
  · rintro k loops ⟨hsync, bus, h, hexhausted⟩ hsubperm
    exact ⟨hsync, bus, h.arrange hsubperm, hexhausted.closed, fun l hl =>
      hexhausted.finds l (hsubperm.subset hl)⟩

/-- A replica whose signal is raised stays as it is. -/
theorem Works.raised (hworks : j.Works j') (hraised : (j.group.member i).signal.raised) :
    (j'.group.member i).sync = (j.group.member i).sync ∧
      (j'.group.member i).signal = (j.group.member i).signal := by
  refine hworks.induct (P := fun k => (k.group.member i).sync = (j.group.member i).sync ∧
    (k.group.member i).signal = (j.group.member i).signal) ⟨rfl, rfl⟩ ?_ ?_
  · rintro k received g ⟨hsync, hsignal⟩ hadvance
    have hnone := hadvance.not_received (i := i) (hsignal ▸ hraised)
    exact ⟨(hadvance.sync_eq hnone).trans hsync, (hadvance.signal_eq i).trans hsignal⟩
  · exact fun _ _ h _ => h

end Journal

end ServiceBroker
