import Mathlib.Data.List.Perm.Subperm
import ServiceBroker.Proofs.Delivery.PushSteps
import ServiceBroker.Proofs.SubscriptionIndex.Refinement

/-!
# Where received frames come from

Whatever the order in which tasks take their turns, every frame that a consumer receives can be
charged to a notification of its own which the consumer had asked for: nothing is delivered to
somebody who did not ask, and nothing twice, however often the consumer connects again while pushes
wait.

- `Traffic.Carried`: what a connection has handed out or still holds was sent to it;
- `Traffic.Matched`: one push for each consumer that had asked, and none for others;
- `Traffic.received_from_posts`: both together, for every run.
-/

namespace ServiceBroker

/-! ## What was sent to a connection -/

/-- The consumer and frame of a push that was sent to a connection. -/
def Push.sentAt? (n : Nat) (p : Push) : Option (Urn × Bytes) :=
  if p.stage.sentTo? = some n then some (p.consumer, p.frame) else none

/-- The consumer and frame of a reception by a connection. -/
def Reception.at? (n : Nat) (r : Reception) : Option (Urn × Bytes) :=
  if r.connection = n then some (r.consumer, r.frame) else none

/-- What a connection will hand out, with the consumer that will get it. -/
def LiveChannels.outgoing (l : LiveChannels) (n : Nat) : List (Urn × Bytes) :=
  (l.owner? n).toList.flatMap fun consumer => (l.queue n).map (consumer, ·)

namespace LiveChannels

variable {l l' : LiveChannels} {n m : Nat} {consumer : Urn}

theorem outgoing_of_owner (h : l.owner? n = some consumer) :
    l.outgoing n = (l.queue n).map (consumer, ·) := by
  simp [outgoing, h]

theorem outgoing_of_none (h : l.owner? n = none) : l.outgoing n = [] := by
  simp [outgoing, h]

/-- A connection with the same owner and no more frames hands out no more. -/
theorem outgoing_sublist (howner : l'.owner? n = l.owner? n)
    (hqueue : (l'.queue n).Sublist (l.queue n)) : (l'.outgoing n).Sublist (l.outgoing n) := by
  rw [outgoing, outgoing, howner]
  cases l.owner? n with
  | none => exact .refl _
  | some consumer => simpa using hqueue.map _

theorem outgoing_congr (howner : l'.owner? n = l.owner? n) (hqueue : l'.queue n = l.queue n) :
    l'.outgoing n = l.outgoing n := by
  rw [outgoing, outgoing, howner, hqueue]

/-- A connection that is opened hands out nothing yet. -/
private theorem outgoing_connect (hl : l.Coherent) (h : l.connect consumer = some (n, l')) :
    l'.outgoing m = l.outgoing m := by
  by_cases heq : n = m
  · -- nobody has had the connection before
    have hnone : l.owner? m = none := by
      have hle : l.nextConnection ≤ m := (heq.symm.trans (connect_eq_some h).1).ge
      rw [owner?, hl.channels_eq_none hle, Option.map_none]
    have hqueue : l'.queue m = [] := by
      rw [queue, channels_connect h, if_pos heq]
      rfl
    rw [outgoing_of_none hnone, outgoing_of_owner (by rw [owner?_connect h, if_pos heq]), hqueue]
    rfl
  · exact outgoing_congr (by rw [owner?_connect h, if_neg heq])
      (queue_congr (by rw [channels_connect h, if_neg heq]))

private theorem outgoing_drop_sublist (l : LiveChannels) (n m : Nat) :
    ((l.drop n).outgoing m).Sublist (l.outgoing m) := by
  by_cases heq : n = m
  · rw [outgoing_of_none (by rw [owner?_drop, if_pos heq])]
    exact List.nil_sublist _
  · have hsame : (l.drop n).outgoing m = l.outgoing m :=
      outgoing_congr (by rw [owner?_drop, if_neg heq])
        (queue_congr (by rw [channels_drop, if_neg heq]))
    exact hsame ▸ .refl _

/-- What a read takes out of a connection is what is received; nothing else changes. -/
private theorem outgoing_receive (l : LiveChannels) (n m : Nat) :
    (Traffic.reception l n).toList.filterMap (·.at? m) ++ (l.receive n).2.outgoing m =
      l.outgoing m := by
  unfold Traffic.reception
  cases hread : (l.receive n).1 with
  | message frame =>
    have hqueue := queue_of_receive hread
    cases howner : l.owner? n with
    | none =>
      -- there is no frame where there is no reader
      have hnone : l.channels[n]? = none := Option.map_eq_none_iff.mp howner
      rw [receive_of_none hnone] at hread
      cases hread
    | some consumer =>
      by_cases heq : n = m
      · subst heq
        rw [outgoing_of_owner howner, outgoing_of_owner (by rw [owner?_receive, howner]), hqueue]
        simp [Reception.at?]
      · rw [outgoing_congr owner?_receive (queue_receive_of_ne heq)]
        simp [Reception.at?, heq]
  | pending | closed =>
    rw [receive_eq_self (by simp [hread])]
    rfl

end LiveChannels

namespace Traffic

variable {t : Traffic}

/-- What was sent to a connection. -/
def sentAt (t : Traffic) (n : Nat) : List (Urn × Bytes) := t.pushes.filterMap (·.sentAt? n)

/-- What was received by a connection. -/
def receivedAt (t : Traffic) (n : Nat) : List (Urn × Bytes) := t.received.filterMap (·.at? n)

/-- Whatever a connection has handed out or will hand out was sent to it, and was meant for its
owner. -/
structure Carried (t : Traffic) : Prop where
  /-- A push holds no connection but one of its consumer. -/
  holds : ∀ p ∈ t.pushes, ∀ n, p.stage = .holds n →
    n < t.channels.nextConnection ∧ ∀ c, t.channels.owner? n = some c → c = p.consumer
  /-- Each push accounts for no more than one frame. -/
  carried : ∀ n, (t.receivedAt n ++ t.channels.outgoing n).Subperm (t.sentAt n)

private theorem carried_start (limit capacity patience : Nat) :
    (start limit capacity patience).Carried where
  holds p hp := absurd hp List.not_mem_nil
  carried n := by
    have hnone : (LiveChannels.ofCapacity capacity).owner? n = none := by
      simp [LiveChannels.ofCapacity, LiveChannels.owner?]
    rw [start, LiveChannels.outgoing_of_none hnone]
    exact List.Subperm.refl _

/-- A push that sends its frame to a connection of its consumer adds no more than that. -/
theorem Carried.outgoing_sublist (h : t.Carried) {push : Push} (hmem : push ∈ t.pushes) {n : Nat}
    {channels : LiveChannels} (hholds : push.stage = .holds n)
    (howner : channels.owner? n = t.channels.owner? n)
    (hqueue : (channels.queue n).Sublist (t.channels.queue n ++ [push.frame])) :
    (channels.outgoing n).Sublist (t.channels.outgoing n ++ [(push.consumer, push.frame)]) := by
  cases hc : t.channels.owner? n with
  | none =>
    rw [LiveChannels.outgoing_of_none (by rw [howner, hc])]
    exact List.nil_sublist _
  | some c =>
    obtain rfl := (h.holds push hmem n hholds).2 c hc
    rw [LiveChannels.outgoing_of_owner hc, LiveChannels.outgoing_of_owner (by rw [howner, hc])]
    simpa using hqueue.map (push.consumer, ·)

/-- An action of a push sends its frame at most once. -/
theorem Carried.act (h : t.Carried) (hl : t.channels.Coherent) {place : Nat} {push : Push}
    {stage : Push.Stage}
    {channels : LiveChannels} (hpush : t.pushes[place]? = some push)
    (hstep : Push.Step t.channels push stage channels) :
    Carried { t with pushes := t.pushes.set place { push with stage }, channels } := by
  obtain ⟨hcurrent, hnext, howner⟩ := hstep.frame
  have hmem := List.mem_of_getElem? hpush
  constructor
  case holds =>
    intro p hp n hn
    dsimp only at hp ⊢
    rw [hnext, howner]
    rcases List.mem_or_eq_of_mem_set hp with hold | rfl
    · exact h.holds p hold n hn
    -- the push has just taken a handle to the current connection of its consumer
    cases hstep with
    | stay => exact h.holds push hmem n hn
    | hold _ hc =>
      cases hn
      have hn := hl.owner _ _ hc
      exact ⟨hl.fresh _ _ hn, fun c hc => Option.some.inj (hc.symm.trans hn)⟩
    | miss | refuse | accept | queue | collect | cancel | skip | release => cases hn
  case carried =>
    intro m
    have hout (hqueue : (channels.queue m).Sublist (t.channels.queue m)) :=
      LiveChannels.outgoing_sublist (howner m) hqueue
    rcases hstep.sent with ⟨hsent, hqueue⟩ | ⟨n, hholds, hsent, hqueue⟩
    · have hset : (t.pushes.set place { push with stage }).filterMap (·.sentAt? m) = t.sentAt m :=
        filterMap_set hpush (by simp only [Push.sentAt?, hsent])
      refine ((hout (hqueue m)).append_left _).subperm.trans ((h.carried m).trans ?_)
      exact (List.Perm.of_eq hset.symm).subperm
    · have hbefore : push.sentAt? m = none := by simp [Push.sentAt?, hholds, Push.Stage.sentTo?]
      by_cases heq : n = m
      · -- one more was sent, and at most one more will be handed out
        subst heq
        have hset := perm_filterMap_set hpush hbefore (b := { push with stage })
          (y := (push.consumer, push.frame)) (by simp [Push.sentAt?, hsent])
        have hmore := h.outgoing_sublist hmem hholds (howner n) (by simpa using hqueue n)
        refine (hmore.append_left _).subperm.trans ?_
        rw [← List.append_assoc]
        refine ((List.perm_append_singleton _ _).subperm_right.mpr ?_).trans hset.symm.subperm
        exact (List.subperm_cons _).mpr (h.carried n)
      · have hset : (t.pushes.set place { push with stage }).filterMap (·.sentAt? m) = t.sentAt m :=
          filterMap_set hpush (by rw [hbefore]; simp [Push.sentAt?, hsent, heq])
        have hsame := hqueue m
        rw [if_neg heq] at hsame
        refine ((hout hsame).append_left _).subperm.trans ((h.carried m).trans ?_)
        exact (List.Perm.of_eq hset.symm).subperm

/-- Pushes that have just been matched hold nothing and have sent nothing. -/
theorem Carried.append (h : t.Carried) {pushes : List Push}
    (hmatched : ∀ push ∈ pushes, push.stage = .matched) (posts : List Post) :
    Carried { t with posts, pushes := t.pushes ++ pushes } where
  holds p hp n hn := by
    rcases List.mem_append.mp hp with hold | hnew
    · exact h.holds p hold n hn
    · rw [hmatched p hnew] at hn
      cases hn
  carried n := by
    refine (h.carried n).trans (List.Sublist.subperm ?_)
    exact (List.sublist_append_left _ _).filterMap _

/-- Nobody holds a connection before it is opened. -/
theorem Carried.connect (h : t.Carried) (hl : t.channels.Coherent) {consumer : Urn} {n : Nat}
    {channels : LiveChannels} (hconnect : t.channels.connect consumer = some (n, channels)) :
    Carried { t with channels } := by
  obtain ⟨hnew, heq⟩ := LiveChannels.connect_eq_some hconnect
  constructor
  case holds =>
    intro p hp k hk
    obtain ⟨hlt, hown⟩ := h.holds p hp k hk
    have hne : n ≠ k := by
      rw [hnew]
      omega
    refine ⟨?_, fun c hc => hown c ?_⟩
    · rw [heq]
      exact Nat.lt_succ_of_lt hlt
    · rwa [LiveChannels.owner?_connect hconnect, if_neg hne] at hc
  case carried =>
    intro k
    show (t.receivedAt k ++ channels.outgoing k).Subperm (t.sentAt k)
    rw [LiveChannels.outgoing_connect hl hconnect]
    exact h.carried k

/-- What a connection held goes with its reader. -/
theorem Carried.drop (h : t.Carried) (n : Nat) : (t.move (.drop n)).Carried where
  holds p hp k hk := by
    obtain ⟨hlt, hown⟩ := h.holds p hp k hk
    refine ⟨by rwa [Traffic.move, LiveChannels.nextConnection_drop], fun c hc => hown c ?_⟩
    rw [Traffic.move, LiveChannels.owner?_drop] at hc
    split at hc
    · cases hc
    · exact hc
  carried k := by
    refine List.Subperm.trans (List.Sublist.subperm ?_) (h.carried k)
    exact (LiveChannels.outgoing_drop_sublist ..).append_left _

/-- What is received was held before. -/
theorem Carried.receive (h : t.Carried) (n : Nat) : (t.move (.receive n)).Carried := by
  have howner (k : Nat) : (t.channels.receive n).2.owner? k = t.channels.owner? k :=
    LiveChannels.owner?_receive
  constructor
  case holds =>
    intro p hp k hk
    simp only [Traffic.move, howner, LiveChannels.nextConnection_receive]
    exact h.holds p hp k hk
  case carried =>
    intro k
    have hread := t.channels.outgoing_receive n k
    simp only [receivedAt, Traffic.move, List.filterMap_append, List.append_assoc, hread]
    exact h.carried k

/-- Every move leaves what connections hand out accounted for. -/
theorem Carried.move (h : t.Carried) (hl : t.channels.Coherent) (m : Move) :
    (t.move m).Carried := by
  cases m with
  | subscription operation => exact ⟨h.holds, h.carried⟩
  | post => exact h.append (fun _ => Post.stage_of_mem_pushes) _
  | push place action =>
    rw [Traffic.move]
    split
    · exact h
    next push hpush => exact h.act hl hpush (push.step_act ..)
  | connect consumer =>
    rw [Traffic.move]
    split
    · exact h
    next n channels hconnect => exact h.connect hl hconnect
  | drop n => exact h.drop n
  | receive n => exact h.receive n
  | advance millis => exact ⟨h.holds, h.carried⟩

/-! ## Who was matched -/

/-- The frames of the pushes to a consumer. -/
def pushesTo (t : Traffic) (consumer : Urn) : List Bytes :=
  t.pushes.filterMap fun p => if p.consumer = consumer then some p.frame else none

/-- There is one push for each consumer that had asked for a notification when it was matched, and
none for anybody else. -/
structure Matched (t : Traffic) : Prop where
  index : t.index.WellFormed
  pushes : ∀ consumer, t.pushesTo consumer = (t.posts.filter (·.AskedBy consumer)).map Post.frame

private theorem matched_start (limit capacity patience : Nat) :
    (start limit capacity patience).Matched where
  index := SubscriptionIndex.wellFormed_empty limit
  pushes _ := rfl

/-- A notification is pushed once to a consumer that has asked for it, and not to any other. -/
private theorem filterMap_pushes (p : Post) (hwf : p.index.WellFormed) (consumer : Urn) :
    p.pushes.filterMap (fun push => if push.consumer = consumer then some push.frame else none) =
      ([p].filter (·.AskedBy consumer)).map Post.frame := by
  have hmem : consumer ∈ p.consumers ↔ p.AskedBy consumer := hwf.mem_subscribers ..
  have honce : p.consumers.Nodup := SubscriptionIndex.nodup_subscribers ..
  -- a consumer stands in a list without repetition once or not at all
  have hlist (consumers : List Urn) (h : consumers.Nodup) :
      consumers.filterMap (fun c => if c = consumer then some p.frame else none) =
        if consumer ∈ consumers then [p.frame] else [] := by
    induction consumers with
    | nil => rfl
    | cons c consumers ih =>
      obtain ⟨hnot, hrest⟩ := List.nodup_cons.mp h
      rw [List.filterMap_cons, ih hrest]
      by_cases heq : c = consumer
      · subst heq
        simp [hnot]
      · simp [heq, Ne.symm heq]
  rw [Post.pushes, List.filterMap_map]
  refine (hlist p.consumers honce).trans ?_
  by_cases hasked : p.AskedBy consumer
  · simp [hmem, hasked]
  · simp [hmem, hasked]

theorem Matched.move (h : t.Matched) (m : Move) : (t.move m).Matched := by
  cases m with
  | subscription operation => exact ⟨(h.index.perform operation).1, h.pushes⟩
  | post producer notification =>
    refine ⟨h.index, fun consumer => ?_⟩
    have hold := h.pushes consumer
    have hnew := filterMap_pushes ⟨producer, notification, t.index⟩ h.index consumer
    rw [pushesTo] at hold
    simp only [Traffic.move, pushesTo, List.filterMap_append, List.filter_append, List.map_append,
      hold, hnew]
  | push place action =>
    rw [Traffic.move]
    split
    · exact h
    next push hpush =>
      -- an action changes the stage of a push, and its consumer and frame stay
      refine ⟨h.index, fun consumer => Eq.trans ?_ (h.pushes consumer)⟩
      exact filterMap_set hpush rfl
  | connect consumer =>
    rw [Traffic.move]
    split
    · exact h
    · exact ⟨h.index, h.pushes⟩
  | drop | receive | advance => exact ⟨h.index, h.pushes⟩

/-! ## Runs -/

private theorem carried_run (limit capacity patience : Nat) (moves : List Move) :
    ((start limit capacity patience).run moves).Carried :=
  (run_induction (P := fun t => t.channels.Coherent ∧ t.Carried)
    ⟨LiveChannels.coherent_ofCapacity capacity, carried_start ..⟩
    (fun _ m h => ⟨coherent_move h.1 m, h.2.move h.1 m⟩) moves).2

theorem Matched.run (h : t.Matched) (moves : List Move) : (t.run moves).Matched :=
  run_induction h (fun _ m h => h.move m) moves

/-- A reception as an entry of a ledger: connection, consumer and frame. -/
def entryOfReception (r : Reception) : Nat × Urn × Bytes := (r.connection, r.consumer, r.frame)

/-- A push as an entry of a ledger, once its frame was sent. -/
def entryOfPush? (p : Push) : Option (Nat × Urn × Bytes) :=
  p.stage.sentTo?.map fun n => (n, p.consumer, p.frame)

/-- Over all connections no more was received than was sent. -/
private theorem Carried.entries_subperm (h : t.Carried) :
    (t.received.map entryOfReception).Subperm (t.pushes.filterMap entryOfPush?) := by
  rw [List.subperm_ext_iff]
  rintro ⟨n, consumer, frame⟩ -
  have hreceived : (t.received.map entryOfReception).count (n, consumer, frame) =
      (t.receivedAt n).count (consumer, frame) := by
    rw [receivedAt, List.count_filterMap, List.count_eq_countP, List.countP_map]
    refine List.countP_congr fun r _ => ?_
    by_cases hn : r.connection = n <;> simp [entryOfReception, Reception.at?, hn]
  have hsent : (t.pushes.filterMap entryOfPush?).count (n, consumer, frame) =
      (t.sentAt n).count (consumer, frame) := by
    rw [sentAt, List.count_filterMap, List.count_filterMap]
    refine List.countP_congr fun p _ => ?_
    cases hto : p.stage.sentTo? with
    | none => simp [entryOfPush?, Push.sentAt?, hto]
    | some m => by_cases hm : m = n <;> simp [entryOfPush?, Push.sentAt?, hto, hm]
  rw [hreceived, hsent]
  have hcount := (h.carried n).count_le (consumer, frame)
  rw [List.count_append] at hcount
  omega

/-- What a consumer has received was pushed to it, each frame by a push of its own. -/
theorem Carried.receivedBy_subperm (h : t.Carried) (consumer : Urn) :
    (t.receivedBy consumer).Subperm (t.pushesTo consumer) := by
  let pick (entry : Nat × Urn × Bytes) : Option Bytes :=
    if entry.2.1 = consumer then some entry.2.2 else none
  have hreceived : t.receivedBy consumer = (t.received.map entryOfReception).filterMap pick := by
    rw [List.filterMap_map]
    rfl
  -- of the pushes to the consumer those count that were sent
  have hsent : ((t.pushes.filterMap entryOfPush?).filterMap pick).Sublist
      (t.pushesTo consumer) := by
    rw [List.filterMap_filterMap, pushesTo]
    induction t.pushes with
    | nil => exact .slnil
    | cons p pushes ih =>
      rw [List.filterMap_cons, List.filterMap_cons]
      cases hto : p.stage.sentTo? with
      | none =>
        simp only [entryOfPush?, hto, Option.map_none, Option.bind_none]
        split
        · exact ih
        · exact ih.cons _
      | some n =>
        simp only [entryOfPush?, hto, Option.map_some, Option.bind_some, pick]
        split
        · exact ih
        · exact ih.cons_cons _
  obtain ⟨entries, hperm, hsublist⟩ := h.entries_subperm
  rw [hreceived]
  exact ⟨entries.filterMap pick, hperm.filterMap pick, (hsublist.filterMap pick).trans hsent⟩

/-- For every run from start-up, in which anybody moves at any time: the frames that a consumer has
received, over all connections that it ever had, are the envelopes of notifications that it had
asked for when they were matched, under the URNs of their producers. No notification accounts for
more than one of them, though the consumer may have asked twice, for the namespace and for the
producer, and may have connected again while pushes were waiting. -/
theorem received_from_posts (limit capacity patience : Nat) (moves : List Move) (consumer : Urn) :
    let t := (start limit capacity patience).run moves
    (t.receivedBy consumer).Subperm ((t.posts.filter (·.AskedBy consumer)).map Post.frame) := by
  have hcarried := carried_run limit capacity patience moves
  have hmatched := (matched_start limit capacity patience).run moves
  intro t
  rw [← hmatched.pushes consumer]
  exact hcarried.receivedBy_subperm consumer

end Traffic

end ServiceBroker
