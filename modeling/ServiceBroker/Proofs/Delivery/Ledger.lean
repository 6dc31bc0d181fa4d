import ServiceBroker.Proofs.Delivery.Superseding

/-!
# The ledger of pushes

A push that sends its frame to a connection is accepted at once, waits in line for a slot, or is
refused because the reader has gone. To say which frames a connection owes to its reader, a ledger
notes beside the traffic which pushes have sent their frames, and which of them have completed, in
the order in which either happened. It only watches the results: a push completes with the move
after which its result is success. One that waits completes when it obtains its slot; its delivery
learns of this when it looks.

## Main definitions

* `Traffic.outcome?`: the result of a push, whether or not its delivery has looked;
* `Traffic.Ledger`, `Traffic.ledger`: what is noted along a run;
* `Traffic.Balanced`: the books of one connection are in order.

## Main results

* `Balanced.accept`, `Balanced.queue`, `Balanced.serve` and the like: whatever happens to a
  connection leaves its books in order.
-/

namespace ServiceBroker

namespace Push.Stage

/-- The result of a push, given how those that waited have ended. -/
def outcome? (stage : Stage) (ended : Std.ExtTreeMap Nat PushResult) : Option PushResult :=
  match stage with
  | .waits ticket _ => ended[ticket.number]?
  | .over _ report? => report?
  | .matched => none
  | .holds _ => none

/-- The number under which a push waits for a slot. -/
def number? (stage : Stage) (ended : Std.ExtTreeMap Nat PushResult) : Option Nat :=
  match stage with
  | .waits ticket _ => if ended[ticket.number]? = none then some ticket.number else none
  | .over _ _ => none
  | .matched => none
  | .holds _ => none

/-- The push was given up together with its request. -/
def IsAbandoned (stage : Stage) : Prop := ∃ connection?, stage = .over connection? none

end Push.Stage

namespace Traffic

/-- A frame that was sent to a connection by the push at a place. -/
structure Entry where
  /-- The place of the push. -/
  place : Nat
  /-- The connection. -/
  connection : Nat
  /-- The payload of the push. -/
  frame : Bytes
deriving DecidableEq

/-- The result of the push at a place, if it has one. -/
def outcome? (t : Traffic) (place : Nat) : Option PushResult :=
  (t.pushes[place]?).bind fun push => push.stage.outcome? t.channels.ended

/-- The number under which the push at a place waits for a slot, if it does. -/
def number? (t : Traffic) (place : Nat) : Option Nat :=
  (t.pushes[place]?).bind fun push => push.stage.number? t.channels.ended

/-- What the push at a place has sent. -/
def sending? (t : Traffic) (place : Nat) : Option Entry :=
  (t.pushes[place]?).bind fun push =>
    (push.stage.sentTo?).map fun connection => ⟨place, connection, push.frame⟩

/-- What the push at a place has sent with success. -/
def completion? (t : Traffic) (place : Nat) : Option Entry :=
  if t.outcome? place = some none then t.sending? place else none

/-- What is seen at some place after a move and was not seen there before. -/
def news (see : Traffic → Nat → Option Entry) (t t' : Traffic) : List Entry :=
  (List.range t'.pushes.length).filterMap fun place =>
    if (see t place).isSome then none else see t' place

/-- What was noted along a run. -/
structure Ledger where
  /-- What was sent, in the order of arrival. -/
  arrived : List Entry := []
  /-- What was sent with success, in the order in which slots were obtained. -/
  completed : List Entry := []
  /-- What was in the buffers of connections when their readers went away. -/
  left : List (Nat × Bytes) := []

/-- What is lost with a move: the buffer of a connection that is dropped. -/
def losses (t : Traffic) : Move → List (Nat × Bytes)
  | .drop n => (t.channels.buffered n).map (n, ·)
  | _ => []

namespace Ledger

/-- Notes what has happened between two states of the traffic. -/
def watch (b : Ledger) (t t' : Traffic) : Ledger :=
  { b with
    arrived := b.arrived ++ news sending? t t'
    completed := b.completed ++ news completion? t t' }

/-- Notes a move. -/
def note (b : Ledger) (t : Traffic) (m : Move) : Ledger :=
  { b.watch t (t.move m) with left := b.left ++ losses t m }

/-- A move by which nothing is lost. -/
theorem note_of_losses (b : Ledger) {t : Traffic} {m : Move} (h : losses t m = []) :
    b.note t m = b.watch t (t.move m) := by
  rw [note, h, List.append_nil]
  rfl

/-- What has arrived at a connection. -/
def arrivedAt (b : Ledger) (n : Nat) : List Entry := b.arrived.filter (·.connection = n)

/-- What was sent to a connection with success. -/
def completedAt (b : Ledger) (n : Nat) : List Entry := b.completed.filter (·.connection = n)

/-- What was left in the buffer of a connection. -/
def leftAt (b : Ledger) (n : Nat) : List Bytes :=
  b.left.filterMap fun loss => if loss.1 = n then some loss.2 else none

end Ledger

/-- The ledger of some moves, one after the other. -/
def ledger (t : Traffic) (b : Ledger) : List Move → Ledger
  | [] => b
  | m :: moves => ledger (t.move m) (b.note t m) moves

/-! ## What is new -/

section News

variable {see : Traffic → Nat → Option Entry} {t t' : Traffic} {place : Nat}

theorem news_eq_nil (h : ∀ place, see t' place = see t place) : news see t t' = [] := by
  rw [news, List.filterMap_eq_nil_iff]
  intro place _
  rw [h]
  cases see t place <;> rfl

/-- A list without repetitions in which something is seen at one place only. -/
private theorem filterMap_of_unique {α β : Type} {f : α → Option β} {a : α} {l : List α}
    (hl : l.Nodup)
    (ha : a ∈ l) (hf : ∀ b, b ≠ a → f b = none) : l.filterMap f = (f a).toList := by
  obtain ⟨before, after, rfl⟩ := List.append_of_mem ha
  rw [List.nodup_middle, List.nodup_cons, List.mem_append, not_or] at hl
  have hnone {part : List α} (hpart : a ∉ part) : part.filterMap f = [] := by
    rw [List.filterMap_eq_nil_iff]
    intro b hb
    exact hf b fun heq => hpart (heq ▸ hb)
  rw [List.filterMap_append, List.filterMap_cons, hnone hl.1.1, hnone hl.1.2]
  cases f a <;> rfl

/-- If nothing has changed but at one place, there is news of that place only. -/
theorem news_eq_of_place (hplace : place < t'.pushes.length)
    (h : ∀ other, other ≠ place → see t' other = see t other) :
    news see t t' = if (see t place).isSome then [] else (see t' place).toList := by
  rw [news, filterMap_of_unique List.nodup_range (List.mem_range.mpr hplace)]
  · split <;> rfl
  · intro other hne
    rw [h other hne]
    cases see t other <;> rfl

end News

/-! ## The books of one connection -/

/-- The books of a connection are in order: what has arrived and what has completed, who waits under
which number, the line and the buffer of the channel, what was read and what was lost. -/
structure Balanced (arrived completed : List Entry) (number? : Nat → Option Nat)
    (waiting : List (Nat × Bytes)) (read lost buffer : List Bytes) : Prop where
  /-- Every push sends its frame once. -/
  nodup : (arrived.map (·.place)).Nodup
  /-- Numbers are given once. -/
  distinct : ∀ a ∈ arrived, ∀ b ∈ arrived, ∀ number, number? a.place = some number →
    number? b.place = some number → a.place = b.place
  /-- Those who wait stand in line in the order of their arrival. -/
  line : (arrived.filter fun e => (number? e.place).isSome).map
    (fun e => (number? e.place, e.frame)) = waiting.map fun w => (some w.1, w.2)
  /-- Those who came first were served first, and all of them before those who still wait. -/
  order : (completed ++ arrived.filter fun e => (number? e.place).isSome).Sublist arrived
  /-- What has completed was read, was lost or is in the buffer. -/
  frames : read ++ lost ++ buffer = completed.map (·.frame)

namespace Balanced

variable {arrived completed : List Entry} {number? number?' : Nat → Option Nat}
  {waiting : List (Nat × Bytes)} {read lost buffer : List Bytes} {e : Entry}

theorem nil (number? : Nat → Option Nat) : Balanced [] [] number? [] [] [] [] where
  nodup := List.nodup_nil
  distinct a ha := by cases ha
  line := rfl
  order := .refl _
  frames := rfl

/-- Only the numbers of those that have arrived matter. -/
theorem congr (h : Balanced arrived completed number? waiting read lost buffer)
    (hnumber : ∀ e ∈ arrived, number?' e.place = number? e.place) :
    Balanced arrived completed number?' waiting read lost buffer := by
  have hfilter : (arrived.filter fun e => (number?' e.place).isSome) =
      arrived.filter fun e => (number? e.place).isSome :=
    List.filter_congr fun e he => by rw [hnumber e he]
  refine ⟨h.nodup, fun a ha b hb number hna hnb => ?_, ?_, ?_, h.frames⟩
  · rw [hnumber a ha] at hna
    rw [hnumber b hb] at hnb
    exact h.distinct a ha b hb number hna hnb
  · rw [hfilter, ← h.line]
    refine List.map_congr_left fun e he => ?_
    rw [hnumber e (List.mem_of_mem_filter he)]
  · rw [hfilter]
    exact h.order

/-- A push arrives that does not wait. -/
theorem arrive (h : Balanced arrived completed number? waiting read lost buffer)
    (hnew : e.place ∉ arrived.map (·.place)) (hnumber : number? e.place = none) :
    (arrived ++ [e]).filter (fun e => (number? e.place).isSome) =
        arrived.filter (fun e => (number? e.place).isSome) ∧
      ((arrived ++ [e]).map (·.place)).Nodup ∧
      ∀ a ∈ arrived ++ [e], ∀ b ∈ arrived ++ [e], ∀ number, number? a.place = some number →
        number? b.place = some number → a.place = b.place := by
  refine ⟨?_, ?_, fun a ha b hb number hna hnb => ?_⟩
  · simp [List.filter_append, hnumber]
  · rw [List.map_append, List.map_singleton, ← List.concat_eq_append]
    exact h.nodup.concat hnew
  · -- the one that has arrived last has no number
    have hold {a : Entry} (ha : a ∈ arrived ++ [e]) (hna : number? a.place = some number) :
        a ∈ arrived := by
      rcases List.mem_append.mp ha with ha | ha
      · exact ha
      · rw [List.mem_singleton.mp ha, hnumber] at hna
        cases hna
    exact h.distinct a (hold ha hna) b (hold hb hnb) number hna hnb

/-- A push is refused because the reader has gone. -/
theorem refuse (h : Balanced arrived completed number? waiting read lost buffer)
    (hnew : e.place ∉ arrived.map (·.place)) (hnumber : number? e.place = none) :
    Balanced (arrived ++ [e]) completed number? waiting read lost buffer := by
  obtain ⟨hfilter, hnodup, hdistinct⟩ := h.arrive hnew hnumber
  refine ⟨hnodup, hdistinct, ?_, ?_, h.frames⟩
  · rw [hfilter]
    exact h.line
  · rw [hfilter]
    exact h.order.trans (List.sublist_append_left ..)

/-- A push is accepted at once, because nobody waits. -/
theorem accept (h : Balanced arrived completed number? [] read lost buffer)
    (hnew : e.place ∉ arrived.map (·.place)) (hnumber : number? e.place = none) :
    Balanced (arrived ++ [e]) (completed ++ [e]) number? [] read lost (buffer ++ [e.frame]) := by
  obtain ⟨hfilter, hnodup, hdistinct⟩ := h.arrive hnew hnumber
  have hnobody : (arrived.filter fun e => (number? e.place).isSome) = [] :=
    List.map_eq_nil_iff.mp h.line
  have horder := h.order
  rw [hnobody, List.append_nil] at horder
  constructor
  case nodup => exact hnodup
  case distinct => exact hdistinct
  case line =>
    rw [hfilter]
    exact h.line
  case order =>
    rw [hfilter, hnobody, List.append_nil]
    exact horder.append (.refl _)
  case frames => rw [← List.append_assoc, h.frames, List.map_append, List.map_singleton]

/-- A push has to wait, and goes to the end of the line. -/
theorem queue (h : Balanced arrived completed number? waiting read lost buffer) {number : Nat}
    (hnew : e.place ∉ arrived.map (·.place)) (hnumber : number? e.place = some number)
    (hfresh : ∀ a ∈ arrived, number? a.place ≠ some number) :
    Balanced (arrived ++ [e]) completed number? (waiting ++ [(number, e.frame)]) read lost
      buffer := by
  have hfilter : (arrived ++ [e]).filter (fun e => (number? e.place).isSome) =
      arrived.filter (fun e => (number? e.place).isSome) ++ [e] := by
    simp [List.filter_append, hnumber]
  constructor
  case nodup =>
    rw [List.map_append, List.map_singleton, ← List.concat_eq_append]
    exact h.nodup.concat hnew
  case distinct =>
    -- the new number is that of nobody else
    intro a ha b hb other hna hnb
    rcases List.mem_append.mp ha with ha | ha <;> rcases List.mem_append.mp hb with hb | hb
    · exact h.distinct a ha b hb other hna hnb
    · rw [List.mem_singleton.mp hb, hnumber] at hnb
      exact absurd (hna.trans hnb.symm) (hfresh a ha)
    · rw [List.mem_singleton.mp ha, hnumber] at hna
      exact absurd (hnb.trans hna.symm) (hfresh b hb)
    · rw [List.mem_singleton.mp ha, List.mem_singleton.mp hb]
  case line =>
    rw [hfilter, List.map_append, List.map_append, h.line, List.map_singleton, hnumber,
      List.map_singleton]
  case order =>
    rw [hfilter, ← List.append_assoc]
    exact h.order.append (.refl _)
  case frames => exact h.frames

/-- Who leaves the line is no longer among those who wait. -/
theorem filter_quit {number : Nat} (hnumber : ∀ e ∈ arrived, number?' e.place =
      if number? e.place = some number then none else number? e.place) :
    (arrived.filter fun e => (number?' e.place).isSome) =
      (arrived.filter fun e => (number? e.place).isSome).filter
        fun e => number? e.place ≠ some number := by
  rw [List.filter_filter]
  refine List.filter_congr fun e he => ?_
  rw [hnumber e he]
  by_cases heq : number? e.place = some number <;> simp [heq]

theorem distinct_quit (h : Balanced arrived completed number? waiting read lost buffer)
    {number : Nat} (hnumber : ∀ e ∈ arrived, number?' e.place =
      if number? e.place = some number then none else number? e.place) :
    ∀ a ∈ arrived, ∀ b ∈ arrived, ∀ other, number?' a.place = some other →
      number?' b.place = some other → a.place = b.place := by
  have hsame {e : Entry} {other : Nat} (he : e ∈ arrived) (hother : number?' e.place = some other) :
      number? e.place = some other := by
    rw [hnumber e he] at hother
    split at hother
    · cases hother
    · exact hother
  intro a ha b hb other hna hnb
  exact h.distinct a ha b hb other (hsame ha hna) (hsame hb hnb)

/-- Somebody who waits gives up, and leaves the line. -/
theorem quit (h : Balanced arrived completed number? waiting read lost buffer) {number : Nat}
    (hnumber : ∀ e ∈ arrived, number?' e.place =
      if number? e.place = some number then none else number? e.place) :
    Balanced arrived completed number?' (waiting.filter (·.1 ≠ number)) read lost buffer := by
  have hfilter := filter_quit hnumber
  refine ⟨h.nodup, h.distinct_quit hnumber, ?_, ?_, h.frames⟩
  · -- whether somebody is the one who gives up can be seen in the line
    have hline := congrArg (List.filter fun w => decide (w.1 ≠ some number)) h.line
    rw [List.filter_map, List.filter_map] at hline
    have hwaiting : waiting.filter (·.1 ≠ number) = waiting.filter
        ((fun w : Option Nat × Bytes => decide (w.1 ≠ some number)) ∘
          fun w => (some w.1, w.2)) := by
      refine List.filter_congr fun w _ => ?_
      simp
    rw [hwaiting, ← hline, hfilter]
    refine List.map_congr_left fun e he => ?_
    obtain ⟨he, hne⟩ := List.mem_filter.mp he
    rw [hnumber e (List.mem_of_mem_filter he), if_neg (of_decide_eq_true hne)]
  · rw [hfilter]
    exact ((List.Sublist.refl _).append List.filter_sublist).trans h.order

/-- The reader takes a frame, and nobody waits. -/
theorem take {frame : Bytes}
    (h : Balanced arrived completed number? [] read [] (frame :: buffer)) :
    Balanced arrived completed number? [] (read ++ [frame]) [] buffer where
  nodup := h.nodup
  distinct := h.distinct
  line := h.line
  order := h.order
  frames := by
    rw [← h.frames]
    simp

/-- The reader takes a frame, and the first in line gets the slot. -/
theorem serve {frame next : Bytes} {number : Nat}
    (h : Balanced arrived completed number? ((number, next) :: waiting) read [] (frame :: buffer))
    (hnumber : ∀ e ∈ arrived, number?' e.place =
      if number? e.place = some number then none else number? e.place) :
    ∃ e ∈ arrived, number? e.place = some number ∧
      Balanced arrived (completed ++ [e]) number?' waiting (read ++ [frame]) []
        (buffer ++ [next]) := by
  obtain ⟨e, line, hwaits, heq, hline⟩ := List.map_eq_cons_iff.mp (h.line.trans List.map_cons)
  obtain ⟨hplace, rfl⟩ := Prod.mk.inj heq
  have harrived {a : Entry} (ha : a ∈ e :: line) : a ∈ arrived :=
    List.mem_of_mem_filter (hwaits ▸ ha)
  -- those behind the first have other numbers
  have hbehind {a : Entry} (ha : a ∈ line) : number? a.place ≠ some number := by
    have hnodup := h.nodup.sublist
      ((List.filter_sublist (p := fun e => (number? e.place).isSome)).map Entry.place)
    rw [hwaits, List.map_cons, List.nodup_cons] at hnodup
    intro hsame
    apply hnodup.1
    rw [h.distinct e (harrived (.head _)) a (harrived (.tail _ ha)) number hplace hsame]
    exact List.mem_map_of_mem ha
  -- so that the others remain
  have hrest : (arrived.filter fun e => (number?' e.place).isSome) = line := by
    rw [filter_quit hnumber, hwaits, List.filter_cons, if_neg (by simp [hplace])]
    exact List.filter_eq_self.mpr fun a ha => decide_eq_true (hbehind ha)
  refine ⟨e, harrived (.head _), hplace, h.nodup, h.distinct_quit hnumber, ?_, ?_, ?_⟩
  · rw [hrest, ← hline]
    refine List.map_congr_left fun a ha => ?_
    rw [hnumber a (harrived (.tail _ ha)), if_neg (hbehind ha)]
  · rw [hrest, List.append_assoc, List.singleton_append, ← hwaits]
    exact h.order
  · have hframes := h.frames
    rw [List.append_nil] at hframes
    rw [List.append_nil, List.map_append, ← hframes]
    simp

/-- The reader goes away: the buffer is lost, and nobody waits any more. -/
theorem drop (h : Balanced arrived completed number? waiting read [] buffer)
    (hnumber : ∀ e ∈ arrived, number?' e.place = none) :
    Balanced arrived completed number?' [] read buffer [] := by
  -- nobody has a number any more, so the line is empty
  have hnobody : (arrived.filter fun e => (number?' e.place).isSome) = [] := by
    rw [List.filter_eq_nil_iff]
    intro e he
    simp [hnumber e he]
  constructor
  case nodup => exact h.nodup
  case distinct =>
    intro a ha b hb number hna
    rw [hnumber a ha] at hna
    cases hna
  case line =>
    rw [hnobody]
    rfl
  case order =>
    rw [hnobody, List.append_nil]
    exact (List.sublist_append_left ..).trans h.order
  case frames =>
    rw [← h.frames]
    simp

end Balanced

end Traffic

end ServiceBroker
