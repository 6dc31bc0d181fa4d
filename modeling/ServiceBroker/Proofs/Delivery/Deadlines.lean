import ServiceBroker.Proofs.Delivery.Bookkeeping.Pushes
import ServiceBroker.Proofs.Delivery.Calls

/-!
# Pushes end in time

A push that can do something does it before time passes, whatever else happens in the meantime. Then
it looks for its consumer and sends its frame at the very time at which it was matched, and is over
by the time until which it may wait.

## Main definitions

* `Push.Stage.Rests`: a push needs no turn until a time;
* `Traffic.Prompt`: time passes only while some pushes rest;
* `Traffic.Timely`: a push that was matched at a time is not late.

## Main results

* `Traffic.Timely.run`: no push is ever late;
* `Traffic.exists_rest`: pushes that are left to themselves come to their ends by their deadline.
-/

namespace ServiceBroker

namespace Push.Stage

/-- A push needs no turn until a time: it is over, or may wait so long. -/
def Rests (time : Nat) : Stage → Prop
  | .over _ _ => True
  | .waits _ deadline => time ≤ deadline
  | .matched | .holds _ => False

/-- How far a push must have come that was matched at the time `began`, unless it was abandoned. -/
def IsTimely (began patience now : Nat) : Stage → Prop
  | .matched | .holds _ => now = began
  | .waits _ deadline => deadline = began + patience ∧ now ≤ deadline
  | .over _ report? => report?.isSome

/-- A push has sent its frame, or found nobody to send it to. -/
def HasSent : Stage → Prop
  | .waits _ _ | .over _ _ => True
  | .matched | .holds _ => False

/-- A push is over. -/
def IsOver (stage : Stage) : Prop := ∃ connection? report?, stage = .over connection? report?

variable {began patience now : Nat} {stage : Stage}

theorem IsTimely.now_le (h : stage.IsTimely began patience now) (hnot : stage.result? = none) :
    now ≤ began + patience := by
  rcases stage with _ | _ | _ | ⟨connection?, report?⟩
  · exact Nat.le_add_right_of_le (le_of_eq h)
  · exact Nat.le_add_right_of_le (le_of_eq h)
  · exact h.1 ▸ h.2
  · rw [IsTimely, show report? = none from hnot] at h
    cases h

/-- Time passes while a push rests. -/
theorem IsTimely.advance (h : stage.IsTimely began patience now) {millis : Nat}
    (hrests : stage.Rests (now + millis)) : stage.IsTimely began patience (now + millis) := by
  rcases stage with _ | _ | _ | _
  · exact hrests.elim
  · exact hrests.elim
  · exact ⟨h.1, hrests⟩
  · exact h

theorem HasSent.rests (hsent : stage.HasSent) (h : stage.IsTimely began patience now)
    {time : Nat} (htime : time ≤ began + patience) : stage.Rests time := by
  rcases stage with _ | _ | _ | _
  · exact hsent.elim
  · exact hsent.elim
  · exact htime.trans (le_of_eq h.1.symm)
  · trivial

end Push.Stage

namespace Push

variable {now patience began : Nat} {channels channels' : LiveChannels} {push : Push}
  {action : Action} {stage : Stage}

/-- A push that is not abandoned is no later after its turn than before. -/
private theorem Turn.isTimely (h : Turn now patience channels push action stage channels')
    (htimely : push.stage.IsTimely began patience now) (hnot : action ≠ .abandon) :
    stage.IsTimely began patience now := by
  cases h with
  | miss | refuse | accept | collect | expire => rfl
  | hold hstage =>
    rw [hstage] at htimely
    exact htimely
  | queue hstage =>
    rw [hstage] at htimely
    obtain rfl : now = began := htimely
    exact ⟨rfl, Nat.le_add_right ..⟩
  | wait | idle => exact htimely
  | skip | release | quit => exact absurd rfl hnot

/-- Once a push has sent its frame it stays so. -/
private theorem Turn.hasSent (h : Turn now patience channels push action stage channels')
    (hsent : push.stage.HasSent) : stage.HasSent := by
  cases h with
  | hold hstage =>
    rw [hstage] at hsent
    exact hsent
  | wait | idle => exact hsent
  | miss | refuse | accept | queue | collect | expire | skip | release | quit => trivial

/-- Once a push is over it stays so. -/
private theorem Turn.isOver (h : Turn now patience channels push action stage channels')
    (hover : push.stage.IsOver) : stage.IsOver := by
  obtain ⟨connection?, report?, hstage⟩ := hover
  have heq : push.act now patience channels action = (push.stage, channels) :=
    act_of_not_takes (hstage ▸ Stage.not_takes_over action)
  cases h.act_eq.symm.trans heq
  exact ⟨connection?, report?, hstage⟩

/-- A push that has looked for its consumer has found it or not. -/
private theorem Turn.ne_matched (h : Turn now patience channels push .seek stage channels') :
    stage ≠ .matched := by
  cases h with
  | miss | hold => exact nofun
  | idle hnot => exact fun heq => hnot (heq ▸ trivial)

private theorem Turn.hasSent_of_send (h : Turn now patience channels push .send stage channels')
    (hne : push.stage ≠ .matched) : stage.HasSent := by
  cases h with
  | refuse | accept | queue => trivial
  | idle hnot =>
    obtain ⟨consumer, frame, stage⟩ := push
    rcases stage with _ | _ | _ | _
    · exact absurd rfl hne
    · exact absurd trivial hnot
    · trivial
    · trivial

/-- A push whose time is over is so itself when it looks. -/
private theorem Turn.isOver_of_look (h : Turn now patience channels push .look stage channels')
    (hsent : push.stage.HasSent) (htimely : push.stage.IsTimely began patience now)
    (hlate : began + patience ≤ now) : stage.IsOver := by
  cases h with
  | collect | expire => exact ⟨_, _, rfl⟩
  | wait hwaits _ hearly =>
    rw [hwaits] at htimely
    exact absurd hearly (Nat.not_lt.mpr (htimely.1 ▸ hlate))
  | idle hnot =>
    obtain ⟨consumer, frame, stage⟩ := push
    rcases stage with _ | _ | _ | _
    · exact hsent.elim
    · exact hsent.elim
    · exact absurd trivial hnot
    · exact ⟨_, _, rfl⟩

end Push

/-! ## Prompt runs -/

namespace Traffic

variable {t : Traffic} {place began : Nat} {places : List Nat}

/-- Time passes only while the pushes at some places rest. -/
def Prompt (places : List Nat) : Traffic → List Move → Prop
  | _, [] => True
  | t, m :: moves =>
    (∀ millis, m = .advance millis → ∀ place ∈ places, ∀ push, t.pushes[place]? = some push →
      push.stage.Rests (t.now + millis)) ∧ Prompt places (t.move m) moves

theorem prompt_append (places : List Nat) (t : Traffic) (moves rest : List Move) :
    Prompt places t (moves ++ rest) ↔ Prompt places t moves ∧ Prompt places (t.run moves) rest := by
  induction moves generalizing t with
  | nil => exact (and_iff_right trivial).symm
  | cons m moves ih =>
    show _ ∧ Prompt places (t.move m) (moves ++ rest) ↔ (_ ∧ _) ∧ _
    rw [ih, and_assoc]
    rfl

/-- As long as no time passes everything is prompt. -/
theorem prompt_of_no_advance (places : List Nat) (t : Traffic) {moves : List Move}
    (h : ∀ millis, .advance millis ∉ moves) : Prompt places t moves := by
  induction moves generalizing t with
  | nil => trivial
  | cons m moves ih =>
    refine ⟨fun millis heq => absurd ?_ (h millis), ih _ fun millis hmem =>
      h millis (List.mem_cons_of_mem _ hmem)⟩
    exact heq ▸ List.mem_cons_self

/-- Only the passing of time changes the time. -/
theorem now_move (t : Traffic) (m : Move) :
    (t.move m).now = match m with
      | .advance millis => t.now + millis
      | _ => t.now := by
  cases m with
  | push place action =>
    rw [move]
    split <;> rfl
  | connect consumer =>
    rw [move]
    split <;> rfl
  | subscription | post | drop | receive | advance => rfl

theorem now_run_of_no_advance (t : Traffic) {moves : List Move}
    (h : ∀ millis, .advance millis ∉ moves) : (t.run moves).now = t.now := by
  induction moves generalizing t with
  | nil => rfl
  | cons m moves ih =>
    have hmove : (t.move m).now = t.now := by
      rw [now_move]
      cases m with
      | advance millis => exact absurd List.mem_cons_self (h millis)
      | _ => rfl
    exact (ih _ fun millis hmem => h millis (List.mem_cons_of_mem _ hmem)).trans hmove

/-- There is a push at a place, and it is not late. -/
def Timely (t : Traffic) (began place : Nat) : Prop :=
  ∃ push, t.pushes[place]? = some push ∧ push.stage.IsTimely began t.patience t.now

theorem Timely.move (h : t.Timely began place) (m : Move)
    (hprompt : ∀ millis, m = .advance millis → ∀ push, t.pushes[place]? = some push →
      push.stage.Rests (t.now + millis))
    (hnot : m ≠ .push place .abandon) : (t.move m).Timely began place := by
  obtain ⟨push, hpush, htimely⟩ := h
  have hpatience := patience_move t m
  have hnow := now_move t m
  rcases pushes_move_cases hpush m with hsame | ⟨action, stage, channels, rfl, hturn, hacted⟩
  · refine ⟨push, hsame, ?_⟩
    rw [hpatience, hnow]
    cases m with
    | advance millis => exact htimely.advance (hprompt millis rfl push hpush)
    | _ => exact htimely
  · refine ⟨{ push with stage }, hacted ▸ pushes_acted_self hpush, ?_⟩
    rw [hpatience, hnow]
    exact hturn.isTimely htimely fun heq => hnot (heq ▸ rfl)

/-- A push that is not abandoned is never late. -/
theorem Timely.run (h : t.Timely began place) (hplace : place ∈ places) {moves : List Move}
    (hprompt : Prompt places t moves) (hnot : .push place .abandon ∉ moves) :
    (t.run moves).Timely began place := by
  induction moves generalizing t with
  | nil => exact h
  | cons m moves ih =>
    obtain ⟨hfirst, hrest⟩ := hprompt
    refine ih (h.move m (fun millis heq => hfirst millis heq place hplace) fun heq => hnot ?_) hrest
      fun hmem => hnot (List.mem_cons_of_mem _ hmem)
    exact heq ▸ List.mem_cons_self

/-! ## Pushes that are left to themselves -/

/-- What a push keeps through its turns it keeps through every run. -/
private theorem stage_run {P : Push.Stage → Prop}
    (hturn : ∀ {now patience channels push action stage channels'},
      Push.Turn now patience channels push action stage channels' → P push.stage → P stage)
    (h : ∃ push, t.pushes[place]? = some push ∧ P push.stage) (moves : List Move) :
    ∃ push, (t.run moves).pushes[place]? = some push ∧ P push.stage := by
  refine run_induction (P := fun t => ∃ push, t.pushes[place]? = some push ∧ P push.stage) h
    (fun t m h => ?_) moves
  obtain ⟨push, hpush, hstage⟩ := h
  rcases pushes_move_cases hpush m with hsame | ⟨_, stage, _, -, hstep, hacted⟩
  · exact ⟨push, hsame, hstage⟩
  · exact ⟨{ push with stage }, hacted ▸ pushes_acted_self hpush, hturn hstep hstage⟩

/-- The same actions of the pushes at some places, one push after the other. -/
def turns (actions : List Push.Action) (places : List Nat) : List Move :=
  places.flatMap fun place => actions.map (.push place)

private theorem turns_cons (actions : List Push.Action) (place : Nat) (places : List Nat) :
    turns actions (place :: places) = turns actions [place] ++ turns actions places := by
  rw [turns, List.flatMap_cons, turns, turns, List.flatMap_singleton]

theorem mem_turns {actions : List Push.Action} {m : Move} :
    m ∈ turns actions places ↔ ∃ place ∈ places, ∃ action ∈ actions, .push place action = m := by
  simp only [turns, List.mem_flatMap, List.mem_map]

theorem advance_notMem_turns (actions : List Push.Action) (places : List Nat) (millis : Nat) :
    .advance millis ∉ turns actions places := by
  rw [mem_turns]
  rintro ⟨_, _, _, _, heq⟩
  cases heq

private theorem abandon_notMem_turns {actions : List Push.Action} (h : .abandon ∉ actions)
    (places : List Nat) (place : Nat) : .push place .abandon ∉ turns actions places := by
  rw [mem_turns]
  rintro ⟨_, _, _, hmem, heq⟩
  cases heq
  exact h hmem

/-- Turns of some pushes are moves of their own. -/
theorem own_of_mem_turns {actions : List Push.Action} (h : .abandon ∉ actions) {m : Move}
    (hm : m ∈ turns actions places) :
    ∃ place ∈ places, ∃ action, action ≠ .abandon ∧ .push place action = m := by
  obtain ⟨place, hplace, action, hmem, rfl⟩ := mem_turns.mp hm
  refine ⟨place, hplace, action, ?_, rfl⟩
  rintro rfl
  exact h hmem

/-- Turns of some pushes make none of them late. -/
theorem Timely.turns (h : t.Timely began place) (actions : List Push.Action)
    (hnot : .abandon ∉ actions) (places : List Nat) :
    (t.run (turns actions places)).Timely began place :=
  Timely.run h (List.mem_singleton_self place)
    (prompt_of_no_advance _ t (advance_notMem_turns actions places))
    (abandon_notMem_turns hnot places place)

/-- When each push at some places in turn does what brings it to a goal, all reach it. -/
private theorem run_turns (actions : List Push.Action) {Q : Traffic → Nat → Prop}
    {P : Push.Stage → Prop}
    (hkept : ∀ {now patience channels push action stage channels'},
      Push.Turn now patience channels push action stage channels' → P push.stage → P stage)
    (hreach : ∀ t place, Q t place →
      ∃ push, (t.run (turns actions [place])).pushes[place]? = some push ∧ P push.stage)
    (hkeep : ∀ t place other, Q t place → Q (t.run (turns actions [other])) place)
    (h : ∀ place ∈ places, Q t place) : ∀ place ∈ places,
      ∃ push, (t.run (turns actions places)).pushes[place]? = some push ∧ P push.stage := by
  induction places generalizing t with
  | nil => exact fun _ hmem => absurd hmem List.not_mem_nil
  | cons first places ih =>
    intro place hmem
    rw [turns_cons, run_append]
    rcases List.mem_cons.mp hmem with rfl | hmem
    · exact stage_run hkept (hreach t place (h place List.mem_cons_self)) _
    · exact ih (fun other hother => hkeep t other first (h other (List.mem_cons_of_mem _ hother)))
        place hmem

/-- A push that looks for its consumer and sends its frame has sent it then. -/
private theorem hasSent_seek_send (h : t.Timely began place) :
    ∃ push, (t.run [.push place .seek, .push place .send]).pushes[place]? = some push ∧
      push.stage.HasSent := by
  obtain ⟨push, hpush, -⟩ := h
  have hseek := pushes_move hpush .seek
  exact ⟨_, pushes_move hseek .send,
    (Push.turn_act ..).hasSent_of_send (push.turn_act ..).ne_matched⟩

/-- A push whose time is over is so itself when it looks. -/
private theorem isOver_look (h : t.Timely began place) (hlate : began + t.patience ≤ t.now)
    (hsent : ∃ push, t.pushes[place]? = some push ∧ push.stage.HasSent) :
    ∃ push, (t.move (.push place .look)).pushes[place]? = some push ∧ push.stage.IsOver := by
  obtain ⟨push, hpush, hsent⟩ := hsent
  obtain ⟨push', hpush', htimely⟩ := h
  cases hpush.symm.trans hpush'
  exact ⟨_, pushes_move hpush .look, (push.turn_act ..).isOver_of_look hsent htimely hlate⟩

/-- When pushes that are not late have looked and sent, all of them have sent their frames. -/
private theorem hasSent_turns (h : ∀ place ∈ places, t.Timely began place) : ∀ place ∈ places,
    ∃ push, (t.run (turns [.seek, .send] places)).pushes[place]? = some push ∧
      push.stage.HasSent :=
  run_turns [.seek, .send] (Q := fun t place => t.Timely began place) Push.Turn.hasSent
    (fun _ _ htimely => hasSent_seek_send htimely)
    (fun _ _ other htimely => htimely.turns [.seek, .send] (by decide) [other]) h

/-- When pushes look whose time is over, all of them get their results. -/
private theorem result?_turns (h : ∀ place ∈ places, t.Timely began place)
    (hsent : ∀ place ∈ places, ∃ push, t.pushes[place]? = some push ∧ push.stage.HasSent)
    (hlate : began + t.patience ≤ t.now) : ∀ place ∈ places,
    ∃ push, (t.run (turns [.look] places)).pushes[place]? = some push ∧
      push.stage.result?.isSome := by
  have hover : ∀ place ∈ places, ∃ push,
      (t.run (turns [.look] places)).pushes[place]? = some push ∧ push.stage.IsOver := by
    refine run_turns [.look]
      (Q := fun t place => t.Timely began place ∧ began + t.patience ≤ t.now ∧
        ∃ push, t.pushes[place]? = some push ∧ push.stage.HasSent)
      Push.Turn.isOver (fun _ _ h => isOver_look h.1 h.2.1 h.2.2) (fun t place other h => ?_)
      fun place hplace => ⟨h place hplace, hlate, hsent place hplace⟩
    -- while another push looks, nothing of this changes
    obtain ⟨htimely, hlate, hsent⟩ := h
    refine ⟨htimely.turns [.look] (by decide) [other], ?_, stage_run Push.Turn.hasSent hsent _⟩
    rwa [patience_run, now_run_of_no_advance t (advance_notMem_turns [.look] [other])]
  intro place hplace
  obtain ⟨push, hpush, connection?, report?, hstage⟩ := hover place hplace
  obtain ⟨push', hpush', htimely⟩ := (h place hplace).turns [.look] (by decide) places
  cases hpush.symm.trans hpush'
  refine ⟨push, hpush, ?_⟩
  -- only a push that was abandoned is over without a result
  rw [hstage] at htimely ⊢
  exact htimely

/-- Pushes that are left to themselves are prompt, and over by their deadline. -/
theorem exists_rest (h : ∀ place ∈ places, t.Timely began place)
    (hnow : t.now ≤ began + t.patience) :
    ∃ rest, (∀ m ∈ rest, (∃ millis, m = .advance millis) ∨
        ∃ place ∈ places, ∃ action, action ≠ .abandon ∧ .push place action = m) ∧
      Prompt places t rest ∧ (t.run rest).now = began + t.patience ∧
      ∀ place ∈ places, ∃ push, (t.run rest).pushes[place]? = some push ∧
        push.stage.result?.isSome := by
  -- all send their frames, then wait for as long as they may, and look
  let sends := turns [.seek, .send] places
  let looks := turns [.look] places
  let millis := began + t.patience - t.now
  let sent := t.run sends
  let waited := sent.move (.advance millis)
  have hpatience : sent.patience = t.patience := patience_run t sends
  have hsentNow : sent.now = t.now :=
    now_run_of_no_advance t (advance_notMem_turns [.seek, .send] places)
  have hwaitedNow : waited.now = began + t.patience := by
    show sent.now + (began + t.patience - t.now) = _
    rw [hsentNow, Nat.add_sub_cancel' hnow]
  have hsentTimely : ∀ place ∈ places, sent.Timely began place := fun place hplace =>
    (h place hplace).turns [.seek, .send] (by decide) places
  have hsent := hasSent_turns h
  have hrests : ∀ place ∈ places, ∀ push, sent.pushes[place]? = some push →
      push.stage.Rests (sent.now + millis) := by
    intro place hplace push hpush
    obtain ⟨push', hpush', hstage⟩ := hsent place hplace
    obtain ⟨push'', hpush'', htimely⟩ := hsentTimely place hplace
    cases hpush.symm.trans hpush'
    cases hpush.symm.trans hpush''
    exact hstage.rests htimely (hpatience ▸ le_of_eq hwaitedNow)
  have hwaitedTimely : ∀ place ∈ places, waited.Timely began place := by
    intro place hplace
    refine (hsentTimely place hplace).move (.advance millis) (fun _ heq push hpush => ?_) nofun
    cases heq
    exact hrests place hplace push hpush
  have hlate : began + waited.patience ≤ waited.now := by
    show began + sent.patience ≤ waited.now
    rw [hpatience, hwaitedNow]
  refine ⟨sends ++ .advance millis :: looks, fun m hm => ?_, ?_, ?_, fun place hplace => ?_⟩
  · rcases List.mem_append.mp hm with hsend | hm
    · exact .inr (own_of_mem_turns (by decide) hsend)
    · rcases List.mem_cons.mp hm with rfl | hlook
      · exact .inl ⟨millis, rfl⟩
      · exact .inr (own_of_mem_turns (by decide) hlook)
  · refine (prompt_append places t sends _).mpr
      ⟨prompt_of_no_advance _ _ (advance_notMem_turns _ _), fun _ heq => ?_,
        prompt_of_no_advance _ _ (advance_notMem_turns _ _)⟩
    cases heq
    exact hrests
  · rw [run_append]
    exact (now_run_of_no_advance waited (advance_notMem_turns [.look] places)).trans hwaitedNow
  · rw [run_append]
    exact result?_turns hwaitedTimely hsent hlate place hplace

end Traffic

end ServiceBroker
