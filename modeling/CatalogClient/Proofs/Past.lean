import CatalogClient.Proofs.Delivery
import CatalogClient.Proofs.Traffic

/-!
# The past takes no part

A world keeps a journal, and its counters keep what their hooks were told. Nothing that is to come
depends on either: from two worlds with the same present the client does the same, and adds the same to
both. An `Activity` of which this is true is `Forgetful`, and so is whatever is put together from
forgetful ones; the runs of a client are, its calls if what goes on after them is, and all traffic.
-/

namespace CatalogClient

namespace Busy

/-! ## Counters -/

namespace Counter

/-- The counter without what its hook was told. -/
def present (c : Counter) : Counter := { c with transitions := [] }

/-- What is done to a counter and told to its hook depends on the counter's present. -/
structure Forgetful (f : Counter → Counter) : Prop where
  present : ∀ c, (f c).present = (f c.present).present
  transitions : ∀ c, (f c).transitions = c.transitions ++ (f c.present).transitions

theorem forgetful_acquire : Forgetful acquire := by
  constructor
  all_goals
    intro c
    unfold acquire tell present
    by_cases idle : c.inFlight = 0 <;> cases hooked : c.hooked <;> simp [idle, hooked]

theorem forgetful_release : Forgetful release := by
  constructor
  all_goals
    intro c
    unfold release tell present
    by_cases single : c.inFlight = 1 <;> cases hooked : c.hooked <;> simp [single, hooked]

/-- A slot that is taken and given back leaves no trace but in the past. -/
theorem present_acquire_release (c : Counter) : c.acquire.release.present = c.present := by
  unfold acquire release tell present
  cases c.inFlight <;> cases hooked : c.hooked <;> simp [hooked]

end Counter

namespace Board

/-- The board without what hooks were told. -/
def present (board : Board) : Board := board.map Counter.present

theorem counter_present (board : Board) (i : Indicator) :
    board.present.counter i = (board.counter i).present := by
  unfold Board.counter present
  rw [List.getElem?_map]
  cases board[i.place]? <;> rfl

/-- Slots that are taken are of the present. -/
theorem inFlight_eq_of_present {board board' : Board} (same : board.present = board'.present)
    (i : Indicator) : (board.counter i).inFlight = (board'.counter i).inFlight := by
  have counters : (board.counter i).present = (board'.counter i).present := by
    rw [← counter_present, same, counter_present]
  exact (Counter.mk.inj counters).1

theorem present_acquire_release (board : Board) (i : Indicator) :
    Board.present ((board.modify i.place .acquire).modify i.place .release) = board.present := by
  refine List.ext_getElem? fun k => ?_
  simp only [present, List.getElem?_map, List.getElem?_modify]
  cases board[k]? with
  | none => rfl
  | some c =>
    by_cases here : i.place = k
    · simp [here, Counter.present_acquire_release]
    · simp [here]

/-- What hooks are told by an act on one counter. -/
def toldBy (f : Counter → Counter) (board : Board) (j i : Indicator) : List Bool :=
  if j = i ∧ i.place < board.length then (f (board.present.counter i)).transitions else []

variable {f : Counter → Counter}

theorem present_modify (forgetful : Counter.Forgetful f) {board board' : Board}
    (same : board.present = board'.present) (place : Nat) :
    Board.present (board.modify place f) = Board.present (board'.modify place f) := by
  have at_place : ∀ k : Nat,
      board[k]?.map Counter.present = board'[k]?.map Counter.present := by
    intro k
    have here := congrArg (fun counters : List Counter => counters[k]?) same
    simpa [present] using here
  refine List.ext_getElem? fun k => ?_
  have here := at_place k
  simp only [present, List.getElem?_map, List.getElem?_modify]
  cases before : board[k]? with
  | none =>
    rw [before] at here
    cases after : board'[k]? with
    | none => rfl
    | some c' => rw [after] at here; cases here
  | some c =>
    rw [before] at here
    cases after : board'[k]? with
    | none => rw [after] at here; cases here
    | some c' =>
      rw [after] at here
      have presents : c.present = c'.present := Option.some.inj here
      by_cases here' : place = k
      · simp [here', forgetful.present c, forgetful.present c', presents]
      · simp [here', presents]

theorem transitions_modify (forgetful : Counter.Forgetful f) (board : Board) (j i : Indicator) :
    (Board.counter (board.modify j.place f) i).transitions =
      (board.counter i).transitions ++ board.toldBy f j i := by
  unfold toldBy
  by_cases here : i.place < board.length
  · rw [counter_modify f j here, counter_present]
    by_cases same : j = i
    · rw [if_pos same, if_pos ⟨same, here⟩]
      exact forgetful.transitions _
    · rw [if_neg same, if_neg (fun both => same both.1), List.append_nil]
  · have nowhere : board[i.place]? = none := List.getElem?_eq_none (Nat.le_of_not_lt here)
    rw [if_neg (fun both => here both.2), List.append_nil]
    unfold Board.counter
    rw [List.getElem?_modify, nowhere]
    rfl

end Board

end Busy

/-! ## Worlds -/

namespace World

/-- Two worlds that differ at most in their past: their journals, and what was told to hooks. -/
structure SamePresent (w w' : World) : Prop where
  network : w.network = w'.network
  draw : w.draw = w'.draw
  sent : w.sent = w'.sent
  board : w.board.present = w'.board.present

theorem SamePresent.symm {w w' : World} (same : w.SamePresent w') : w'.SamePresent w :=
  ⟨same.network.symm, same.draw.symm, same.sent.symm, same.board.symm⟩

/-- From one world to another these events were written, and hooks were told these changes. -/
structure Adds (w w' : World) (events : List Event) (told : Busy.Indicator → List Bool) : Prop where
  journal : w'.journal = w.journal ++ events
  transitions : ∀ i, (w'.board.counter i).transitions = (w.board.counter i).transitions ++ told i

theorem Adds.refl (w : World) : w.Adds w [] fun _ => [] :=
  ⟨(List.append_nil _).symm, fun _ => (List.append_nil _).symm⟩

theorem Adds.trans {w w₁ w₂ : World} {events events' : List Event}
    {told told' : Busy.Indicator → List Bool} (first : w.Adds w₁ events told)
    (second : w₁.Adds w₂ events' told') :
    w.Adds w₂ (events ++ events') fun i => told i ++ told' i where
  journal := by rw [second.journal, first.journal, List.append_assoc]
  transitions := by
    intro i
    rw [second.transitions, first.transitions, List.append_assoc]

end World

/-! ## Activities -/

namespace Activity

/-- From worlds with the same present the activity gives the same, adds the same to both, and leaves
worlds with the same present. -/
def Forgetful {α : Type} (x : Activity α) : Prop :=
  ∀ (w w' : World) (a : α) (v : World), w.SamePresent w' → x w = some (a, v) →
    ∃ v' events told, x w' = some (a, v') ∧ v.SamePresent v' ∧ w.Adds v events told ∧
      w'.Adds v' events told

/-- Both worlds lead to the same: the activity ends in both or in none, with the same result, the same
events and the same changes told, and with the same present afterwards. -/
def SameFrom {α : Type} (x : Activity α) (w w' : World) : Prop :=
  match x w, x w' with
  | none, none => True
  | some (a, v), some (a', v') =>
    a = a' ∧ v.SamePresent v' ∧ ∃ events told, w.Adds v events told ∧ w'.Adds v' events told
  | _, _ => False

namespace Forgetful

variable {α β : Type} {x : Activity α}

theorem sameFrom (forgetful : x.Forgetful) {w w' : World} (same : w.SamePresent w') :
    x.SameFrom w w' := by
  unfold SameFrom
  cases here : x w with
  | none =>
    cases there : x w' with
    | none => trivial
    | some p =>
      obtain ⟨v', _, _, here', -⟩ := forgetful _ _ _ _ same.symm there
      rw [here] at here'
      cases here'
  | some p =>
    obtain ⟨v', events, told, there, after, adds, adds'⟩ := forgetful _ _ _ _ same here
    rw [there]
    exact ⟨rfl, after, events, told, adds, adds'⟩

theorem pure (a : α) : Forgetful (Pure.pure a : Activity α) := by
  intro w w' a' v same h
  obtain ⟨rfl, rfl⟩ := Prod.mk.inj (Option.some.inj h)
  exact ⟨w', [], fun _ => [], rfl, same, .refl _, .refl _⟩

theorem bind {f : α → Activity β} (first : x.Forgetful) (rest : ∀ a, (f a).Forgetful) :
    (x >>= f).Forgetful := by
  intro w w' b v same h
  obtain ⟨⟨a, w₁⟩, made, h⟩ := Option.bind_eq_some_iff.mp h
  obtain ⟨w₁', events, told, made', same₁, adds, adds'⟩ := first _ _ _ _ same made
  obtain ⟨v', events', told', h', same₂, adds₂, adds₂'⟩ := rest a _ _ _ _ same₁ h
  refine ⟨v', _, _, ?_, same₂, adds.trans adds₂, adds'.trans adds₂'⟩
  rw [bind_apply, made']
  exact h'

theorem map (f : α → β) (forgetful : x.Forgetful) : (f <$> x).Forgetful := by
  have same : (f <$> x) = x >>= fun a => Pure.pure (f a) := by
    funext w
    rw [map_apply, bind_apply]
    cases x w <;> rfl
  rw [same]
  exact forgetful.bind fun a => .pure (f a)

/-! ### What activities are made of -/

/-- What is given, how many requests are sent and what is written may depend on the present. -/
theorem writes {give : World → α} {sent : World → Nat} {events : World → List Event}
    (alike : ∀ {w w' : World}, w.SamePresent w' →
      give w = give w' ∧ sent w = sent w' ∧ events w = events w') :
    Forgetful fun w =>
      some (give w, { w with sent := sent w, journal := w.journal ++ events w }) := by
  intro w w' a v same h
  obtain ⟨rfl, rfl⟩ := Prod.mk.inj (Option.some.inj h)
  obtain ⟨given, count, written⟩ := alike same
  rw [given, count, written]
  exact ⟨_, events w', fun _ => [], rfl, ⟨same.network, same.draw, rfl, same.board⟩,
    ⟨rfl, fun _ => (List.append_nil _).symm⟩, ⟨rfl, fun _ => (List.append_nil _).symm⟩⟩

theorem record (event : Event) : (record event).Forgetful :=
  writes fun same => ⟨rfl, same.sent, rfl⟩

/-- What comes back depends on how many requests were sent before. -/
theorem transmit (i : Busy.Indicator) (wire : WireRequest) : (transmit i wire).Forgetful := by
  refine writes fun {w w'} same => ?_
  have counters := Busy.Board.inFlight_eq_of_present same.board i
  have busy : (w.board.counter i).isBusy = (w'.board.counter i).isBusy := by
    rw [Busy.Counter.isBusy, Busy.Counter.isBusy, counters]
  rw [same.network, same.sent, busy]
  exact ⟨rfl, rfl, rfl⟩

/-- An act on one counter. -/
theorem modify {f : Busy.Counter → Busy.Counter} (forgetful : Busy.Counter.Forgetful f)
    (j : Busy.Indicator) (a : α) :
    Forgetful fun w => some (a, { w with board := w.board.modify j.place f }) := by
  intro w w' a' v same h
  obtain ⟨rfl, rfl⟩ := Prod.mk.inj (Option.some.inj h)
  have told : w'.board.toldBy f j = w.board.toldBy f j := by
    have lengths := congrArg List.length same.board
    simp only [Busy.Board.present, List.length_map] at lengths
    funext i
    rw [Busy.Board.toldBy, Busy.Board.toldBy, same.board, lengths]
  refine ⟨_, [], w.board.toldBy f j, rfl,
    ⟨same.network, same.draw, same.sent, Busy.Board.present_modify forgetful same.board j.place⟩,
    ⟨(List.append_nil _).symm, fun i => Busy.Board.transitions_modify forgetful w.board j i⟩,
    ⟨(List.append_nil _).symm, fun i => ?_⟩⟩
  rw [← told]
  exact Busy.Board.transitions_modify forgetful w'.board j i

theorem acquire (i : Busy.Indicator) : (acquire i).Forgetful :=
  modify Busy.Counter.forgetful_acquire i (⟨i⟩ : Busy.Guard)

theorem release (g : Busy.Guard) : (release g).Forgetful :=
  modify Busy.Counter.forgetful_release g.indicator ()

/-- Rounds that forget the past make a loop that does. -/
theorem loop {round : α → Activity (Round α β)} (rounds : ∀ a, (round a).Forgetful) (a : α) :
    Forgetful (World.loop round a) := by
  intro w w' b v same h
  -- by induction on the rounds made from the first of the worlds
  have both := World.loop_result (P := fun a w x => ∀ w' : World, w.SamePresent w' →
    ∃ v' events told, World.loop round a w' = some (x.1, v') ∧ x.2.SamePresent v' ∧
      w.Adds x.2 events told ∧ w'.Adds v' events told) ?last ?more h
  · exact both w' same
  case last =>
    intro a b w v made w' same
    obtain ⟨v', events, told, made', after, adds⟩ := rounds a _ _ _ _ same made
    refine ⟨v', events, told, ?_, after, adds⟩
    rw [World.loop_apply, made']
    rfl
  case more =>
    intro a a' w w₁ x made ih w' same
    obtain ⟨w₁', events, told, made', same₁, adds, adds'⟩ := rounds a _ _ _ _ same made
    obtain ⟨v', events', told', rest, after, adds₂, adds₂'⟩ := ih w₁' same₁
    refine ⟨v', _, _, ?_, after, adds.trans adds₂, adds'.trans adds₂'⟩
    rw [World.loop_apply, made']
    exact rest

theorem observed (forgetful : x.Forgetful) : (observed x).Forgetful := by
  intro w w' a v same h
  obtain ⟨⟨a, v⟩, made, found⟩ := Option.map_eq_some_iff.mp h
  cases found
  obtain ⟨v', events, told, made', after, adds, adds'⟩ := forgetful _ _ _ _ same made
  refine ⟨v', events, told, ?_, after, adds, adds'⟩
  rw [Traffic.observed_apply made' adds'.journal, adds.journal, List.drop_left]

end Forgetful

end Activity

/-! ## The client -/

namespace Client

open Activity

theorem forgetful_attempt (client : Client) (request : Request) :
    (client.attempt request).Forgetful := by
  unfold attempt
  refine .bind (.record _) fun _ => ?_
  cases request.prepare client.options.headers with
  | error error => exact .pure _
  | ok wire => exact .bind (.transmit _ _) fun arrival => .pure _

/-- A decision depends on how many requests were sent, and not on what became of them. -/
theorem forgetful_conclude (client : Client) (request : Request) (outcome : Outcome) :
    (client.conclude request outcome).Forgetful := by
  have written := funext (client.conclude_apply request outcome)
  rw [written]
  refine .writes fun {w w'} same => ?_
  rw [same.draw, same.sent]
  exact ⟨rfl, rfl, rfl⟩

theorem forgetful_turn (client : Client) (request : Request) :
    (client.turn request).Forgetful := by
  refine .bind (forgetful_attempt client request) fun outcome => ?_
  refine .bind (forgetful_conclude client request outcome) fun step => ?_
  cases step with
  | completed final => cases final <;> exact .pure _
  | retryAfter delayMs => exact .pure _

theorem forgetful_run (client : Client) (request : Request) : (client.run request).Forgetful := by
  refine .bind (.acquire _) fun guard => ?_
  refine .bind (.loop (forgetful_turn client) request) fun ending => ?_
  exact .bind (.release _) fun _ => .pure _

theorem forgetful_execute (client : Client) (request : Request) :
    (client.execute request).Forgetful :=
  .bind (forgetful_run client request) fun _ => .pure _

/-! ### Flights -/

theorem forgetful_launch (client : Client) (request : Request) :
    (client.launch request).Forgetful :=
  .bind (.acquire _) fun _ => .pure _

theorem forgetful_settle (client : Client) (flight : Flight) (request : Request)
    (outcome : Outcome) : (client.settle flight request outcome).Forgetful := by
  refine .bind (forgetful_conclude client request outcome) fun step => ?_
  cases step with
  | completed final => cases final <;> exact .bind (.release _) fun _ => .pure _
  | retryAfter delayMs => exact .pure _

theorem forgetful_advance (client : Client) (flight : Flight) :
    (client.advance flight).Forgetful := by
  unfold advance
  cases flight.stage with
  | due request =>
    refine .bind (.record _) fun _ => ?_
    cases request.prepare client.options.headers with
    | error error => exact forgetful_settle client flight request _
    | ok wire => exact .bind (.transmit _ _) fun _ => .pure _
  | underway request wire arrival => exact forgetful_settle client flight request _
  | resting | ended | dropped => exact .pure _

theorem forgetful_abandon (flight : Flight) : (abandon flight).Forgetful := by
  unfold abandon
  split
  · exact .bind (.release _) fun _ => .pure _
  · exact .pure _

end Client

/-! ## Traffic -/

namespace Traffic

theorem forgetful_step (traffic : Traffic) (move : Move) : (traffic.step move).Forgetful := by
  cases move with
  | call call =>
    cases begins : call.run? with
    | none =>
      have nothing : traffic.step (.call call) = pure traffic :=
        funext fun w => (call.takesPart.refused begins w).2 traffic
      rw [nothing]
      exact .pure _
    | some begun =>
      simp only [step, begins]
      exact .bind (Client.forgetful_launch _ _) fun _ => .pure _
  | advance n =>
    cases at_n : traffic.runs[n]? with
    | none =>
      simp only [step, at_n]
      exact .pure _
    | some run =>
      simp only [step, at_n]
      exact .bind (.observed (Client.forgetful_advance run.client run.flight)) fun _ => .pure _
  | drop n =>
    cases at_n : traffic.runs[n]? with
    | none =>
      simp only [step, at_n]
      exact .pure _
    | some run =>
      simp only [step, at_n]
      exact .bind (.observed (Client.forgetful_abandon run.flight)) fun _ => .pure _
  | hold i => exact .bind (.acquire i) fun _ => .pure _
  | letGo n =>
    cases at_n : traffic.held[n]? with
    | none =>
      simp only [step, at_n]
      exact .pure _
    | some guard =>
      simp only [step, at_n]
      exact .bind (.release guard) fun _ => .pure _

/-- Nothing that is to come depends on the past. -/
theorem forgetful_run (traffic : Traffic) (moves : List Move) :
    (traffic.run moves).Forgetful := by
  induction moves generalizing traffic with
  | nil => exact .pure traffic
  | cons move moves ih =>
    rw [run, List.foldlM_cons]
    exact .bind (forgetful_step traffic move) fun next => ih next

end Traffic

/-! ## Calls -/

namespace Call

variable {P R : Type} {call : Call P R}

/-- A call forgets the past if whatever goes on with its end does. -/
theorem forgetful_perform (goesOn : ∀ ending, (call.goOn ending).Forgetful) :
    call.perform.Forgetful := by
  cases begins : call.run? with
  | some begun =>
    rw [perform_eq begins]
    exact .bind (Client.forgetful_run _ _) goesOn
  | none =>
    cases call with
    | post client url body =>
      refine .map _ ?_
      unfold Client.post
      cases body.toJson with
      | error fault => exact .pure _
      | ok document => exact Client.forgetful_execute _ _
    | put client url body =>
      refine .map _ ?_
      unfold Client.put
      cases body.toJson with
      | error fault => exact .pure _
      | ok document => exact Client.forgetful_execute _ _
    | _ => cases begins

theorem forgetful_perform_of_isAwaited (awaited : call.isAwaited = true) :
    call.perform.Forgetful := by
  refine forgetful_perform fun ending => ?_
  rw [goOn_of_isAwaited awaited]
  exact .pure _

end Call

/-! ## What is to come -/

/-- What is to come is the same in both worlds, whatever it is. -/
structure World.SameFuture (w w' : World) : Prop where
  present : w.SamePresent w'
  runs : ∀ client request, (Client.run client request).SameFrom w w'
  /-- Calls by which a continuation or a handler goes on, if these do not look into the past. -/
  calls : ∀ {P R : Type} (call : Call P R), (∀ ending, (call.goOn ending).Forgetful) →
    call.perform.SameFrom w w'
  awaited : ∀ {P R : Type} (call : Call P R), call.isAwaited = true → call.perform.SameFrom w w'
  traffic : ∀ (traffic : Traffic) (moves : List Move), (traffic.run moves).SameFrom w w'

theorem World.sameFuture_of_samePresent {w w' : World} (same : w.SamePresent w') :
    w.SameFuture w' where
  present := same
  runs := fun client request => (Client.forgetful_run client request).sameFrom same
  calls := fun _ goesOn => (Call.forgetful_perform goesOn).sameFrom same
  awaited := fun _ awaited => (Call.forgetful_perform_of_isAwaited awaited).sameFrom same
  traffic := fun traffic moves => (Traffic.forgetful_run traffic moves).sameFrom same

end CatalogClient
