import CatalogClient.Proofs.Busy
import CatalogClient.Proofs.Calls
import Mathlib.Data.List.Perm.Basic

/-!
# Everything at once

Any number of calls go on at the same time, on any clients, while the application takes slots and
gives them back. What comes next is free: a `Move` may begin a call, move a run to its next stage,
drop a run midway, or take or let go of a slot. Whatever the moves are, an indicator counts exactly
the slots held by the application and the runs that have begun and not ended: every move keeps the
invariant `Traffic.Inv` (`Traffic.step_inv`), and so does every sequence of moves.
-/

namespace CatalogClient

/-- What an activity gives, and what it writes to the journal. -/
def Activity.observed {α : Type} (x : Activity α) : Activity (α × List Event) := fun w =>
  (x w).map fun p => ((p.1, p.2.journal.drop w.journal.length), p.2)

/-- A request that a client runs, with what the run wrote so far. -/
structure Run where
  client : Client
  flight : Flight
  events : List Event

/-- All runs that were begun, and the guards that the application holds. -/
structure Traffic where
  runs : List Run
  held : List Busy.Guard

/-- What can happen next. Runs and guards go by their numbers. -/
inductive Move : Type 1
  | call {P R : Type} (call : Call P R)
  | advance (n : Nat)
  | drop (n : Nat)
  | hold (i : Busy.Indicator)
  | letGo (n : Nat)

/-- The run takes a slot of the indicator, from its begin on and between its attempts as well. -/
def Run.isOpenOn (i : Busy.Indicator) (run : Run) : Bool :=
  decide (run.client.busy = i) && run.flight.stage.isActive

namespace Traffic

def empty : Traffic := ⟨[], []⟩

/-- How many runs on an indicator have begun and neither ended nor been dropped. -/
def openOn (traffic : Traffic) (i : Busy.Indicator) : Nat := traffic.runs.countP (Run.isOpenOn i)

/-- How many slots of an indicator the application holds. -/
def heldOn (traffic : Traffic) (i : Busy.Indicator) : Nat :=
  traffic.held.countP fun guard => guard.indicator = i

/-- A run after a move. -/
def update (traffic : Traffic) (n : Nat) (run : Run) (flight : Flight) (events : List Event) :
    Traffic :=
  { traffic with
    runs := traffic.runs.set n { run with flight := flight, events := run.events ++ events } }

/-- Does what comes next. Numbers that stand for nothing leave all as it is. -/
def step (traffic : Traffic) : Move → Activity Traffic
  | .call call =>
    match call.run? with
    | none => do
      let _ ← call.perform
      return traffic
    | some (client, request) => do
      let flight ← client.launch request
      return { traffic with runs := traffic.runs ++ [⟨client, flight, []⟩] }
  | .advance n =>
    match traffic.runs[n]? with
    | none => return traffic
    | some run => do
      let (flight, events) ← Activity.observed (run.client.advance run.flight)
      return traffic.update n run flight events
  | .drop n =>
    match traffic.runs[n]? with
    | none => return traffic
    | some run => do
      let (flight, events) ← Activity.observed (Client.abandon run.flight)
      return traffic.update n run flight events
  | .hold i => do
    let guard ← Activity.acquire i
    return { traffic with held := traffic.held ++ [guard] }
  | .letGo n =>
    match traffic.held[n]? with
    | none => return traffic
    | some guard => do
      Activity.release guard
      return { traffic with held := traffic.held.eraseIdx n }

/-- Does one thing after the other. -/
def run (traffic : Traffic) (moves : List Move) : Activity Traffic := moves.foldlM step traffic

end Traffic

/-- What an indicator shows of the traffic. -/
structure Counted (i : Busy.Indicator) (hooked : Bool) (traffic : Traffic) (w : World) : Prop where
  /-- One slot for each guard that is held and each run that is open. -/
  count : (w.board.counter i).inFlight = traffic.heldOn i + traffic.openOn i
  /-- The hook was told busy and idle in turn, and of the state as it is. -/
  told : (w.board.counter i).Told hooked
  /-- A run has at most one attempt on its way. -/
  oneAtATime : ∀ run ∈ traffic.runs, OneAtATime run.events run.flight.stage
  /-- A run whose last word is that it will try again is counted still, unless it was dropped. -/
  pending : ∀ run ∈ traffic.runs, run.client.busy = i → run.flight.stage ≠ .dropped →
    ∀ request delayMs, run.events.getLast? = some (.logged (.retrying request delayMs)) →
      run.isOpenOn i = true
  /-- Whatever a run sends, it sends while the indicator is raised. -/
  raised : ∀ run ∈ traffic.runs, run.client.busy = i → ∀ wire busy delivered,
    .sent wire busy delivered ∈ run.events → busy = true

namespace Traffic

variable {i : Busy.Indicator} {hooked : Bool} {traffic : Traffic} {w w' : World}

/-! ## The invariant -/

/-- What is true of each run by itself. -/
structure Sound (i : Busy.Indicator) (run : Run) : Prop where
  guard : run.flight.guard.indicator = run.client.busy
  oneAtATime : OneAtATime run.events run.flight.stage
  settled : Client.NoRetryAtEnd run.events run.flight.stage
  raised : run.client.busy = i → ∀ wire busy delivered,
    .sent wire busy delivered ∈ run.events → busy = true

/-- What every move keeps. -/
structure Inv (i : Busy.Indicator) (hooked : Bool) (traffic : Traffic) (board : Busy.Board) :
    Prop where
  holds : board.Holds i hooked (traffic.heldOn i + traffic.openOn i)
  sound : ∀ run ∈ traffic.runs, Sound i run

theorem counted_of_inv (inv : traffic.Inv i hooked w.board) : Counted i hooked traffic w where
  count := inv.holds.count
  told := inv.holds.told
  oneAtATime := fun run mem => (inv.sound run mem).oneAtATime
  pending := by
    intro run mem on_i waited request delayMs last
    have settled := (inv.sound run mem).settled
    have active : run.flight.stage.isActive = true := by
      cases stage : run.flight.stage with
      | due | underway | resting => rfl
      | ended ending => exact absurd last (settled ending stage request delayMs)
      | dropped => exact absurd stage waited
    rw [Run.isOpenOn, active, decide_eq_true on_i]
    rfl
  raised := fun run mem => (inv.sound run mem).raised

theorem inv_empty (fresh : w.board[i.place]? = some (.fresh hooked)) :
    empty.Inv i hooked w.board where
  holds := Busy.Board.holds_fresh fresh
  sound := fun _ h => absurd h List.not_mem_nil

/-! ## Counting -/

theorem openOn_append (run : Run) :
    openOn { traffic with runs := traffic.runs ++ [run] } i =
      traffic.openOn i + if run.isOpenOn i then 1 else 0 := by
  simp [openOn, List.countP_append, List.countP_singleton]

theorem heldOn_append (guard : Busy.Guard) :
    heldOn { traffic with held := traffic.held ++ [guard] } i =
      traffic.heldOn i + if guard.indicator = i then 1 else 0 := by
  simp [heldOn, List.countP_append, List.countP_singleton]

theorem heldOn_eraseIdx {n : Nat} {guard : Busy.Guard} (at_n : traffic.held[n]? = some guard) :
    traffic.heldOn i = heldOn { traffic with held := traffic.held.eraseIdx n } i +
      if guard.indicator = i then 1 else 0 := by
  obtain ⟨short, rfl⟩ := List.getElem?_eq_some_iff.mp at_n
  have same := (List.getElem_cons_eraseIdx_perm short).countP_eq fun guard => guard.indicator = i
  rw [List.countP_cons] at same
  simpa [heldOn] using same.symm

/-- A run that passes from one stage to another counts as its new stage says. -/
theorem openOn_update {n : Nat} {run : Run} (at_n : traffic.runs[n]? = some run) (stage : Stage)
    (events : List Event) :
    (traffic.update n run { run.flight with stage := stage } events).openOn i +
        (if decide (run.client.busy = i) && run.flight.stage.isActive then 1 else 0) =
      traffic.openOn i + if decide (run.client.busy = i) && stage.isActive then 1 else 0 := by
  obtain ⟨short, rfl⟩ := List.getElem?_eq_some_iff.mp at_n
  have among := List.boole_getElem_le_countP (p := Run.isOpenOn i) short
  unfold openOn update
  rw [List.countP_set short]
  unfold Run.isOpenOn at among ⊢
  dsimp only at among ⊢
  omega

/-! ## Moves -/

/-- Taking a slot for the application. -/
theorem inv_hold (inv : traffic.Inv i hooked w.board) (j : Busy.Indicator) :
    Inv i hooked { traffic with held := traffic.held ++ [⟨j⟩] }
      (w.board.modify j.place .acquire) where
  holds := by
    have held := Busy.Board.holds_acquire inv.holds j
    rwa [Nat.add_right_comm, ← heldOn_append ⟨j⟩] at held
  sound := inv.sound

theorem inv_letGo (inv : traffic.Inv i hooked w.board) {n : Nat} {guard : Busy.Guard}
    (at_n : traffic.held[n]? = some guard) :
    Inv i hooked { traffic with held := traffic.held.eraseIdx n }
      (w.board.modify guard.indicator.place .release) where
  holds := by
    have held := inv.holds
    rw [heldOn_eraseIdx at_n, Nat.add_right_comm] at held
    exact Busy.Board.holds_release held
  sound := inv.sound

/-- A run begins with a slot taken and nothing written. -/
theorem inv_launch (inv : traffic.Inv i hooked w.board) (client : Client) (request : Request) :
    Inv i hooked { traffic with
        runs := traffic.runs ++ [⟨client, ⟨⟨client.busy⟩, .due request⟩, []⟩] }
      (w.board.modify client.busy.place .acquire) where
  holds := by
    have begun : Run.isOpenOn i ⟨client, ⟨⟨client.busy⟩, .due request⟩, []⟩ =
        decide (client.busy = i) := Bool.and_true _
    have held := Busy.Board.holds_acquire inv.holds client.busy
    rw [openOn_append, begun]
    simp only [decide_eq_true_eq, ← Nat.add_assoc]
    exact held
  sound := by
    intro run mem
    rcases List.mem_append.mp mem with mem | mem
    · exact inv.sound run mem
    · obtain rfl := List.mem_singleton.mp mem
      exact ⟨rfl, ⟨[], none, rfl, fun _ => rfl⟩, (fun _ ended => nomatch ended),
        fun _ _ _ _ written => nomatch written⟩

/-- The slots of a run that passes from one stage to another: it takes its slot until it is over,
and then gives back the slot it took. -/
theorem holds_update (inv : traffic.Inv i hooked w.board) {n : Nat} {run : Run} {stage : Stage}
    {events : List Event} (at_n : traffic.runs[n]? = some run)
    (passes : run.client.Passes w run.flight.stage events stage) :
    Busy.Board.Holds (Client.boardAfter w.board run.flight stage) i hooked
      (traffic.heldOn i +
        (traffic.update n run { run.flight with stage := stage } events).openOn i) := by
  have guard := (inv.sound run (List.mem_of_getElem? at_n)).guard
  have held := inv.holds
  have counts := openOn_update (i := i) at_n stage events
  unfold Client.boardAfter
  cases active' : stage.isActive with
  | true =>
    have active := Client.active_of_passes passes active'
    rw [active, active'] at counts
    rw [active, Nat.add_right_cancel counts]
    exact held
  | false =>
    cases active : run.flight.stage.isActive with
    | false =>
      rw [active, active'] at counts
      rw [Nat.add_right_cancel counts]
      exact held
    | true =>
      rw [active, active', Bool.and_false, Bool.and_true, if_neg Bool.false_ne_true] at counts
      simp only [decide_eq_true_eq, Nat.add_zero] at counts
      rw [← counts, ← Nat.add_assoc, ← guard] at held
      exact Busy.Board.holds_release held

/-- A run that passes from one stage to another stays sound, and no other run is touched. -/
theorem sound_update (inv : traffic.Inv i hooked w.board) {n : Nat} {run : Run} {stage : Stage}
    {events : List Event} (at_n : traffic.runs[n]? = some run)
    (passes : run.client.Passes w run.flight.stage events stage) :
    ∀ other ∈ (traffic.update n run { run.flight with stage := stage } events).runs,
      Sound i other := by
  have mem := List.mem_of_getElem? at_n
  have sound := inv.sound run mem
  intro other among
  rcases List.mem_or_eq_of_mem_set among with among | rfl
  · exact inv.sound other among
  · refine ⟨sound.guard, Client.oneAtATime_of_passes passes sound.oneAtATime,
      Client.noRetryAtEnd_of_passes passes sound.settled, ?_⟩
    intro on_i wire busy delivered written
    rcases List.mem_append.mp written with before | now
    · exact sound.raised on_i wire busy delivered before
    · obtain ⟨active, rfl⟩ := Client.busy_of_passes passes now
      -- the run is one of those that are counted
      have open_now : run.isOpenOn i = true := by
        rw [Run.isOpenOn, active, decide_eq_true on_i]
        rfl
      have counted : 0 < traffic.openOn i := List.countP_pos_iff.mpr ⟨run, mem, open_now⟩
      show (w.board.counter run.client.busy).isBusy = true
      rw [show run.client.busy = i from on_i]
      exact Busy.Board.isBusy_of_holds inv.holds (by omega)

theorem inv_update (inv : traffic.Inv i hooked w.board) {n : Nat} {run : Run} {stage : Stage}
    {events : List Event} (at_n : traffic.runs[n]? = some run)
    (passes : run.client.Passes w run.flight.stage events stage) :
    Inv i hooked (traffic.update n run { run.flight with stage := stage } events)
      (Client.boardAfter w.board run.flight stage) :=
  ⟨holds_update inv at_n passes, sound_update inv at_n passes⟩

/-- What an activity that only appends to the journal is observed to write. -/
theorem observed_apply {α : Type} {x : Activity α} {a : α} {events : List Event}
    (h : x w = some (a, w')) (journal : w'.journal = w.journal ++ events) :
    Activity.observed x w = some ((a, events), w') := by
  rw [Activity.observed, h, Option.map_some, journal, List.drop_left]

/-- Every move can be made, and keeps the invariant. -/
theorem step_inv (inv : traffic.Inv i hooked w.board) (move : Move) :
    ∃ traffic' w', traffic.step move w = some (traffic', w') ∧
      traffic'.Inv i hooked w'.board := by
  cases move with
  | call call =>
    cases run : call.run? with
    | none =>
      obtain ⟨fault, refused⟩ := call.perform_of_refused run w
      refine ⟨traffic, w, ?_, inv⟩
      simp only [step, run, Activity.bind_apply, refused, Option.bind_some, Activity.pure_apply]
    | some begun =>
      obtain ⟨client, request⟩ := begun
      let raised : World := { w with board := w.board.modify client.busy.place .acquire }
      refine ⟨_, raised, ?_, inv_launch inv client request⟩
      simp only [step, run]
      rfl
  | advance n =>
    cases at_n : traffic.runs[n]? with
    | none => exact ⟨traffic, w, by simp only [step, at_n, Activity.pure_apply], inv⟩
    | some run =>
      obtain ⟨stage, events, sent, passes, moved⟩ := run.client.advance_apply run.flight w
      let after : World := { w with
        sent
        journal := w.journal ++ events
        board := Client.boardAfter w.board run.flight stage }
      refine ⟨_, after, ?_, inv_update inv at_n passes⟩
      simp only [step, at_n, Activity.bind_apply, observed_apply moved rfl, Option.bind_some]
      rfl
  | drop n =>
    cases at_n : traffic.runs[n]? with
    | none => exact ⟨traffic, w, by simp only [step, at_n, Activity.pure_apply], inv⟩
    | some run =>
      obtain ⟨stage, passes, dropped⟩ := run.client.abandon_apply run.flight w
      let after : World := { w with board := Client.boardAfter w.board run.flight stage }
      refine ⟨_, after, ?_, inv_update inv at_n passes⟩
      simp only [step, at_n, Activity.bind_apply,
        observed_apply dropped (List.append_nil _).symm, Option.bind_some]
      rfl
  | hold j =>
    let raised : World := { w with board := w.board.modify j.place .acquire }
    exact ⟨_, raised, rfl, inv_hold inv j⟩
  | letGo n =>
    cases at_n : traffic.held[n]? with
    | none => exact ⟨traffic, w, by simp only [step, at_n, Activity.pure_apply], inv⟩
    | some guard =>
      let lowered : World := { w with board := w.board.modify guard.indicator.place .release }
      refine ⟨_, lowered, ?_, inv_letGo inv at_n⟩
      simp only [step, at_n]
      rfl

/-- All moves can be made, in whatever order they come, and keep the invariant. -/
theorem run_inv (inv : traffic.Inv i hooked w.board) (moves : List Move) :
    ∃ traffic' w', traffic.run moves w = some (traffic', w') ∧
      traffic'.Inv i hooked w'.board := by
  induction moves generalizing traffic w with
  | nil => exact ⟨traffic, w, rfl, inv⟩
  | cons move moves ih =>
    obtain ⟨next, w₁, stepped, inv₁⟩ := step_inv inv move
    obtain ⟨last, w₂, ended, inv₂⟩ := ih inv₁
    refine ⟨last, w₂, ?_, inv₂⟩
    rw [run, List.foldlM_cons, Activity.bind_apply, stepped]
    exact ended

end Traffic

/-! ## Traffic in full -/

/-- How a call takes part: either it is a run by itself, moved until it ends, and what is done with
its end, or it has a value without a document, and then it begins no run and changes nothing. -/
structure Call.TakesPart {P R : Type} (call : Call P R) : Prop where
  runs : ∀ client request, call.run? = some (client, request) →
    call.perform = client.launch request >>= client.fly >>= call.goOn
  refused : call.run? = none → ∀ w,
    (∃ fault, call.perform w = some (.outcome (.error (.encode (.notJson fault))), w)) ∧
    ∀ traffic : Traffic, traffic.step (.call call) w = some (traffic, w)

theorem Call.takesPart {P R : Type} (call : Call P R) : call.TakesPart where
  runs := fun _ _ begins => perform_eq_fly begins
  refused := by
    intro refused w
    obtain ⟨fault, performed⟩ := perform_of_refused refused w
    refine ⟨⟨fault, performed⟩, fun traffic => ?_⟩
    simp only [Traffic.step, refused, Activity.bind_apply, performed, Option.bind_some,
      Activity.pure_apply]

theorem Call.run?_of_no_document {P R : Type} {body : Datum} {fault : DatumFault}
    (failed : body.toJson = .error fault) (client : Client) (url : String) :
    (Call.post client url body : Call P R).run? = none ∧
      (Call.put client url body : Call P R).run? = none := by
  simp only [Call.run?, Call.documentRequest?, failed, Option.map_none, and_self]

/-- **An indicator counts what is going on.** From an indicator that nobody has used yet, every
sequence of moves can be made, and leaves the indicator counting the guards that are held and the
runs that are open, each once; when no run is open any more, only the guards are left. -/
theorem traffic_counted (i : Busy.Indicator) (hooked : Bool) (w : World)
    (fresh : w.board[i.place]? = some (.fresh hooked)) (moves : List Move) :
    (∃ traffic w', Traffic.empty.run moves w = some (traffic, w') ∧
      Counted i hooked traffic w' ∧
      ((∀ run ∈ traffic.runs, run.flight.stage.isActive = false) →
        (w'.board.counter i).inFlight = traffic.heldOn i)) ∧
    (∀ {P R : Type} (call : Call P R), call.TakesPart) ∧
    ∀ {P R : Type} (client : Client) (url : String) (body : Datum) (fault : DatumFault),
      body.toJson = .error fault →
      (Call.post client url body : Call P R).run? = none ∧
        (Call.put client url body : Call P R).run? = none := by
  refine ⟨?_, fun call => call.takesPart, fun client url _ _ failed =>
    Call.run?_of_no_document failed client url⟩
  obtain ⟨traffic, w', ended, inv⟩ := Traffic.run_inv (Traffic.inv_empty fresh) moves
  refine ⟨traffic, w', ended, Traffic.counted_of_inv inv, fun closed => ?_⟩
  have nothing : traffic.openOn i = 0 := by
    refine List.countP_eq_zero.mpr fun run mem => ?_
    simp [Run.isOpenOn, closed run mem]
  rw [inv.holds.count, nothing, Nat.add_zero]

/-- A call is begun and dropped while the application holds a slot, a value without a document is
posted in between: one slot is left, and the hook was told once. -/
theorem traffic_counted_dropped_call :
    let i : Busy.Indicator := ⟨0⟩
    let client := Client.new i
    let w := (World.start World.nowhere (fun _ => .zero) true).2
    let moves : List Move :=
      [.call (Call.get client "http://h/schema" : Call Unit Unit), .hold i,
        .call (Call.post client "http://h/" (.map [(.null, .null)]) : Call Unit Unit), .drop 0]
    w.board[i.place]? = some (.fresh true) ∧
    ∃ traffic w', Traffic.empty.run moves w = some (traffic, w') ∧ Counted i true traffic w' ∧
      (w'.board.counter i).inFlight = 1 ∧ (w'.board.counter i).transitions = [true] := by
  intro i client w moves
  have fresh : w.board[i.place]? = some (.fresh true) := rfl
  obtain ⟨⟨traffic, w', ended, counted, -⟩, -⟩ := traffic_counted i true w fresh moves
  refine ⟨fresh, traffic, w', ended, counted, ?_⟩
  have computed : Traffic.empty.run moves w = some (⟨[⟨client, ⟨⟨i⟩, .dropped⟩, []⟩], [⟨i⟩]⟩,
      { w with board := [⟨1, true, [true]⟩] }) := rfl
  obtain ⟨rfl, rfl⟩ := Prod.mk.inj (Option.some.inj (ended.symm.trans computed))
  exact ⟨rfl, rfl⟩

end CatalogClient
