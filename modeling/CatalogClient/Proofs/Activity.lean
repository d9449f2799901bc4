import CatalogClient.World

/-!
# Activities applied to a world

What each activity gives and what it leaves of the world it is applied to. Everything proved about
the client opens its activities by these equations and by no others.
-/

namespace CatalogClient

/-- What is done with a round. -/
def Round.elim {α β γ : Type} (again : α → γ) (done : β → γ) : Round α β → γ
  | .again a => again a
  | .done b => done b

namespace Activity

variable {α β : Type}

@[simp] theorem pure_apply (a : α) (w : World) : (pure a : Activity α) w = some (a, w) := rfl

@[simp] theorem bind_apply (x : Activity α) (f : α → Activity β) (w : World) :
    (x >>= f) w = (x w).bind fun p => f p.1 p.2 := rfl

@[simp] theorem map_apply (f : α → β) (x : Activity α) (w : World) :
    (f <$> x) w = (x w).map fun p => (f p.1, p.2) := by
  show (x w).bind _ = _
  cases x w <;> rfl

@[simp] theorem look_apply (w : World) : look w = some (w, w) := rfl

@[simp] theorem record_apply (event : Event) (w : World) :
    record event w = some ((), { w with journal := w.journal ++ [event] }) := rfl

@[simp] theorem acquire_apply (i : Busy.Indicator) (w : World) :
    acquire i w = some (⟨i⟩, { w with board := w.board.modify i.place .acquire }) := rfl

@[simp] theorem release_apply (g : Busy.Guard) (w : World) :
    release g w = some ((), { w with board := w.board.modify g.indicator.place .release }) := rfl

/-- Sending takes the next answer of the network. -/
@[simp] theorem transmit_apply (i : Busy.Indicator) (wire : WireRequest) (w : World) :
    transmit i wire w = some (w.network w.sent,
      { w with
        sent := w.sent + 1
        journal := w.journal ++
          [.sent wire (w.board.counter i).isBusy (w.network w.sent).isDelivered] }) := rfl

end Activity

/-! ## Loops -/

namespace World

variable {α β : Type}

theorem loop_apply (round : α → Activity (Round α β)) (a : α) (w : World) :
    loop round a w = (round a w).bind fun p =>
      p.1.elim (fun a => loop round a p.2) fun b => some (b, p.2) := by
  rw [loop.eq_1]
  cases round a w with
  | none => rfl
  | some p =>
    obtain ⟨next, w'⟩ := p
    cases next <;> rfl

/-- Whatever a loop gives comes from a last round, through the rounds before it. -/
theorem loop_result {round : α → Activity (Round α β)} {P : α → World → β × World → Prop}
    (last : ∀ {a b w w'}, round a w = some (.done b, w') → P a w (b, w'))
    (more : ∀ {a a' w w' x}, round a w = some (.again a', w') → P a' w' x → P a w x)
    {a : α} {w : World} {x : β × World} (h : loop round a w = some x) : P a w x := by
  refine loop.partial_correctness round P ?_ a w x h
  intro rest ih a w x h
  obtain ⟨⟨next, w'⟩, made, h⟩ := Option.bind_eq_some_iff.mp h
  cases next with
  | again a' => exact more made (ih a' w' x h)
  | done b =>
    obtain rfl := Option.some.inj h
    exact last made

end World

/-! ## What a journal tells of attempts -/

namespace Event

/-- The event is the beginning or the end of an attempt. -/
def isOfAttempt : Event → Bool
  | .started _ | .finished _ _ => true
  | _ => false

/-- The event says that a request will be tried again by itself. -/
def isRetry : Event → Bool
  | .logged (.retrying _ _) => true
  | _ => false

/-- The number of the attempt that began. -/
def startedNumber? : Event → Option Attempt
  | .started request => some request.attempt
  | _ => none

end Event

/-- The beginnings and ends of attempts, in order. -/
def attemptsIn (events : List Event) : List Event := events.filter Event.isOfAttempt

/-- The numbers of the attempts that began, in order. -/
def attemptNumbers (events : List Event) : List Attempt := events.filterMap Event.startedNumber?

/-- How many automatic retries were decided on. -/
def retryCount (events : List Event) : Nat := events.countP Event.isRetry

@[simp] theorem attemptsIn_append (xs ys : List Event) :
    attemptsIn (xs ++ ys) = attemptsIn xs ++ attemptsIn ys :=
  List.filter_append xs ys

@[simp] theorem attemptNumbers_append (xs ys : List Event) :
    attemptNumbers (xs ++ ys) = attemptNumbers xs ++ attemptNumbers ys :=
  List.filterMap_append

@[simp] theorem retryCount_append (xs ys : List Event) :
    retryCount (xs ++ ys) = retryCount xs + retryCount ys :=
  List.countP_append

/-- All that tells of numbers is among the beginnings and ends. -/
theorem attemptNumbers_attemptsIn (events : List Event) :
    attemptNumbers (attemptsIn events) = attemptNumbers events := by
  unfold attemptNumbers attemptsIn
  rw [List.filterMap_filter]
  congr 1
  funext event
  cases event <;> rfl

end CatalogClient
