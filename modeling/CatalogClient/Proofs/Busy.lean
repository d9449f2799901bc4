import CatalogClient.World

/-!
# What a hook is told

A counter tells its hook when it leaves zero and when it comes back. As long as no slot is given
back that was not taken, what the hook was told alternates, and the last of it says how the counter
stands (`Counter.Told`).
-/

namespace CatalogClient

namespace Busy

/-- A log alternates between busy and idle, busy first. -/
def Alternates (log : List Bool) : Prop := ∀ k busy, log[k]? = some busy → (busy = true ↔ k % 2 = 0)

theorem alternates_nil : Alternates [] := by
  intro k busy h
  rw [List.getElem?_nil] at h
  cases h

theorem alternates_append {log : List Bool} {busy : Bool} (h : Alternates log)
    (turn : busy = true ↔ log.length % 2 = 0) : Alternates (log ++ [busy]) := by
  intro k told at_k
  by_cases old : k < log.length
  · rw [List.getElem?_append_left old] at at_k
    exact h k told at_k
  · rw [List.getElem?_append_right (Nat.le_of_not_lt old)] at at_k
    have last : k - log.length = 0 := by
      obtain ⟨short, -⟩ := List.getElem?_eq_some_iff.mp at_k
      simpa using short
    rw [last] at at_k
    obtain rfl := Option.some.inj at_k
    rw [show k = log.length by omega]
    exact turn

namespace Counter

/-- The hook knows how the counter stands: what it was told alternates, and the last of it says
whether any slot is taken. Without a hook nothing is told. -/
structure Told (hooked : Bool) (c : Counter) : Prop where
  same : c.hooked = hooked
  alternates : Alternates c.transitions
  last : hooked = true → c.transitions.getLast?.getD false = c.isBusy
  silent : hooked = false → c.transitions = []

theorem told_fresh (hooked : Bool) : (fresh hooked).Told hooked where
  same := rfl
  alternates := alternates_nil
  last := fun _ => rfl
  silent := fun _ => rfl

variable {hooked : Bool} {c : Counter}

/-- In an alternating log the last entry tells the length. -/
theorem length_of_told (told : c.Told hooked) (listening : hooked = true) :
    c.transitions.length % 2 = 0 ↔ c.isBusy = false := by
  rw [← told.last listening, List.getLast?_eq_getElem?]
  cases length : c.transitions.length with
  | zero => simp [List.length_eq_zero_iff.mp length]
  | succ n =>
    have here : n < c.transitions.length := by omega
    have turn := told.alternates n _ (List.getElem?_eq_getElem here)
    rw [Nat.add_sub_cancel, List.getElem?_eq_getElem here, Option.getD_some]
    cases at_n : c.transitions[n] with
    | false =>
      have odd : ¬ n % 2 = 0 := fun even => Bool.false_ne_true (at_n ▸ turn.mpr even)
      exact ⟨fun _ => rfl, fun _ => by omega⟩
    | true =>
      have even := turn.mp at_n
      exact ⟨fun _ => by omega, fun h => by cases h⟩

/-- A hook that is told of a change knows how the counter stands afterwards. -/
theorem told_tell {busy : Bool} {n : Nat} (told : c.Told hooked) (change : busy = !c.isBusy)
    (stands : busy = decide (0 < n)) :
    ({ c.tell busy with inFlight := n } : Counter).Told hooked := by
  unfold tell
  cases hooked with
  | false =>
    rw [if_neg (by rw [told.same]; exact Bool.false_ne_true)]
    exact ⟨told.same, told.alternates, fun h => (Bool.false_ne_true h).elim, told.silent⟩
  | true =>
    rw [if_pos told.same]
    have turn : busy = true ↔ c.transitions.length % 2 = 0 := by
      rw [length_of_told told rfl, change]
      cases c.isBusy <;> simp
    refine ⟨told.same, alternates_append told.alternates turn, fun _ => ?_, fun h => by cases h⟩
    rw [List.getLast?_concat]
    exact stands

theorem told_unchanged {n : Nat} (told : c.Told hooked)
    (stands : decide (0 < n) = c.isBusy) : ({ c with inFlight := n } : Counter).Told hooked where
  same := told.same
  alternates := told.alternates
  last := fun listening => (told.last listening).trans stands.symm
  silent := told.silent

@[simp] theorem acquire_inFlight (c : Counter) : c.acquire.inFlight = c.inFlight + 1 := by
  unfold acquire tell
  repeat' split
  all_goals rfl

@[simp] theorem release_inFlight (c : Counter) : c.release.inFlight = c.inFlight - 1 := by
  unfold release tell
  repeat' split
  all_goals rfl

theorem told_acquire (told : c.Told hooked) : c.acquire.Told hooked := by
  unfold acquire
  by_cases idle : c.inFlight = 0
  · have change : true = !c.isBusy := by simp [isBusy, idle]
    rw [if_pos idle]
    exact told_tell told change (by simp)
  · rw [if_neg idle]
    exact told_unchanged told (by simp [isBusy]; omega)

/-- A slot that is given back was taken before. -/
theorem told_release (told : c.Told hooked) (taken : 0 < c.inFlight) : c.release.Told hooked := by
  unfold release
  by_cases single : c.inFlight = 1
  · have change : false = !c.isBusy := by simp [isBusy, single]
    rw [if_pos single]
    exact told_tell told change (by simp [single])
  · rw [if_neg single]
    exact told_unchanged told (by simp [isBusy]; omega)

end Counter

/-! ## Counters on a board -/

namespace Board

variable {board : Board} {i : Indicator} {hooked : Bool} {taken : Nat}

/-- An act on one counter leaves all others alone. -/
theorem counter_modify (f : Counter → Counter) (j : Indicator) (here : i.place < board.length) :
    Board.counter (board.modify j.place f) i =
      if j = i then f (board.counter i) else board.counter i := by
  have same : j.place = i.place ↔ j = i := by
    cases i
    cases j
    simp
  unfold Board.counter
  rw [List.getElem?_modify, List.getElem?_eq_getElem here]
  simp only [same]
  split <;> rfl

/-- So many slots of an indicator are taken, and its hook knows. -/
structure Holds (board : Board) (i : Indicator) (hooked : Bool) (taken : Nat) : Prop where
  here : i.place < board.length
  count : (board.counter i).inFlight = taken
  told : (board.counter i).Told hooked

theorem holds_fresh (fresh : board[i.place]? = some (.fresh hooked)) : board.Holds i hooked 0 := by
  have counter : board.counter i = .fresh hooked := by
    unfold Board.counter
    rw [fresh, Option.getD_some]
  obtain ⟨here, -⟩ := List.getElem?_eq_some_iff.mp fresh
  exact ⟨here, by rw [counter]; rfl, by rw [counter]; exact Counter.told_fresh hooked⟩

theorem holds_acquire (h : board.Holds i hooked taken) (j : Indicator) :
    Board.Holds (board.modify j.place .acquire) i hooked (taken + if j = i then 1 else 0) := by
  refine ⟨by rw [List.length_modify]; exact h.here, ?_, ?_⟩
  all_goals
    rw [counter_modify _ j h.here]
    split
  · rw [Counter.acquire_inFlight, h.count]
  · exact h.count
  · exact Counter.told_acquire h.told
  · exact h.told

/-- A slot can be given back if it is one of those that are taken. -/
theorem holds_release {j : Indicator} (h : board.Holds i hooked (taken + if j = i then 1 else 0)) :
    Board.Holds (board.modify j.place .release) i hooked taken := by
  refine ⟨by rw [List.length_modify]; exact h.here, ?_, ?_⟩
  all_goals
    have count := h.count
    rw [counter_modify _ j h.here]
    split
  · next same =>
    rw [if_pos same] at count
    rw [Counter.release_inFlight, count, Nat.add_sub_cancel]
  · next other =>
    rw [if_neg other] at count
    exact count
  · next same =>
    rw [if_pos same] at count
    exact Counter.told_release h.told (by omega)
  · exact h.told

/-- An indicator is busy while a slot is taken. -/
theorem isBusy_of_holds (h : board.Holds i hooked taken) (some_taken : 0 < taken) :
    (board.counter i).isBusy = true := by
  rw [Counter.isBusy, h.count]
  exact decide_eq_true some_taken

end Board

end Busy

end CatalogClient
