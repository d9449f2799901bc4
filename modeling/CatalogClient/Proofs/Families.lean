import CatalogClient.Proofs.Busy
import Mathlib.Data.List.Infix

/-!
# Families of indicators

An indicator and its clones are a family, and share one counter. A `Ledger` says who belongs to which
family, from what was done alone: a guard belongs to the family of the indicator it was taken through,
and stays with it when that indicator is discarded. Every deed keeps desk and ledger in agreement
(`Desk.step_agrees`), and so the counter of each family counts its live guards, and its hook was told
each change, whatever the other families did (`families_counted`).
-/

namespace CatalogClient

namespace Busy

/-! ## What a hook is told at once -/

namespace Counter

/-- The hook is told whether anything is held, if that is news. -/
def Tells (c c' : Counter) : Prop :=
  c'.transitions = c.transitions ++
    if c.hooked = true ∧ c'.isBusy ≠ c.isBusy then [c'.isBusy] else []

theorem tells_refl (c : Counter) : c.Tells c := by simp [Tells]

theorem tells_acquire (c : Counter) : c.Tells c.acquire := by
  have busy : c.acquire.isBusy = true := by simp [isBusy]
  rw [Tells, busy]
  unfold acquire tell isBusy
  by_cases idle : c.inFlight = 0
  · cases hooked : c.hooked <;> simp [idle]
  · simp [idle, Nat.pos_of_ne_zero idle]

theorem tells_release (c : Counter) : c.Tells c.release := by
  have busy : c.release.isBusy = decide (1 < c.inFlight) := by
    rw [isBusy, release_inFlight, decide_eq_decide]
    omega
  rw [Tells, busy]
  unfold release tell isBusy
  by_cases single : c.inFlight = 1
  · cases hooked : c.hooked <;> simp [single]
  · have same : decide (1 < c.inFlight) = decide (0 < c.inFlight) := by
      rw [decide_eq_decide]
      omega
    simp [single, same]

end Counter

/-- Each value that differs from the one before it. -/
def changes (last : Bool) : List Bool → List Bool
  | [] => []
  | next :: rest => if next = last then changes last rest else next :: changes next rest

theorem changes_append (last : Bool) (values : List Bool) (value : Bool) :
    changes last (values ++ [value]) =
      changes last values ++ if value = values.getLastD last then [] else [value] := by
  induction values generalizing last with
  | nil => simp [changes]
  | cons next rest ih =>
    rw [List.cons_append, changes, changes, ih, ih, List.getLastD_cons]
    by_cases same : next = last
    · rw [if_pos same, if_pos same, same]
    · rw [if_neg same, if_neg same, List.cons_append]

/-! ## Deeds -/

/-- What a program does with its indicators and guards. It may discard an indicator before the guards
that were taken through it. -/
inductive Deed
  | act (act : Act)
  | discard (indicator : Nat)
deriving DecidableEq

namespace Deed

/-- What a deed does to the counter of the family it concerns. -/
def alter : Deed → Counter → Counter
  | .act (.acquire _) => Counter.acquire
  | .act (.drop _) => Counter.release
  | .act (.clone _) | .act (.create _) | .discard _ => id

theorem tells_alter (deed : Deed) (c : Counter) : c.Tells (deed.alter c) := by
  cases deed with
  | act act =>
    cases act with
    | acquire n => exact c.tells_acquire
    | drop n => exact c.tells_release
    | clone | create => exact c.tells_refl
  | discard n => exact c.tells_refl

end Deed

/-- A bench, and the indicators on it that were discarded. -/
structure Desk where
  bench : Bench
  gone : List Nat

namespace Desk

def empty : Desk := ⟨⟨[], [], []⟩, []⟩

/-- The indicator of this number, unless it was discarded. -/
def indicator? (desk : Desk) (n : Nat) : Option Indicator :=
  if n ∈ desk.gone then none else desk.bench.indicators[n]?

/-- What is discarded can be neither used nor cloned. -/
def allows (desk : Desk) : Act → Bool
  | .acquire n | .clone n => n ∉ desk.gone
  | .drop _ | .create _ => true

/-- Does one thing. To discard an indicator touches no counter. -/
def step (desk : Desk) : Deed → Desk
  | .act act => if desk.allows act then { desk with bench := desk.bench.step act } else desk
  | .discard n =>
    if n < desk.bench.indicators.length then { desk with gone := n :: desk.gone } else desk

/-- What is there when these things were done. -/
def after (deeds : List Deed) : Desk := deeds.foldl step empty

/-- The counter of a family, which is at the place of the family on the board. -/
def counter (desk : Desk) (family : Nat) : Counter := desk.bench.counterOf ⟨family⟩

end Desk

/-! ## The ledger -/

/-- Who belongs to which family. Families go by the order in which their first members were made;
indicators that were discarded and guards that were dropped belong to none. -/
structure Ledger where
  /-- Whether a family was made with a hook. -/
  hooks : List Bool
  indicators : List (Option Nat)
  guards : List (Option Nat)

namespace Ledger

def empty : Ledger := ⟨[], [], []⟩

/-- The family of an indicator. -/
def family? (ledger : Ledger) (n : Nat) : Option Nat := ledger.indicators[n]?.join

/-- Enters one deed. -/
def step (ledger : Ledger) : Deed → Ledger
  | .act (.acquire n) =>
    match ledger.family? n with
    | none => ledger
    | some family => { ledger with guards := ledger.guards ++ [some family] }
  | .act (.drop n) => { ledger with guards := ledger.guards.set n none }
  | .act (.clone n) =>
    match ledger.family? n with
    | none => ledger
    | some family => { ledger with indicators := ledger.indicators ++ [some family] }
  | .act (.create hooked) =>
    { ledger with
      hooks := ledger.hooks ++ [hooked]
      indicators := ledger.indicators ++ [some ledger.hooks.length] }
  | .discard n => { ledger with indicators := ledger.indicators.set n none }

def after (deeds : List Deed) : Ledger := deeds.foldl step empty

/-- How many guards of a family are alive. -/
def live (ledger : Ledger) (family : Nat) : Nat := ledger.guards.count (some family)

/-- The family whose guards become more or fewer by a deed. -/
def concerned? (ledger : Ledger) : Deed → Option Nat
  | .act (.acquire n) => ledger.family? n
  | .act (.drop n) => ledger.guards[n]?.join
  | .act (.clone _) | .act (.create _) | .discard _ => none

/-- Whether any guard of the family was alive, from the beginning on and after each deed. -/
def history (family : Nat) (deeds : List Deed) : List Bool :=
  deeds.inits.map fun before => decide (0 < (after before).live family)

/-! ### What a deed enters -/

theorem after_concat (deeds : List Deed) (deed : Deed) :
    after (deeds ++ [deed]) = (after deeds).step deed := by
  simp [after]

variable {ledger : Ledger}

theorem live_append (family other : Nat) :
    live { ledger with guards := ledger.guards ++ [some family] } other =
      ledger.live other + if Indicator.mk family = ⟨other⟩ then 1 else 0 := by
  simp [live, List.count_singleton]

/-- A guard that is dropped was one of those alive. -/
theorem live_set {n family : Nat} (at_n : ledger.guards[n]? = some (some family)) (other : Nat) :
    ledger.live other = live { ledger with guards := ledger.guards.set n none } other +
      if Indicator.mk family = ⟨other⟩ then 1 else 0 := by
  obtain ⟨short, at_n⟩ := List.getElem?_eq_some_iff.mp at_n
  have among : ledger.guards[n] = some other → 0 < ledger.guards.count (some other) :=
    fun same => List.count_pos_iff.mpr (same ▸ List.getElem_mem short)
  rw [at_n, Option.some.injEq] at among
  unfold live
  rw [List.count_set short, at_n]
  by_cases same : family = other
  · have := among same
    simp [same]
    omega
  · simp [same]

/-- To drop what is not there changes nothing. -/
theorem set_none {n : Nat} (nobody : ledger.guards[n]?.join = none) :
    { ledger with guards := ledger.guards.set n none } = ledger := by
  have same : ledger.guards.set n none = ledger.guards := by
    refine List.ext_getElem? fun k => ?_
    rw [List.getElem?_set]
    by_cases here : n = k
    · subst here
      cases at_n : ledger.guards[n]? with
      | none => simp [List.getElem?_eq_none_iff.mp at_n]
      | some guard =>
        rw [at_n, Option.join_some] at nobody
        obtain ⟨short, -⟩ := List.getElem?_eq_some_iff.mp at_n
        simp [short, nobody]
    · simp [here]
  rw [same]

theorem history_concat (family : Nat) (deeds : List Deed) (deed : Deed) :
    history family (deeds ++ [deed]) =
      history family deeds ++ [decide (0 < (after (deeds ++ [deed])).live family)] := by
  simp [history, List.inits_append]

theorem history_getLastD (family : Nat) (deeds : List Deed) :
    (history family deeds).getLastD false = decide (0 < (after deeds).live family) := by
  induction deeds using List.reverseRecOn with
  | nil => rfl
  | append_singleton deeds deed _ => rw [history_concat, List.getLastD_concat]

/-- A change makes one more entry. -/
theorem changes_history_concat (family : Nat) (deeds : List Deed) (deed : Deed) :
    let now := decide (0 < (after (deeds ++ [deed])).live family)
    changes false (history family (deeds ++ [deed])) = changes false (history family deeds) ++
      if now = decide (0 < (after deeds).live family) then [] else [now] := by
  rw [history_concat, changes_append, history_getLastD]

theorem family?_append (hooks : List Bool) (family : Option Nat) (guards : List (Option Nat))
    (k : Nat) :
    family? ⟨hooks, ledger.indicators ++ [family], guards⟩ k =
      if k = ledger.indicators.length then family else ledger.family? k := by
  unfold family?
  rcases Nat.lt_trichotomy k ledger.indicators.length with old | here | none
  · rw [List.getElem?_append_left old, if_neg (Nat.ne_of_lt old)]
  · simp [here]
  · rw [List.getElem?_eq_none (by simp; omega), if_neg (Nat.ne_of_gt none),
      List.getElem?_eq_none (Nat.le_of_lt none)]

theorem family?_set (n k : Nat) :
    family? { ledger with indicators := ledger.indicators.set n none } k =
      if n = k then none else ledger.family? k := by
  unfold family?
  rw [List.getElem?_set]
  split
  · split <;> rfl
  · rfl

theorem mem_of_family? {n family : Nat} (has : ledger.family? n = some family) :
    some family ∈ ledger.indicators :=
  List.mem_of_getElem? (Option.join_eq_some_iff.mp has)

end Ledger

/-! ## Desk and ledger -/

theorem Board.holds_append {board : Board} {i : Indicator} {hooked : Bool} {taken : Nat}
    (h : board.Holds i hooked taken) (more : Board) :
    Board.Holds (board ++ more) i hooked taken := by
  have same : Board.counter (board ++ more) i = board.counter i := by
    unfold Board.counter
    rw [List.getElem?_append_left h.here]
  exact ⟨by rw [List.length_append]; exact Nat.lt_add_right _ h.here, by rw [same]; exact h.count,
    by rw [same]; exact h.told⟩

namespace Desk

variable {desk : Desk} {ledger : Ledger}

/-! ### What a deed does to the desk -/

theorem step_acquire (desk : Desk) (n : Nat) :
    desk.step (.act (.acquire n)) =
      match desk.indicator? n with
      | none => desk
      | some i => { desk with bench := { desk.bench with
          board := desk.bench.board.modify i.place .acquire
          guards := desk.bench.guards ++ [some ⟨i⟩] } } := by
  by_cases gone : n ∈ desk.gone
  · simp [step, allows, indicator?, gone]
  · cases at_n : desk.bench.indicators[n]? <;>
      simp [step, allows, indicator?, gone, at_n, Bench.step, Board.acquire]

theorem step_clone (desk : Desk) (n : Nat) :
    desk.step (.act (.clone n)) =
      match desk.indicator? n with
      | none => desk
      | some i => { desk with bench := { desk.bench with
          indicators := desk.bench.indicators ++ [i] } } := by
  by_cases gone : n ∈ desk.gone
  · simp [step, allows, indicator?, gone]
  · cases at_n : desk.bench.indicators[n]? <;>
      simp [step, allows, indicator?, gone, at_n, Bench.step]

theorem step_drop (desk : Desk) (n : Nat) :
    desk.step (.act (.drop n)) =
      match desk.bench.guards[n]?.join with
      | none => desk
      | some g => { desk with bench := { desk.bench with
          board := desk.bench.board.modify g.indicator.place .release
          guards := desk.bench.guards.set n none } } := by
  rcases at_n : desk.bench.guards[n]? with _ | _ | g <;>
    simp [step, allows, Bench.step, at_n, Board.release]

theorem step_create (desk : Desk) (hooked : Bool) :
    desk.step (.act (.create hooked)) = { desk with bench := { desk.bench with
      board := desk.bench.board ++ [.fresh hooked]
      indicators := desk.bench.indicators ++ [⟨desk.bench.board.length⟩] } } := rfl

/-- The desk is as the ledger has it. -/
structure Agrees (desk : Desk) (ledger : Ledger) : Prop where
  indicators : ∀ n, desk.indicator? n = (ledger.family? n).map Indicator.mk
  guards : desk.bench.guards = ledger.guards.map (Option.map fun family => ⟨⟨family⟩⟩)
  counters : ∀ family hooked, ledger.hooks[family]? = some hooked →
    desk.bench.board.Holds ⟨family⟩ hooked (ledger.live family)
  /-- Nobody belongs to a family that is yet to come. -/
  founded : ∀ family, some family ∈ ledger.indicators ∨ some family ∈ ledger.guards →
    family < ledger.hooks.length
  places : desk.bench.board.length = ledger.hooks.length
  made : desk.bench.indicators.length = ledger.indicators.length
  /-- Only what was made is gone. -/
  known : ∀ n ∈ desk.gone, n < desk.bench.indicators.length

theorem agrees_empty : empty.Agrees Ledger.empty where
  indicators := fun _ => rfl
  guards := rfl
  counters := fun _ _ has => nomatch has
  founded := fun _ has => by rcases has with has | has <;> cases has
  places := rfl
  made := rfl
  known := fun _ has => nomatch has

theorem agrees_acquire (agrees : desk.Agrees ledger) (n : Nat) :
    (desk.step (.act (.acquire n))).Agrees (ledger.step (.act (.acquire n))) := by
  rw [step_acquire, agrees.indicators, Ledger.step]
  cases has : ledger.family? n with
  | none => exact agrees
  | some family =>
    refine { agrees with guards := ?_, counters := ?_, founded := ?_, places := ?_ }
    · simp [agrees.guards]
    · intro other hooked founded
      have held := Board.holds_acquire (agrees.counters other hooked founded) ⟨family⟩
      rwa [← Ledger.live_append] at held
    · intro other has'
      rw [List.mem_append, List.mem_singleton, Option.some.injEq, ← or_assoc] at has'
      rcases has' with before | rfl
      · exact agrees.founded other before
      · exact agrees.founded other (.inl (Ledger.mem_of_family? has))
    · simp [agrees.places]

/-- A guard that is alive holds a slot of its family. -/
theorem guard_of_agrees (agrees : desk.Agrees ledger) (n : Nat) :
    desk.bench.guards[n]?.join = ledger.guards[n]?.join.map fun family => ⟨⟨family⟩⟩ := by
  rw [agrees.guards, List.getElem?_map]
  rcases ledger.guards[n]? with _ | _ | family <;> rfl

theorem agrees_drop (agrees : desk.Agrees ledger) (n : Nat) :
    (desk.step (.act (.drop n))).Agrees (ledger.step (.act (.drop n))) := by
  rw [step_drop, guard_of_agrees agrees, Ledger.step]
  cases has : ledger.guards[n]?.join with
  | none =>
    rw [Ledger.set_none has]
    exact agrees
  | some family =>
    have at_n := Option.join_eq_some_iff.mp has
    refine { agrees with guards := ?_, counters := ?_, founded := ?_, places := ?_ }
    · simp [agrees.guards, List.map_set]
    · intro other hooked founded
      have held := agrees.counters other hooked founded
      rw [Ledger.live_set at_n] at held
      exact Board.holds_release held
    · intro other has'
      refine agrees.founded other (has'.imp_right fun after => ?_)
      rcases List.mem_or_eq_of_mem_set after with before | none
      · exact before
      · cases none
    · simp [agrees.places]

/-- One more indicator of some family, next on desk and ledger. -/
theorem indicator?_append (agrees : desk.Agrees ledger) (board : Board) (i : Indicator)
    (guards : List (Option Guard)) (k : Nat) :
    indicator? ⟨⟨board, desk.bench.indicators ++ [i], guards⟩, desk.gone⟩ k =
      if k = ledger.indicators.length then some i else desk.indicator? k := by
  unfold indicator?
  rw [← agrees.made]
  by_cases here : k = desk.bench.indicators.length
  · have left : k ∉ desk.gone := fun gone => absurd (agrees.known k gone) (by omega)
    simp [here ▸ left, here]
  · rcases Nat.lt_or_gt_of_ne here with old | none
    · rw [if_neg here, List.getElem?_append_left old]
    · rw [if_neg here, List.getElem?_eq_none (by simp; omega),
        List.getElem?_eq_none (Nat.le_of_lt none)]

theorem agrees_clone (agrees : desk.Agrees ledger) (n : Nat) :
    (desk.step (.act (.clone n))).Agrees (ledger.step (.act (.clone n))) := by
  rw [step_clone, agrees.indicators, Ledger.step]
  cases has : ledger.family? n with
  | none => exact agrees
  | some family =>
    refine { agrees with indicators := ?_, founded := ?_, made := ?_, known := ?_ }
    · intro k
      refine (indicator?_append agrees _ _ _ k).trans ?_
      rw [Ledger.family?_append, agrees.indicators]
      split <;> rfl
    · intro other has'
      rw [List.mem_append, List.mem_singleton, Option.some.injEq, or_right_comm] at has'
      rcases has' with before | rfl
      · exact agrees.founded other before
      · exact agrees.founded other (.inl (Ledger.mem_of_family? has))
    · simp [agrees.made]
    · intro k gone
      have before := agrees.known k gone
      have longer : k < (desk.bench.indicators ++ [Indicator.mk family]).length := by
        rw [List.length_append, List.length_singleton]
        omega
      exact longer

theorem agrees_create (agrees : desk.Agrees ledger) (hooked : Bool) :
    (desk.step (.act (.create hooked))).Agrees (ledger.step (.act (.create hooked))) := by
  rw [step_create, Ledger.step]
  refine { agrees with
    indicators := ?_, counters := ?_, founded := ?_, places := ?_, made := ?_, known := ?_ }
  · intro k
    refine (indicator?_append agrees _ _ _ k).trans ?_
    rw [Ledger.family?_append, agrees.indicators, agrees.places]
    split <;> rfl
  · intro family hooked' has
    rcases Nat.lt_trichotomy family ledger.hooks.length with old | rfl | none
    · rw [List.getElem?_append_left old] at has
      exact Board.holds_append (agrees.counters family hooked' has) _
    · have nobody : ledger.live ledger.hooks.length = 0 :=
        List.count_eq_zero.mpr fun has => absurd (agrees.founded _ (.inr has)) (Nat.lt_irrefl _)
      obtain rfl : hooked = hooked' := by simpa using has
      show Board.Holds _ _ _ (ledger.live ledger.hooks.length)
      rw [nobody]
      exact Board.holds_fresh (by simp [← agrees.places])
    · rw [List.getElem?_eq_none (by simp; omega)] at has
      cases has
  · intro family has
    rw [List.length_append]
    rw [List.mem_append, List.mem_singleton, Option.some.injEq, or_right_comm] at has
    rcases has with before | rfl
    · exact Nat.lt_add_right _ (agrees.founded family before)
    · exact Nat.lt_succ_self _
  · simp [agrees.places]
  · simp [agrees.made]
  · intro k gone
    have before := agrees.known k gone
    simp only [List.length_append, List.length_singleton]
    omega

theorem agrees_discard (agrees : desk.Agrees ledger) (n : Nat) :
    (desk.step (.discard n)).Agrees (ledger.step (.discard n)) := by
  have founded : ∀ family, some family ∈ ledger.indicators.set n none ∨
      some family ∈ ledger.guards → family < ledger.hooks.length := by
    intro family has
    refine agrees.founded family (has.imp_left fun after => ?_)
    rcases List.mem_or_eq_of_mem_set after with before | none
    · exact before
    · cases none
  rw [step, Ledger.step]
  split
  · next short =>
    refine { agrees with indicators := ?_, founded := founded, made := ?_, known := ?_ }
    · intro k
      have old := agrees.indicators k
      rw [Ledger.family?_set]
      unfold indicator? at old ⊢
      by_cases same : n = k
      · simp [same]
      · simpa [same, Ne.symm same] using old
    · simp [agrees.made]
    · intro k gone
      rcases List.mem_cons.mp gone with rfl | gone
      · exact short
      · exact agrees.known k gone
  · next long =>
    rw [List.set_eq_of_length_le (by rw [← agrees.made]; omega)]
    exact agrees

/-- **Every deed keeps desk and ledger in agreement.** -/
theorem step_agrees (agrees : desk.Agrees ledger) (deed : Deed) :
    (desk.step deed).Agrees (ledger.step deed) := by
  cases deed with
  | act act =>
    cases act with
    | acquire n => exact agrees_acquire agrees n
    | drop n => exact agrees_drop agrees n
    | clone n => exact agrees_clone agrees n
    | create hooked => exact agrees_create agrees hooked
  | discard n => exact agrees_discard agrees n

theorem after_concat (deeds : List Deed) (deed : Deed) :
    after (deeds ++ [deed]) = (after deeds).step deed := by
  simp [after]

theorem after_agrees (deeds : List Deed) : (after deeds).Agrees (Ledger.after deeds) := by
  induction deeds using List.reverseRecOn with
  | nil => exact agrees_empty
  | append_singleton deeds deed ih =>
    rw [after_concat, Ledger.after_concat]
    exact step_agrees ih deed

/-! ### What a deed does to one family -/

variable {family : Nat}

/-- A deed acts on the counter of the family it concerns, and on no other. -/
theorem counter_step (agrees : desk.Agrees ledger) (founded : family < ledger.hooks.length)
    (deed : Deed) :
    (desk.step deed).counter family =
      if ledger.concerned? deed = some family then deed.alter (desk.counter family)
      else desk.counter family := by
  have here : (⟨family⟩ : Indicator).place < desk.bench.board.length := agrees.places ▸ founded
  cases deed with
  | act act =>
    cases act with
    | acquire n =>
      rw [step_acquire, agrees.indicators, Ledger.concerned?]
      cases ledger.family? n with
      | none => rfl
      | some other =>
        refine (Board.counter_modify Counter.acquire ⟨other⟩ here).trans ?_
        simp only [Indicator.mk.injEq, Option.some.injEq]
        rfl
    | drop n =>
      rw [step_drop, guard_of_agrees agrees, Ledger.concerned?]
      cases ledger.guards[n]?.join with
      | none => rfl
      | some other =>
        refine (Board.counter_modify Counter.release ⟨other⟩ here).trans ?_
        simp only [Indicator.mk.injEq, Option.some.injEq]
        rfl
    | clone n =>
      rw [step_clone, Ledger.concerned?]
      cases desk.indicator? n <;> rfl
    | create hooked =>
      show Board.counter (desk.bench.board ++ [.fresh hooked]) ⟨family⟩ = _
      unfold Board.counter
      rw [List.getElem?_append_left here]
      rfl
  | discard n =>
    rw [step]
    split <;> rfl

/-- The hook of a family is told what the deeds of the family change, and nothing else. -/
theorem tells_step (agrees : desk.Agrees ledger) (founded : family < ledger.hooks.length)
    (deed : Deed) : (desk.counter family).Tells ((desk.step deed).counter family) := by
  rw [counter_step agrees founded]
  split
  · exact deed.tells_alter _
  · exact Counter.tells_refl _

/-- Only what makes a new indicator founds a family. -/
theorem hooks_step (ledger : Ledger) (deed : Deed) :
    (∃ hooked, deed = .act (.create hooked)) ∨ (ledger.step deed).hooks = ledger.hooks := by
  cases deed with
  | act act =>
    cases act with
    | acquire n | clone n =>
      right
      rw [Ledger.step]
      split <;> rfl
    | drop n => exact .inr rfl
    | create hooked => exact .inl ⟨hooked, rfl⟩
  | discard n => exact .inr rfl

/-- Nobody holds a slot of a family that is yet to come. -/
theorem live_of_yet (agrees : desk.Agrees ledger) (yet : ledger.hooks.length ≤ family) :
    ledger.live family = 0 :=
  List.count_eq_zero.mpr fun has =>
    absurd (agrees.founded family (.inr has)) (Nat.not_lt.mpr yet)

/-- A family is founded with a fresh counter. -/
theorem step_of_yet (agrees : desk.Agrees ledger) (yet : ledger.hooks.length ≤ family)
    (deed : Deed) :
    (ledger.step deed).live family = 0 ∧ ∀ hooked,
      (ledger.step deed).hooks[family]? = some hooked →
        (desk.step deed).counter family = .fresh hooked := by
  rcases hooks_step ledger deed with ⟨hooked, rfl⟩ | same
  · have nobody : (ledger.step (.act (.create hooked))).live family = ledger.live family := rfl
    refine ⟨nobody.trans (live_of_yet agrees yet), fun hooked' has => ?_⟩
    rw [Ledger.step, List.getElem?_append_right yet, List.getElem?_singleton] at has
    split at has
    · obtain rfl := Option.some.inj has
      have here : family = desk.bench.board.length := by rw [agrees.places]; omega
      simp [step_create, counter, Bench.counterOf, Board.counter, here]
    · cases has
  · refine ⟨live_of_yet (step_agrees agrees deed) (same ▸ yet), fun hooked has => ?_⟩
    rw [same, List.getElem?_eq_none yet] at has
    cases has

/-- What the hook of a family was told are the changes in the family's history. There are none
before the family is founded. -/
structure Logged (deeds : List Deed) (family : Nat) : Prop where
  told : ∀ hooked, (Ledger.after deeds).hooks[family]? = some hooked →
    ((after deeds).counter family).transitions =
      if hooked then changes false (Ledger.history family deeds) else []
  yet : (Ledger.after deeds).hooks.length ≤ family →
    changes false (Ledger.history family deeds) = []

theorem logged_concat {deeds : List Deed} (logged : Logged deeds family) (deed : Deed) :
    Logged (deeds ++ [deed]) family := by
  have agrees := after_agrees deeds
  have agrees' := after_agrees (deeds ++ [deed])
  have entry := Ledger.changes_history_concat family deeds deed
  rcases Nat.lt_or_ge family (Ledger.after deeds).hooks.length with founded | yet
  · have same : (Ledger.after (deeds ++ [deed])).hooks[family]? =
        (Ledger.after deeds).hooks[family]? := by
      rw [Ledger.after_concat]
      rcases hooks_step (Ledger.after deeds) deed with ⟨hooked, rfl⟩ | same
      · exact List.getElem?_append_left founded
      · rw [same]
    refine ⟨fun hooked has => ?_, fun yet => ?_⟩
    · have holds := agrees.counters family hooked (same ▸ has)
      have holds' := agrees'.counters family hooked has
      have tells := tells_step agrees founded deed
      have busy : ((after deeds).counter family).isBusy =
          decide (0 < (Ledger.after deeds).live family) := by
        rw [← holds.count]
        rfl
      have busy' : ((after (deeds ++ [deed])).counter family).isBusy =
          decide (0 < (Ledger.after (deeds ++ [deed])).live family) := by
        rw [← holds'.count]
        rfl
      rw [← after_concat, Counter.Tells, busy, busy', logged.told hooked (same ▸ has),
        show ((after deeds).counter family).hooked = hooked from holds.told.same] at tells
      rw [tells, entry]
      cases hooked with
      | false => simp
      | true => simp [ite_not]
    · rw [← List.getElem?_eq_none_iff, same, List.getElem?_eq_none_iff] at yet
      omega
  · obtain ⟨nobody, fresh⟩ := step_of_yet agrees yet deed
    rw [← Ledger.after_concat] at nobody fresh
    have none : changes false (Ledger.history family (deeds ++ [deed])) = [] := by
      simp [entry, nobody, live_of_yet agrees yet, logged.yet yet]
    refine ⟨fun hooked has => ?_, fun _ => none⟩
    rw [after_concat, fresh hooked has, none]
    cases hooked <;> rfl

theorem after_logged (deeds : List Deed) (family : Nat) : Logged deeds family := by
  induction deeds using List.reverseRecOn with
  | nil => exact ⟨fun _ has => (nomatch has), fun _ => rfl⟩
  | append_singleton deeds deed ih => exact logged_concat ih deed

/-- Without discarding, a desk is a bench. -/
theorem bench_of_acts (desk : Desk) (acts : List Act) (all : desk.gone = []) :
    (acts.map Deed.act).foldl step desk = ⟨desk.bench.run acts, []⟩ := by
  induction acts generalizing desk with
  | nil => cases desk; cases all; rfl
  | cons act acts ih =>
    have allowed : desk.allows act = true := by
      cases act <;> simp [allows, all]
    have stepped : desk.step (.act act) = ⟨desk.bench.step act, []⟩ := by
      rw [step, if_pos allowed, all]
    rw [List.map_cons, List.foldl_cons, stepped]
    exact ih _ rfl

end Desk

/-! ## Families in full -/

/-- The counter of one family, after some deeds. -/
structure FamilyCounted (deeds : List Deed) (family : Nat) (hooked : Bool) : Prop where
  inFlight : ((Desk.after deeds).counter family).inFlight = (Ledger.after deeds).live family
  same : ((Desk.after deeds).counter family).hooked = hooked
  /-- One entry for each time the family passed between idle and busy. -/
  log : ((Desk.after deeds).counter family).transitions =
    if hooked then changes false (Ledger.history family deeds) else []
  alternates : Alternates ((Desk.after deeds).counter family).transitions
  even : hooked = true → (((Desk.after deeds).counter family).transitions.length % 2 = 0 ↔
    (Ledger.after deeds).live family = 0)

/-- What is true of indicators and guards after some deeds. -/
structure FamiliesCounted (deeds : List Deed) : Prop where
  /-- What can be used reads the counter of its family. -/
  indicators : ∀ n, (Desk.after deeds).indicator? n =
    ((Ledger.after deeds).family? n).map Indicator.mk
  guards : (Desk.after deeds).bench.guards =
    (Ledger.after deeds).guards.map (Option.map fun family => ⟨⟨family⟩⟩)
  founded : ∀ family,
    some family ∈ (Ledger.after deeds).indicators ∨ some family ∈ (Ledger.after deeds).guards →
      ∃ hooked, (Ledger.after deeds).hooks[family]? = some hooked
  counted : ∀ family hooked, (Ledger.after deeds).hooks[family]? = some hooked →
    FamilyCounted deeds family hooked
  taken : ∀ n family, (Ledger.after deeds).family? n = some family →
    ((Desk.after (deeds ++ [.act (.acquire n)])).counter family).inFlight =
      ((Desk.after deeds).counter family).inFlight + 1
  /-- Nothing is given back that was not taken, whatever became of the indicator. -/
  givenBack : ∀ n family, (Ledger.after deeds).guards[n]? = some (some family) →
    ((Desk.after (deeds ++ [.act (.drop n)])).counter family).inFlight + 1 =
      ((Desk.after deeds).counter family).inFlight
  others : ∀ deed family, family < (Ledger.after deeds).hooks.length →
    (Ledger.after deeds).concerned? deed ≠ some family →
      (Desk.after (deeds ++ [deed])).counter family = (Desk.after deeds).counter family
  /-- Where nothing is discarded, this is about a bench. -/
  bench : ∀ hooked acts, deeds = .act (.create hooked) :: acts.map .act →
    (Desk.after deeds).bench = (Bench.start hooked).run acts

theorem Desk.familyCounted (deeds : List Deed) {family : Nat} {hooked : Bool}
    (has : (Ledger.after deeds).hooks[family]? = some hooked) :
    FamilyCounted deeds family hooked := by
  have holds := (Desk.after_agrees deeds).counters family hooked has
  refine ⟨holds.count, holds.told.same, (Desk.after_logged deeds family).told hooked has,
    holds.told.alternates, fun listening => ?_⟩
  refine (Counter.length_of_told holds.told listening).trans ?_
  rw [Counter.isBusy, holds.count]
  simp

/-- **Each family counts its live guards.** Whatever was done, with however many indicators, the
counter of a family shows how many guards were taken through its members and not dropped, its hook was
told each change, and nothing that is done with other families touches it. -/
theorem families_counted (deeds : List Deed) : FamiliesCounted deeds := by
  have agrees := Desk.after_agrees deeds
  refine ⟨agrees.indicators, agrees.guards, fun family has => ?_,
    fun family hooked has => Desk.familyCounted deeds has, fun n family has => ?_,
    fun n family has => ?_, fun deed family founded other => ?_, fun hooked acts same => ?_⟩
  · exact ⟨_, List.getElem?_eq_getElem (agrees.founded family has)⟩
  · have founded := agrees.founded family (.inl (Ledger.mem_of_family? has))
    rw [Desk.after_concat, Desk.counter_step agrees founded, if_pos (by exact has)]
    exact Counter.acquire_inFlight _
  · have founded := agrees.founded family (.inr (List.mem_of_getElem? has))
    have alive : 0 < (Ledger.after deeds).live family :=
      List.count_pos_iff.mpr (List.mem_of_getElem? has)
    have count := (Desk.familyCounted deeds (List.getElem?_eq_getElem founded)).inFlight
    rw [Desk.after_concat, Desk.counter_step agrees founded,
      if_pos (by rw [Ledger.concerned?, has]; rfl)]
    simp only [Deed.alter, Counter.release_inFlight]
    omega
  · rw [Desk.after_concat, Desk.counter_step agrees founded, if_neg other]
  · rw [same, Desk.after, List.foldl_cons, Desk.bench_of_acts _ acts rfl]
    rfl

/-- Two families, one with a hook: a guard outlives the indicator it was taken through, a clone keeps
the family busy, and the other family takes no part. -/
example :
    let deeds : List Deed := [.act (.create true), .act (.create false), .act (.clone 0),
      .act (.acquire 0), .discard 0, .act (.acquire 2), .act (.acquire 1), .act (.drop 0),
      .act (.drop 1), .act (.acquire 0), .act (.drop 1)]
    (Desk.after deeds).counter 0 = ⟨0, true, [true, false]⟩ ∧
      (Desk.after deeds).counter 1 = ⟨1, false, []⟩ := by
  decide

end Busy

end CatalogClient
