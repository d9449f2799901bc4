import CatalogClient.Proofs.Budget
import CatalogClient.Proofs.Calls

/-!
# Retries by hand

A handler may issue a failed request again, as often as the failure comes back. Such a chain of runs
shares one budget: attempts are numbered through from the first run to the last, so no run gets
retries back that another one has used. What carries this is the `Tally` that each run of a chain
keeps (`tally_append`).
-/

namespace CatalogClient

/-- What a failure leaves to its handler. -/
def Ending.context? : Ending → Option ErrorContext
  | .ok _ => none
  | .error context => some context

/-- Called with a continuation and a handler, whichever they are, the activity hands this ending on,
and does no more in this world. -/
def Delivers (call : ∀ {P R : Type}, Continuation P R → P → ErrorHandler P R → Activity R)
    (w : World) (ending : Ending) (w' : World) : Prop :=
  ∀ (P R : Type) (onSuccess : Continuation P R) (param : P) (onError : ErrorHandler P R),
    call onSuccess param onError w = ending.deliver onSuccess param onError w'

/-- One run of a chain, with what is left to a handler that can go on with it. -/
structure Leg where
  events : List Event
  context? : Option ErrorContext

/-- Runs of one request, each but the first issued by hand with what the run before has left. The
server is free at each of them, and so is all that happens in between. -/
inductive Chain (client : Client) (request : Request) : List Leg → Prop
  | first {w w' : World} {ending : Ending} {events : List Event} :
    Delivers (client.dispatchWithHandler request) w ending w' →
    w'.journal = w.journal ++ events →
    Chain client request [⟨events, ending.context?⟩]
  /-- The handler hands the request back to its continuation. -/
  | resumed {legs : List Leg} {leg : Leg} {context : ErrorContext} {w w' : World} {ending : Ending}
      {events : List Event} :
    Chain client request (legs ++ [leg]) → leg.context? = some context →
    Delivers context.retryDispatch w ending w' →
    w'.journal = w.journal ++ events →
    Chain client request (legs ++ [leg] ++ [⟨events, ending.context?⟩])
  /-- The handler asks for the outcome itself, and is left with nothing to go on with. -/
  | retried {legs : List Leg} {leg : Leg} {context : ErrorContext} {w w' : World}
      {outcome : Outcome} {events : List Event} :
    Chain client request (legs ++ [leg]) → leg.context? = some context →
    context.retry w = some (outcome, w') →
    w'.journal = w.journal ++ events →
    Chain client request (legs ++ [leg] ++ [⟨events, none⟩])

/-- What all runs of a chain wrote, in order. -/
def eventsOf (legs : List Leg) : List Event := legs.flatMap Leg.events

/-- The number of the last attempt of a run. -/
def Leg.lastNumber? (leg : Leg) : Option Attempt := (attemptNumbers leg.events).getLast?

/-- The runs of a chain have one budget together. -/
structure SharesBudget (client : Client) (request : Request) (legs : List Leg) : Prop where
  /-- Attempts are numbered through. -/
  numbers : ∀ i number, (attemptNumbers (eventsOf legs))[i]? = some number →
    number.toNat = min (request.attempt.toNat + i) 4294967295
  retries : retryCount (eventsOf legs) ≤ client.options.maxRetries.toNat + 1 - request.attempt.toNat
  /-- Past the budget each further run makes one attempt. -/
  single : legs.Pairwise fun earlier later =>
    ∀ number, earlier.lastNumber? = some number → client.options.maxRetries.toNat < number.toNat →
      (attemptNumbers later.events).length = 1
  /-- What is left to a handler is the request as it was given, but for the number of its last
  attempt. -/
  contexts : ∀ leg ∈ legs, ∀ context, leg.context? = some context →
    context.client = client ∧
    context.request = { request with attempt := context.request.attempt } ∧
    leg.lastNumber? = some context.request.attempt
  /-- Whatever the server does, either way to go on comes to an end. -/
  goesOn : ∀ leg ∈ legs, ∀ context, leg.context? = some context → ∀ w : World,
    (∃ ending w' events, Delivers context.retryDispatch w ending w' ∧
      w'.journal = w.journal ++ events) ∧
    ∃ outcome w' events, context.retry w = some (outcome, w') ∧ w'.journal = w.journal ++ events

namespace Client

variable {client : Client} {request : Request} {w w' : World} {ending : Ending}
  {events : List Event} {legs : List Leg}

/-! ## What is handed on -/

/-- What is handed on is the end of the run. -/
theorem delivers_dispatchWithHandler_iff :
    Delivers (client.dispatchWithHandler request) w ending w' ↔
      client.run request w = some (ending, w') := by
  constructor
  · intro handed
    -- a continuation and a handler that give back whatever they are handed
    have given := handed Unit Ending (fun success _ => pure (.ok success)) ()
      (fun context _ _ => pure (.error context))
    have back : ∀ (ending : Ending) (w : World), ending.deliver
        (fun success _ => (pure (.ok success) : Activity Ending)) ()
        (fun context _ _ => pure (.error context)) w = some (ending, w) := by
      intro ending w
      cases ending <;> rfl
    simp only [dispatchWithHandler_apply, back] at given
    rw [← given]
    exact (Option.bind_fun_some _).symm
  · intro ended P R onSuccess param onError
    show client.dispatchWithHandler request onSuccess param onError w = _
    rw [dispatchWithHandler_apply, ended]
    rfl

theorem delivers_retryDispatch_iff {context : ErrorContext} :
    Delivers context.retryDispatch w ending w' ↔
      context.client.run context.request.nextAttempt w = some (ending, w') :=
  delivers_dispatchWithHandler_iff

/-! ## One run of a chain -/

/-- An attempt that gives way to another one is within the budget. -/
theorem within_budget_of_not_stops {i : Nat} (more : ¬ client.Stops request w i) :
    min (request.attempt.toNat + i) 4294967295 ≤ client.options.maxRetries.toNat :=
  (transient_of_not_isLast more).2

theorem context?_endingOf {outcome : Outcome} {context : ErrorContext}
    (left : (client.endingOf request outcome).context? = some context) :
    context.client = client ∧ context.request = request := by
  cases outcome with
  | ok success => cases left
  | error error =>
    obtain rfl := Option.some.inj left
    exact ⟨rfl, rfl⟩

/-! ## The tally of a chain -/

/-- What a chain comes to that made so many attempts in all. -/
structure Tally (client : Client) (request : Request) (legs : List Leg) (made : Nat) : Prop where
  numbers : attemptNumbers (eventsOf legs) = (List.range made).map request.attempt.later
  few : retryCount (eventsOf legs) ≤ made
  retries : retryCount (eventsOf legs) ≤ client.options.maxRetries.toNat + 1 - request.attempt.toNat
  single : legs.Pairwise fun earlier later =>
    ∀ number, earlier.lastNumber? = some number → client.options.maxRetries.toNat < number.toNat →
      (attemptNumbers later.events).length = 1
  contexts : ∀ leg ∈ legs, ∀ context, leg.context? = some context → context.client = client ∧
    ∃ i, context.request = request.later i ∧ leg.lastNumber? = some (request.attempt.later i)
  /-- The last run leaves the request at the last attempt made. -/
  next : ∀ leg context, legs.getLast? = some leg → leg.context? = some context →
    context.request.nextAttempt = request.later made

theorem tally_nil : client.Tally request [] 0 where
  numbers := rfl
  few := Nat.le_refl 0
  retries := Nat.zero_le _
  single := .nil
  contexts := fun _ h => absurd h List.not_mem_nil
  next := fun _ _ h => nomatch h

theorem eventsOf_append (legs : List Leg) (leg : Leg) :
    eventsOf (legs ++ [leg]) = eventsOf legs ++ leg.events := by
  simp [eventsOf]

/-- The numbers of a run of a chain are among those of the chain. -/
theorem number_le_of_tally {made : Nat} (tally : client.Tally request legs made) {leg : Leg}
    (mem : leg ∈ legs) {number : Attempt} (last : leg.lastNumber? = some number) :
    number.toNat ≤ (request.attempt.later made).toNat := by
  have among : number ∈ attemptNumbers (eventsOf legs) := by
    obtain ⟨event, h, told⟩ := List.mem_filterMap.mp (List.mem_of_getLast? last)
    exact List.mem_filterMap.mpr ⟨event, List.mem_flatMap.mpr ⟨leg, mem, h⟩, told⟩
  rw [tally.numbers] at among
  obtain ⟨i, hi, rfl⟩ := List.mem_map.mp among
  have hi := List.mem_range.mp hi
  rw [Attempt.toNat_later, Attempt.toNat_later]
  omega

/-- One more run keeps the tally. It takes up the numbers where the last one left them, so its
retries come out of what is left of the budget. -/
theorem tally_append (below : client.options.maxRetries.toNat < 4294967295) {made : Nat}
    (tally : client.Tally request legs made) {context? : Option ErrorContext}
    (ended : client.run (request.later made) w = some (ending, w'))
    (journal : w'.journal = w.journal ++ events)
    (left : ∀ context, context? = some context → ending.context? = some context) :
    ∃ k, client.Tally request (legs ++ [⟨events, context?⟩]) (made + (k + 1)) := by
  obtain ⟨k, before, -, rfl, numbers, retries⟩ := run_result ended journal
  have shifted : ∀ i, (request.later made).attempt.later i = request.attempt.later (made + i) :=
    fun i => request.attempt.later_later made i
  have last : (⟨events, context?⟩ : Leg).lastNumber? = some (request.attempt.later (made + k)) := by
    simp [Leg.lastNumber?, numbers, shifted, List.range_succ]
  -- the last attempt before the stop is within the budget, and counts all retries of the chain
  have spent : k = 0 ∨ made + k ≤ client.options.maxRetries.toNat + 1 - request.attempt.toNat := by
    cases k with
    | zero => exact .inl rfl
    | succ k =>
      have within := within_budget_of_not_stops (before k (Nat.lt_succ_self k))
      rw [Request.toNat_attempt_later] at within
      right
      omega
  refine ⟨k, ⟨?_, ?_, ?_, ?_, ?_, ?_⟩⟩
  · rw [eventsOf_append, attemptNumbers_append, tally.numbers, numbers]
    rw [@List.range_add made (k + 1), List.map_append, List.map_map]
    exact congrArg _ (List.map_congr_left fun i _ => shifted i)
  · rw [eventsOf_append, retryCount_append, retries]
    have := tally.few
    omega
  · rw [eventsOf_append, retryCount_append, retries]
    have := tally.few
    have := tally.retries
    omega
  · refine List.pairwise_append.mpr ⟨tally.single, List.pairwise_singleton _ _, ?_⟩
    intro earlier mem later only number final past
    obtain rfl := List.mem_singleton.mp only
    have reached := number_le_of_tally tally mem final
    have none_before : k = 0 := by
      by_contra some_before
      have within := within_budget_of_not_stops (before 0 (by omega))
      change min ((request.attempt.later made).toNat + 0) 4294967295 ≤ _ at within
      omega
    simp [numbers, none_before]
  · intro leg mem context held
    rcases List.mem_append.mp mem with mem | mem
    · exact tally.contexts leg mem context held
    · obtain rfl := List.mem_singleton.mp mem
      obtain ⟨same, from_last⟩ := context?_endingOf (left context held)
      refine ⟨same, made + k, ?_, last⟩
      rw [from_last, Request.later_later]
  · intro leg context final held
    rw [List.getLast?_concat] at final
    obtain rfl := Option.some.inj final
    obtain ⟨-, from_last⟩ := context?_endingOf (left context held)
    rw [from_last, Request.later_nextAttempt, Request.later_later]

theorem exists_tally (below : client.options.maxRetries.toNat < 4294967295)
    (chain : Chain client request legs) : ∃ made, client.Tally request legs made := by
  induction chain with
  | first handed journal =>
    have ended := delivers_dispatchWithHandler_iff.mp handed
    rw [← request.later_zero] at ended
    obtain ⟨k, tally⟩ := tally_append below tally_nil ended journal (fun _ held => held)
    exact ⟨_, tally⟩
  | @resumed legs leg context _ _ _ _ _ held handed journal ih =>
    obtain ⟨made, tally⟩ := ih
    have same := (tally.contexts leg (by simp) context held).1
    have next := tally.next leg context List.getLast?_concat held
    have ended := delivers_retryDispatch_iff.mp handed
    rw [same, next] at ended
    obtain ⟨k, tally⟩ := tally_append below tally ended journal (fun _ held => held)
    exact ⟨_, tally⟩
  | @retried legs leg context _ _ _ _ _ held outcome journal ih =>
    obtain ⟨made, tally⟩ := ih
    have same := (tally.contexts leg (by simp) context held).1
    have next := tally.next leg context List.getLast?_concat held
    rw [ErrorContext.retry, execute_apply, same, next] at outcome
    obtain ⟨⟨ending, w'⟩, ended, rest⟩ := Option.map_eq_some_iff.mp outcome
    obtain ⟨-, rfl⟩ := Prod.mk.inj rest
    have nothing : ∀ context, none = some context → ending.context? = some context :=
      fun _ held => nomatch held
    obtain ⟨k, tally⟩ := tally_append below tally ended journal nothing
    exact ⟨_, tally⟩

/-! ## Chains in full -/

theorem sharesBudget_of_tally (below : client.options.maxRetries.toNat < 4294967295) {made : Nat}
    (tally : client.Tally request legs made) : SharesBudget client request legs where
  numbers := by
    intro i number at_i
    rw [tally.numbers, List.getElem?_map] at at_i
    obtain ⟨j, at_j, rfl⟩ := Option.map_eq_some_iff.mp at_i
    obtain ⟨_, rfl⟩ := List.getElem?_eq_some_iff.mp at_j
    rw [List.getElem_range, Attempt.toNat_later]
  retries := tally.retries
  single := tally.single
  contexts := by
    intro leg mem context held
    obtain ⟨same, i, at_last, last⟩ := tally.contexts leg mem context held
    rw [at_last]
    exact ⟨same, rfl, last⟩
  goesOn := by
    intro leg mem context held w
    have same := (tally.contexts leg mem context held).1
    obtain ⟨ending, w', events, ended, journal⟩ := run_ends below context.request.nextAttempt w
    rw [← same] at ended
    refine ⟨⟨ending, w', events, delivers_retryDispatch_iff.mpr ended, journal⟩,
      ending.outcome, w', events, ?_, journal⟩
    rw [ErrorContext.retry, execute_apply, ended]
    rfl

/-- **Retries by hand share the budget.** Below the greatest budget a request comes to an end, and
whatever is done with its failures, all attempts of the chain are numbered through, and all its
automatic retries together keep to what the budget leaves from the first attempt on. -/
theorem chain_shares_budget (client : Client) (request : Request)
    (below : client.options.maxRetries.toNat < 4294967295) :
    (∀ w, ∃ ending w' events, Delivers (client.dispatchWithHandler request) w ending w' ∧
      w'.journal = w.journal ++ events) ∧
    ∀ legs, Chain client request legs → SharesBudget client request legs := by
  constructor
  · intro w
    obtain ⟨ending, w', events, ended, journal⟩ := run_ends below request w
    exact ⟨ending, w', events, delivers_dispatchWithHandler_iff.mpr ended, journal⟩
  · intro legs chain
    obtain ⟨made, tally⟩ := exists_tally below chain
    exact sharesBudget_of_tally below tally

/-- A run against a server that stays down, up to its first attempt past a budget of one. -/
theorem run_sample_down (attempt : Attempt) {k : Nat}
    (within : ∀ i < k, min (attempt.toNat + i) 4294967295 ≤ 1)
    (past : 1 < min (attempt.toNat + k) 4294967295) :
    let w := sampleWorld fun _ => .response 503 [] "down"
    ∃ error w' events, (sample 1).run (sampleRequest attempt) w =
        some (.error ⟨error, (sampleRequest attempt).later k, sample 1⟩, w') ∧
      w'.journal = w.journal ++ events ∧
      attemptNumbers events = (List.range (k + 1)).map attempt.later ∧ retryCount events = k := by
  intro w
  have answer : ∀ i, (fun _ : Nat => Arrival.response 503 [] "down") i = .response 503 [] "down" :=
    fun _ => rfl
  have before : ∀ i < k, ¬ (sample 1).Stops (sampleRequest attempt) w i := by
    intro i hi
    rw [stops_sample (answer i) rfl]
    rintro (lasting | beyond)
    · exact absurd lasting (by decide)
    · exact absurd beyond (Nat.not_lt.mpr (within i hi))
  have stop : (sample 1).Stops (sampleRequest attempt) w k := by
    rw [stops_sample (answer k) rfl]
    exact .inr past
  obtain ⟨w', events, ended, journal, -, numbers, retries⟩ := run_eq_some before stop
  rw [outcomes_sample 1 attempt (answer k) rfl] at ended
  exact ⟨_, w', events, ended, journal, numbers, retries⟩

/-- Two attempts use up a budget of one; the two runs issued by hand make one each. -/
theorem chain_shares_budget_three_runs :
    (sample 1).options.maxRetries.toNat < 4294967295 ∧
    ∃ legs, Chain (sample 1) (sampleRequest 1) legs ∧ legs.length = 3 ∧
      attemptNumbers (eventsOf legs) = [1, 2, 3, 4] ∧ retryCount (eventsOf legs) = 1 ∧
      SharesBudget (sample 1) (sampleRequest 1) legs := by
  have below : (sample 1).options.maxRetries.toNat < 4294967295 := by decide
  obtain ⟨error₁, w₁, events₁, ended₁, journal₁, numbers₁, retries₁⟩ :=
    @run_sample_down 1 1 (by decide) (by decide)
  obtain ⟨error₂, w₂, events₂, ended₂, journal₂, numbers₂, retries₂⟩ :=
    @run_sample_down 3 0 (by decide) (by decide)
  obtain ⟨error₃, w₃, events₃, ended₃, journal₃, numbers₃, retries₃⟩ :=
    @run_sample_down 4 0 (by decide) (by decide)
  have next₁ : ((sampleRequest 1).later 1).nextAttempt = sampleRequest 3 := by
    rw [Request.later_nextAttempt]
    rfl
  have next₂ : ((sampleRequest 3).later 0).nextAttempt = sampleRequest 4 := by
    rw [Request.later_nextAttempt]
    rfl
  rw [← next₁] at ended₂
  have outcome₃ : ErrorContext.retry ⟨error₂, (sampleRequest 3).later 0, sample 1⟩
      (sampleWorld fun _ => .response 503 [] "down") = some (.error error₃, w₃) := by
    rw [ErrorContext.retry, execute_apply, next₂, ended₃]
    rfl
  -- the budget of one is used up by the first run
  have first : Chain (sample 1) (sampleRequest 1) ([] ++ [⟨events₁, some _⟩]) :=
    Chain.first (delivers_dispatchWithHandler_iff.mpr ended₁) journal₁
  have second := first.resumed rfl (delivers_retryDispatch_iff.mpr ended₂) journal₂
  have third := second.retried rfl outcome₃ journal₃
  refine ⟨below, _, third, rfl, ?_, ?_, (chain_shares_budget _ _ below).2 _ third⟩
  · simp only [eventsOf_append, attemptNumbers_append, numbers₁, numbers₂, numbers₃]
    rfl
  · simp only [eventsOf_append, retryCount_append, retries₁, retries₂, retries₃]
    rfl

end Client

end CatalogClient
