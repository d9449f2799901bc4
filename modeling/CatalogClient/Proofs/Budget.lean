import CatalogClient.Proofs.Run
import Mathlib.Data.List.Nodup

/-!
# The budget of a run

The budget is the highest attempt number that may still be retried. It bounds the retries of a run,
and with them its attempts, as long as attempt numbers keep counting past it (`stops_past_budget`). The
greatest attempt number never does, so with the greatest budget not every run keeps to it.
-/

namespace CatalogClient

namespace Client

variable {client : Client} {request : Request} {w : World}

/-- The run ends, with no more retries than its budget leaves from its first attempt on, and with a
number of its own for each attempt. -/
def KeepsBudget (client : Client) (request : Request) (w : World) : Prop :=
  ∃ ending w' events, client.run request w = some (ending, w') ∧
    w'.journal = w.journal ++ events ∧
    retryCount events ≤ client.options.maxRetries.toNat + 1 - request.attempt.toNat ∧
    (attemptNumbers events).Nodup

/-- Attempts have numbers of their own exactly as long as the greatest number comes once. -/
theorem nodup_later_iff (a : Attempt) (k : Nat) :
    ((List.range (k + 1)).map a.later).Nodup ↔ a.toNat + k ≤ 4294967295 := by
  have bound := a.toNat_lt
  rw [List.nodup_map_iff_inj_on List.nodup_range]
  constructor
  · intro apart
    by_contra past
    -- the last two attempts both have the greatest number
    have same : a.later (k - 1) = a.later k := by
      apply UInt32.toNat_inj.mp
      rw [Attempt.toNat_later, Attempt.toNat_later]
      omega
    have := apart (k - 1) (List.mem_range.mpr (by omega)) k (List.mem_range.mpr (by omega)) same
    omega
  · intro within i hi j hj same
    have hi := List.mem_range.mp hi
    have hj := List.mem_range.mp hj
    have := congrArg UInt32.toNat same
    rw [Attempt.toNat_later, Attempt.toNat_later] at this
    omega

/-- Below the greatest attempt number, an attempt past the budget stops the run. -/
theorem stops_past_budget (below : client.options.maxRetries.toNat < 4294967295) :
    client.Stops request w (client.options.maxRetries.toNat + 1 - request.attempt.toNat) := by
  have bound := request.attempt.toNat_lt
  unfold Stops
  cases client.outcomes request w _ with
  | ok success => trivial
  | error error =>
    right
    omega

/-- Every run below the greatest budget ends. -/
theorem run_ends (below : client.options.maxRetries.toNat < 4294967295) (request : Request)
    (w : World) : ∃ ending w' events, client.run request w = some (ending, w') ∧
      w'.journal = w.journal ++ events := by
  obtain ⟨k, -, stop, before⟩ := exists_first_stop (stops_past_budget below)
  obtain ⟨w', events, ended, journal, -⟩ := run_eq_some before stop
  exact ⟨_, w', events, ended, journal⟩

/-- A run keeps to its budget if its first stop comes in time. -/
theorem keepsBudget_of_stops {k : Nat} (before : ∀ i < k, ¬ client.Stops request w i)
    (stop : client.Stops request w k)
    (few : k ≤ client.options.maxRetries.toNat + 1 - request.attempt.toNat)
    (numbered : request.attempt.toNat + k ≤ 4294967295) : client.KeepsBudget request w := by
  obtain ⟨w', events, ended, journal, -, numbers, retries⟩ := run_eq_some before stop
  refine ⟨_, w', events, ended, journal, ?_, ?_⟩
  · rw [retries]
    exact few
  · rw [numbers, nodup_later_iff]
    exact numbered

/-- A failure that may pass is no stop within the greatest budget. -/
theorem not_stops_of_transient {i : Nat} {error : FetchError}
    (greatest : client.options.maxRetries.toNat = 4294967295)
    (failed : client.outcomes request w i = .error error) (transient : error.isTransient = true) :
    ¬ client.Stops request w i := by
  unfold Stops
  rw [failed]
  rintro (lasting | past)
  · rw [transient] at lasting
    cases lasting
  · omega

/-- A run keeps to its budget while the budget is below the greatest attempt number. -/
theorem keepsBudget_of_below (below : client.options.maxRetries.toNat < 4294967295) :
    client.KeepsBudget request w := by
  have bound := request.attempt.toNat_lt
  obtain ⟨k, few, stop, before⟩ := exists_first_stop (stops_past_budget below)
  exact keepsBudget_of_stops before stop few (by omega)

/-- **Which runs keep to their budget.** All runs do while the budget is below the greatest attempt
number. With that budget a run does exactly if it succeeds, or fails for good, before its attempts
run out of numbers: past that point the number stays within the budget for ever. -/
theorem keepsBudget_iff (client : Client) (request : Request) (w : World) :
    client.KeepsBudget request w ↔
      client.options.maxRetries.toNat < 4294967295 ∨
        ∃ i, request.attempt.toNat + i ≤ 4294967295 ∧
          ∀ error, client.outcomes request w i = .error error → error.isTransient = false := by
  by_cases below : client.options.maxRetries.toNat < 4294967295
  · exact ⟨fun _ => .inl below, fun _ => keepsBudget_of_below below⟩
  have limit := client.options.maxRetries.toNat_lt
  have greatest : client.options.maxRetries.toNat = 4294967295 := by omega
  constructor
  · rintro ⟨ending, w', events, ended, journal, -, apart⟩
    obtain ⟨k, -, stop, -, numbers, -⟩ := run_result ended journal
    rw [numbers, nodup_later_iff] at apart
    refine .inr ⟨k, apart, fun error failed => ?_⟩
    by_contra transient
    exact not_stops_of_transient greatest failed (Bool.not_eq_false _ ▸ transient) stop
  · rintro (below' | ⟨i, within, lasting⟩)
    · exact absurd below' below
    · have stop : client.Stops request w i := by
        unfold Stops
        cases outcome : client.outcomes request w i with
        | ok success => trivial
        | error error => exact .inl (lasting error outcome)
      obtain ⟨k, early, stop, before⟩ := exists_first_stop stop
      exact keepsBudget_of_stops before stop (by omega) (by omega)

/-- The greatest budget at the greatest attempt number: one retry is left, and three failures are
retried all the same, under one number; a server that stays down is asked for ever. -/
theorem greatest_budget_not_kept :
    let client := sample 4294967295
    let request := sampleRequest 4294967295
    let down : Arrival := .response 503 [] "down"
    (∃ ending w' events,
      client.run request (sampleWorld (World.scripted [down, down, down])) = some (ending, w') ∧
      w'.journal = events ∧ retryCount events = 3 ∧
      attemptNumbers events = [4294967295, 4294967295, 4294967295, 4294967295]) ∧
    client.run request (sampleWorld fun _ => down) = none ∧
    ¬ client.KeepsBudget request (sampleWorld fun _ => down) := by
  intro client request down
  have stays : ∀ i, ¬ (Status.isRetryable 503 = false ∨
      (4294967295 : UInt32).toNat < min ((4294967295 : UInt32).toNat + i) 4294967295) := by
    intro i
    have number : (4294967295 : UInt32).toNat = 4294967295 := rfl
    rintro (lasting | past)
    · exact absurd lasting (by decide)
    · omega
  refine ⟨?_, ?_⟩
  · have before : ∀ i < 3, ¬ client.Stops request
        (sampleWorld (World.scripted [down, down, down])) i := by
      intro i hi
      have answer : World.scripted [down, down, down] i = .response 503 [] "down" := by
        match i, hi with
        | 0, _ | 1, _ | 2, _ => rfl
      rw [stops_sample answer rfl]
      exact stays i
    have stop : client.Stops request (sampleWorld (World.scripted [down, down, down])) 3 := by
      have answer : World.scripted [down, down, down] 3 = World.exhausted := rfl
      rw [stops_sample answer rfl]
      exact .inl rfl
    obtain ⟨w', events, ended, journal, -, numbers, retries⟩ := run_eq_some before stop
    exact ⟨_, w', events, ended, journal, retries, numbers⟩
  · have never : client.run request (sampleWorld fun _ => down) = none := by
      rw [run_eq_none_iff]
      intro i
      have answer : (fun _ : Nat => down) i = .response 503 [] "down" := rfl
      rw [stops_sample answer rfl]
      exact stays i
    refine ⟨never, ?_⟩
    rintro ⟨ending, w', events, ended, -⟩
    rw [never] at ended
    cases ended

end Client

end CatalogClient
