/-
# `SystemdMonitoring.Http.Serial` — requests one after another

Requests have the limiter in common and nothing else: everything a request asks
for besides its one decision is answered without regard to what the others have
done.  With `Lib.Serial` this gives the strongest sense in which requests do not
disturb one another: whatever the interleaving, there is an order in which they
could have been served one at a time, with the same history of each request, the
same answers of the limiter in the same order, and the same budget left
(`requests_serializable`).
-/
import SystemdMonitoring.Http.App
import SystemdMonitoring.Lib.Serial

namespace SystemdMonitoring

open Lib

instance : DecidablePred SparesLimiter := fun o =>
  inferInstanceAs (Decidable (o ≠ Sum.inr EdgeOp.checkLimiter))

variable {σ : Type}

/-- Providers that keep nothing from one operation to the next. -/
abbrev Memoryless (providers : Moment → Host ProviderSig σ) : Prop :=
  Inert (fun _ => True) providers

/-- Then whatever spares the limiter depends on nothing that has gone before. -/
theorem httpHost_inert {providers : Moment → Host ProviderSig σ} (h : Memoryless providers) :
    Inert SparesLimiter (httpHost providers) where
  answer := by
    rintro moment o ⟨limiter, s⟩ ⟨limiter', s'⟩ hspares
    rcases o with (o | o) | o
    · exact h.answer moment s s' trivial
    · cases o <;> rfl
    · cases o with
      | checkLimiter => exact absurd rfl hspares
      | _ => rfl
  state := by
    rintro moment o ⟨limiter, s⟩ hspares
    rcases o with (o | o) | o
    · exact congrArg (Prod.mk limiter) (h.state moment s trivial)
    · cases o <;> rfl
    · cases o with
      | checkLimiter => exact absurd rfl hspares
      | _ => rfl

section Requests

variable [HttpStack] [Chrono] [McpSdk] [HashOrder] [SerdeJson]

/-- A request asks the limiter once. -/
theorem buildApp_once (apiToken : String) (request : Request) :
    (buildApp apiToken request).Once SparesLimiter := by
  have hneutral : ∀ o, IsNeutral o → SparesLimiter o := fun _ h => h.1
  rw [buildApp_eq]
  refine .inl ⟨sparesLimiter_edge (by simp), ?_⟩
  intro startedAt
  refine .inr ?_
  intro decision
  exact (decided_only hneutral (router_only apiToken request) decision).bind
    (logged_only hneutral request startedAt)

theorem app_once (apiToken : String) (requests : List Request) (limiter : RateLimiter) (s : σ) :
    (app apiToken requests limiter s).Once SparesLimiter := by
  intro i p hp
  rw [app, List.getElem?_map] at hp
  obtain ⟨request, -, rfl⟩ := Option.map_eq_some_iff.mp hp
  exact buildApp_once apiToken request

/-- The limiter's decisions, in the order in which it has made them. -/
def decisionsOf (history : List (Event HttpSig Moment)) : List (Nat × Moment × Except Nat Unit) :=
  history.filterMap fun event =>
    (decisionOf event.exchange).map fun decision => (event.task, event.stamp, decision)

omit [HttpStack] [Chrono] [McpSdk] [HashOrder] [SerdeJson] in
theorem decisionsOf_sharedOf (history : List (Event HttpSig Moment)) :
    decisionsOf (sharedOf SparesLimiter history) = decisionsOf history := by
  rw [decisionsOf, decisionsOf, sharedOf, List.filterMap_filter]
  refine List.filterMap_congr ?_
  intro event hevent
  by_cases hspares : SparesLimiter event.exchange.1
  · rw [decisionOf_eq_none hspares]
    exact ite_self none
  · exact if_pos (by simpa using hspares)

/-- **Every interleaving of requests comes to the same as serving them one at a time**, in some
order of theirs and each at its own turns: every request has the same history and answer, the
limiter decides the same in the same order, and the same budget is left. -/
theorem requests_serializable (apiToken : String) (requests : List Request)
    (turns : List (Nat × Moment)) (limiter : RateLimiter)
    {providers : Moment → Host ProviderSig σ} (hproviders : Memoryless providers) (s : σ) :
    let run := (app apiToken requests limiter s).run (httpHost providers)
    ∃ order : List Nat, order.Nodup ∧ (∀ i, i ∈ order ↔ i ∈ turns.map Prod.fst)
      ∧ (run turns).2 = (run (serially order turns)).2
      ∧ (∀ i, ofTask i (run turns).1 = ofTask i (run (serially order turns)).1)
      ∧ decisionsOf (run turns).1 = decisionsOf (run (serially order turns)).1 := by
  intro run
  obtain ⟨order, hnodup, hmem, hsame⟩ := Pool.serializable (httpHost_inert hproviders)
    (app_once apiToken requests limiter s) turns
  refine ⟨order, hnodup, hmem, hsame.left, hsame.tasks, ?_⟩
  rw [← decisionsOf_sharedOf, ← decisionsOf_sharedOf (run (serially order turns)).1]
  exact congrArg decisionsOf hsame.shared

end Requests

/-- Two requests that take turns come to the same as one behind the other. -/
theorem requests_serializable_status :
    ∃ order : List Nat, order.Nodup ∧ (statusRun "running").2
      = ((@app Unit plainHttp rfc3339 plainSdk nameOrder pingJson "t" statusRequests
          (.new .default 0) ()).run (httpHost fun _ => statusHost "running")
            (serially order statusTurns)).2 := by
  have hproviders : Memoryless (fun _ => statusHost "running") :=
    { answer := fun _ _ _ _ _ => rfl, state := fun _ _ _ _ => rfl }
  obtain ⟨order, hnodup, -, hleft, -, -⟩ := @requests_serializable Unit plainHttp rfc3339 plainSdk
    nameOrder pingJson "t" statusRequests statusTurns (.new .default 0) _ hproviders ()
  exact ⟨order, hnodup, hleft⟩

end SystemdMonitoring
