/-
# `SystemdMonitoring.Provider` — the providers that run in production

`fulfil` answers each provider operation by the program of the real provider;
`serve` runs a handler on those.  A handler that responds to one operation runs
that operation's program and then the rest (`run_serve_respond`).

Of what a call does, `hostWork` is the part that is done on the host: D-Bus,
journal and `podman` operations, neither the clock nor the audit log.
-/
import SystemdMonitoring.Podman.Client
import SystemdMonitoring.Domain.Responses

namespace SystemdMonitoring

open Lib

/-! ## Fulfilment -/

/-- What a served handler may ask for. -/
abbrev ServedSig : Sig := HostSig.sum ServerSig

abbrev Served (α : Type) : Type := Prog ServedSig α

section Fulfilment

variable [Chrono] [RegexEngine] [SerdeJson]

/-- The real provider of an operation. -/
def fulfil : (o : ProviderOp) → HostProg (Except AppError o.Row)
  | .systemState scope => (systemState scope).run
  | .listServiceUnits scope => (listServiceUnits scope).run
  | .getUnitStatus unit scope transitionLimit => (getUnitStatus unit scope transitionLimit).run
  | .listTimerUnits scope => (listTimerUnits scope).run
  | .listJournalLogs query => (listJournalLogs query).run
  | .unitMainStart unit scope => (unitMainStart unit scope).run
  | .containerStatus container => (Podman.containerStatus container).run
  | .podStatus pod => (Podman.podStatus pod).run

/-- The real provider among a served handler's operations. -/
def provided (o : ProviderOp) : Served (Except AppError o.Row) := (fulfil o).inLeft (T := ServerSig)

/-- A handler on the real providers. -/
def serve {α : Type} (p : App α) : Served α := p.interpLeft provided

omit [RegexEngine] [SerdeJson] in
theorem getUnitStatus_returns (unit : String) (scope : UnitScope) (transitionLimit : Nat) :
    (getUnitStatus unit scope transitionLimit).run.Returns (fun _ => True) := by
  by_cases hscope : scope = .both
  · rw [getUnitStatus, if_pos hscope]
    exact Prog.Returns.value trivial
  · exact (getUnitStatus_errors unit hscope transitionLimit).returns

/-- Every provider answers. -/
theorem fulfil_returns (o : ProviderOp) : (fulfil o).Returns (fun _ => True) := by
  cases o with
  | systemState scope => exact (systemState_errors scope).returns
  | listServiceUnits scope => exact (listServiceUnits_errors scope).returns
  | getUnitStatus unit scope limit => exact getUnitStatus_returns unit scope limit
  | listTimerUnits scope => exact (listTimerUnits_errors scope).returns
  | listJournalLogs query => exact (listJournalLogs_errors query).returns
  | unitMainStart unit scope => exact (unitMainStart_errors unit scope).returns
  | containerStatus container => exact Podman.inspect_returns _ _ container
  | podStatus pod => exact Podman.inspect_returns _ _ pod

theorem provided_returns {o : ProviderOp} {P : Except AppError o.Row → Prop}
    (h : (fulfil o).Returns P) : (provided o).Returns P :=
  (Prog.All_inLeft _ _).mpr h

/-- Serving keeps what a handler returns. -/
theorem serve_returns {α : Type} {P : α → Prop} {p : App α} (h : p.Returns P) :
    (serve p).Returns P := by
  refine Prog.Returns.interp (fun o => ?_) h
  cases o with
  | inl o => exact provided_returns (fulfil_returns o)
  | inr o => exact fun _ => ⟨_, rfl, trivial⟩

/-! ## Runs -/

variable [McpSdk] {σ : Type}

/-- The rest of a handler that has asked a provider. -/
def answered (id : Option Json) {o : ProviderOp} (onRow : o.Row → App Json) :
    Except AppError o.Row → App Json
  | .ok row => onRow row
  | .error err => pure (appErrorToJsonRpc id err)

theorem serve_respond (id : Option Json) {o : ProviderOp} (onRow : o.Row → App Json) :
    serve (respond id o onRow) = provided o >>= fun answer => serve (answered id onRow answer) := by
  have hanswered : respond id o onRow = provider o >>= answered id onRow := by
    rw [respond]
    congr 1
  rw [hanswered]
  rfl

/-- A handler that responds runs the provider, and then the rest on its answer. -/
theorem run_serve_respond (h : Host ServedSig σ) {s : σ} (id : Option Json) (o : ProviderOp)
    (onRow : o.Row → App Json) {answer : Except AppError o.Row}
    (hanswer : ((provided o).run h s).result = .done answer) :
    let rest := (serve (answered id onRow answer)).run h ((provided o).run h s).state
    (serve (respond id o onRow)).run h s =
      ⟨rest.result, rest.state, ((provided o).run h s).trace ++ rest.trace⟩ := by
  rw [serve_respond]
  exact Prog.run_bind_done h _ hanswer

/-- The same under fixed answers. -/
theorem under_serve_respond {served : (o : ServedSig.Op) → ServedSig.Ans o} (id : Option Json)
    {o : ProviderOp} (onRow : o.Row → App Json) {answer : Except AppError o.Row}
    (hanswer : (fulfil o).under (fun o => served (.inl o)) = .done answer) :
    (serve (respond id o onRow)).under served
      = (serve (answered id onRow answer)).under served := by
  have hprovided : (provided o).under served = .done answer :=
    (Prog.under_inLeft served _).trans hanswer
  rw [serve_respond, Prog.under_bind hprovided]

end Fulfilment

/-! ## Work on the host -/

/-- The operations among these that are done on the host. -/
def hostWork (trace : List ServedSig.Op) : List HostOp := trace.filterMap Sum.getLeft?

theorem hostWork_append_ne_nil {before : List ServedSig.Op} (h : hostWork before ≠ [])
    (after : List ServedSig.Op) : hostWork (before ++ after) ≠ [] := by
  rw [hostWork, List.filterMap_append]
  exact List.append_ne_nil_of_left_ne_nil h _

end SystemdMonitoring
