import Mathlib.Data.List.Basic

/-!
# Procedures that call a service

A `Script` makes requests one after the other and goes on by the answer, or by the fault when a request
fails. `trace` lists the requests it makes for a given sequence of outcomes and `exec` says how it ends;
when the outcomes are used up, the procedure is stopped where it is.

`Safe` is its weakest precondition, for a condition that every request has to meet when it is made and
one on the value that is returned. It is computed along the script, and it is sound for every sequence
of outcomes (`Safe.permitted_of_trace`, `Safe.post_of_exec`). A request that fails may have taken effect.
-/

namespace ScalesetProxmox.Calls

/-- A procedure with requests `κ`, faults `φ`, answers `ρ` and errors `ε`. -/
inductive Script (κ φ ρ ε α : Type)
  | done (result : Except ε α)
  | call (request : κ) (next : Except φ ρ → Script κ φ ρ ε α)

/-- What a request that succeeds does to the service, and what it answers. -/
structure Service (σ κ ρ : Type) where
  apply : σ → κ → σ
  answer : σ → κ → ρ

inductive Outcome (φ : Type)
  | ok
  | failed (fault : φ) (applied : Bool)
  deriving DecidableEq, Repr

/-- A request, with the service as it is when the request is made. -/
structure Moment (σ κ : Type) where
  state : σ
  request : κ
  ok : Bool

variable {σ κ φ ρ ε α β : Type}

namespace Script

def bind : Script κ φ ρ ε α → (α → Script κ φ ρ ε β) → Script κ φ ρ ε β
  | .done (.ok a), f => f a
  | .done (.error e), _ => .done (.error e)
  | .call request next, f => .call request fun reply ↦ (next reply).bind f

instance : Monad (Script κ φ ρ ε) where
  pure a := .done (.ok a)
  bind := bind

def fail (e : ε) : Script κ φ ρ ε α := .done (.error e)

/-- Make a request and give up when it fails. -/
def ask (request : κ) (wrap : φ → ε) : Script κ φ ρ ε ρ :=
  .call request fun reply ↦ .done (reply.mapError wrap)

/-- Say more about an error. -/
def mapError (wrap : ε → ε) : Script κ φ ρ ε α → Script κ φ ρ ε α
  | .done result => .done (result.mapError wrap)
  | .call request next => .call request fun reply ↦ (next reply).mapError wrap

variable (service : Service σ κ ρ)

def trace : Script κ φ ρ ε α → σ → List (Outcome φ) → List (Moment σ κ)
  | .done _, _, _ => []
  | .call _ _, _, [] => []
  | .call request next, s, .ok :: outcomes =>
    ⟨s, request, true⟩ ::
      trace (next (.ok (service.answer s request))) (service.apply s request) outcomes
  | .call request next, s, .failed fault applied :: outcomes =>
    ⟨s, request, false⟩ ::
      trace (next (.error fault)) (if applied then service.apply s request else s) outcomes

def exec : Script κ φ ρ ε α → σ → List (Outcome φ) → σ × Option (Except ε α)
  | .done result, s, _ => (s, some result)
  | .call _ _, s, [] => (s, none)
  | .call request next, s, .ok :: outcomes =>
    exec (next (.ok (service.answer s request))) (service.apply s request) outcomes
  | .call request next, s, .failed fault applied :: outcomes =>
    exec (next (.error fault)) (if applied then service.apply s request else s) outcomes

/-- Every request of the script meets `permitted`, given the requests before it, and what the script
returns meets `post`. Nothing is asked of a script that fails. -/
def Safe (permitted : List (Moment σ κ) → σ → κ → Prop) (post : α → List (Moment σ κ) → σ → Prop) :
    Script κ φ ρ ε α → List (Moment σ κ) → σ → Prop
  | .done (.ok a), log, s => post a log s
  | .done (.error _), _, _ => True
  | .call request next, log, s =>
    permitted log s request ∧
      Safe permitted post (next (.ok (service.answer s request))) (log ++ [⟨s, request, true⟩])
        (service.apply s request) ∧
      ∀ fault applied, Safe permitted post (next (.error fault)) (log ++ [⟨s, request, false⟩])
        (if applied = true then service.apply s request else s)

variable {service} {permitted : List (Moment σ κ) → σ → κ → Prop}
  {post : α → List (Moment σ κ) → σ → Prop} {script : Script κ φ ρ ε α} {log : List (Moment σ κ)} {s : σ}

/-! ## Rules -/

theorem safe_pure {a : α} :
    Safe service permitted post (pure a : Script κ φ ρ ε α) log s ↔ post a log s := Iff.rfl

theorem safe_fail {e : ε} : Safe service permitted post (fail e : Script κ φ ρ ε α) log s :=
  True.intro

theorem safe_ask {request : κ} {wrap : φ → ε} {post : ρ → List (Moment σ κ) → σ → Prop} :
    Safe service permitted post (ask request wrap) log s ↔
      permitted log s request ∧
        post (service.answer s request) (log ++ [⟨s, request, true⟩]) (service.apply s request) := by
  constructor
  · intro h
    exact ⟨h.1, h.2.1⟩
  · intro h
    exact ⟨h.1, h.2, fun _ _ ↦ True.intro⟩

theorem safe_bind {f : α → Script κ φ ρ ε β} {post : β → List (Moment σ κ) → σ → Prop} :
    Safe service permitted post (script >>= f) log s ↔
      Safe service permitted (fun a log s ↦ Safe service permitted post (f a) log s) script log s := by
  induction script generalizing log s with
  | done result =>
    cases result with
    | ok a => exact Iff.rfl
    | error e => exact Iff.rfl
  | call request next ih =>
    exact and_congr Iff.rfl (and_congr (ih _) (forall_congr' fun _ ↦ forall_congr' fun _ ↦ ih _))

theorem safe_mapError {wrap : ε → ε} :
    Safe service permitted post (script.mapError wrap) log s ↔
      Safe service permitted post script log s := by
  induction script generalizing log s with
  | done result =>
    cases result with
    | ok a => exact Iff.rfl
    | error e => exact Iff.rfl
  | call request next ih =>
    exact and_congr Iff.rfl (and_congr (ih _) (forall_congr' fun _ ↦ forall_congr' fun _ ↦ ih _))

theorem Safe.mono {post' : α → List (Moment σ κ) → σ → Prop}
    (h : Safe service permitted post script log s)
    (hpost : ∀ a log s, post a log s → post' a log s) :
    Safe service permitted post' script log s := by
  induction script generalizing log s with
  | done result =>
    cases result with
    | ok a => exact hpost a log s h
    | error e => exact True.intro
  | call request next ih =>
    obtain ⟨hrequest, hok, hfailed⟩ := h
    exact ⟨hrequest, ih _ hok, fun fault applied ↦ ih _ (hfailed fault applied)⟩

/-- A rule for one step of a sequence: what it returns has to suffice for the rest. -/
theorem Safe.bind {f : α → Script κ φ ρ ε β} {post' : β → List (Moment σ κ) → σ → Prop}
    (h : Safe service permitted post script log s)
    (hrest : ∀ a log s, post a log s → Safe service permitted post' (f a) log s) :
    Safe service permitted post' (script >>= f) log s :=
  safe_bind.mpr (h.mono hrest)

/-! ## Soundness -/

theorem Safe.permitted_of_trace (h : Safe service permitted post script log s)
    {outcomes : List (Outcome φ)} {before after : List (Moment σ κ)} {moment : Moment σ κ}
    (htrace : script.trace service s outcomes = before ++ moment :: after) :
    permitted (log ++ before) moment.state moment.request := by
  induction script generalizing log s outcomes before with
  | done result => simp [trace] at htrace
  | call request next ih =>
    obtain ⟨hrequest, hok, hfailed⟩ := h
    cases outcomes with
    | nil => simp [trace] at htrace
    | cons outcome outcomes =>
      cases outcome with
      | ok =>
        cases before with
        | nil =>
          cases htrace
          simpa using hrequest
        | cons first before =>
          obtain ⟨rfl, hrest⟩ := List.cons.inj htrace
          simpa using ih _ hok hrest
      | failed fault applied =>
        cases before with
        | nil =>
          cases htrace
          simpa using hrequest
        | cons first before =>
          obtain ⟨rfl, hrest⟩ := List.cons.inj htrace
          simpa using ih _ (hfailed fault applied) hrest

/-- What the script returns meets the postcondition. -/
theorem Safe.post_of_exec (h : Safe service permitted post script log s)
    {outcomes : List (Outcome φ)} {s' : σ} {a : α}
    (hexec : script.exec service s outcomes = (s', some (.ok a))) :
    ∃ log', post a log' s' := by
  induction script generalizing log s outcomes with
  | done result =>
    cases hexec
    exact ⟨log, h⟩
  | call request next ih =>
    obtain ⟨-, hok, hfailed⟩ := h
    cases outcomes with
    | nil => simp [exec] at hexec
    | cons outcome outcomes =>
      cases outcome with
      | ok => exact ih _ hok hexec
      | failed fault applied => exact ih _ (hfailed fault applied) hexec

end Script

end ScalesetProxmox.Calls
