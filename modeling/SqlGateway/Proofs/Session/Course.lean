import SqlGateway.Proofs.Session.Connection
import SqlGateway.Proofs.Session.FailClosed
import SqlGateway.Proofs.Session.Staleness

/-!
# What a Session Is Made to Do

A session that was just made (`Run.begin`) is made to do one thing after another: an `Act` is
an operation, a pool that is to be open, a connection that is taken and given back, or another
policy that is put in place. `Run.afterActs` is the run that a list of acts leads to.

Whatever an act is, it is made of few moves: the policy changes, the settings are compared, the
server is called for something other than pools, a pool is opened in place of the old, and the
pool is closed. `Moves s P r r'` says that a run leads to another by such moves, and that `P`
holds of the policy in place whenever an opening succeeded. An invariant of a session is shown
for the moves and then holds after every list of acts.

An act `Settles` a session: the moves are such that a pool which was opened on the way was
opened with the policy that is in place at the end.

## Main results

* `settles_connect`, `settles_serve`, `settles_switch`: what requests for connections, requests
  and switches are made of.
* `settles_perform`: what every act is made of.
-/

namespace SqlGateway

/-- A call that neither asks for a pool nor closes one. -/
def Call.LeavesPools (c : Call) : Prop :=
  c.params? = none ∧ c.closed? = none

/-- A call on a connection leaves the pools alone. -/
theorem Call.leavesPools_of_connection? {c : Call} {h : Handle} (hc : c.connection? = some h) :
    c.LeavesPools := by
  cases c with
  | fetch | execute | control => exact ⟨rfl, rfl⟩
  | openPool | closePool | acquire => cases hc

/-- What a session can be made to do. -/
inductive Act where
  | operation (operation : Operation)
  /-- A pool is opened if there is none. -/
  | ensure
  /-- A connection is taken and given back. -/
  | connect
  /-- Another policy is put in place. -/
  | replace (policy : Policy)

namespace Run

variable {σ : Type}

/-- A session that was just made, at a server in any state. -/
def begin (id : String) (p : Policy) (server : σ) : Run σ :=
  ⟨.new id p, ⟨server, [], []⟩⟩

/-- What one act leads to. -/
def perform (s : Server σ) (act : Act) (r : Run σ) : Run σ :=
  match act with
  | .operation operation => (r.operate s operation).2
  | .ensure => (r.ensure s).2
  | .connect => (r.connect s).2
  | .replace policy => { r with live := r.live.replace policy }

/-- What acts lead to, one after another. -/
def afterActs (s : Server σ) (acts : List Act) (r : Run σ) : Run σ :=
  acts.foldl (fun r act => r.perform s act) r

/-! ### Moves -/

/-- A run leads to another by moves, and `P` holds of the policy in place after every opening
that succeeded. -/
inductive Moves (s : Server σ) (P : Policy → Prop) (r : Run σ) : Run σ → Prop
  | refl : Moves s P r r
  /-- The policy changes. -/
  | change {r' : Run σ} {l : LivePolicy} (h : Moves s P r r') (hfollows : r'.live.Follows l) :
      Moves s P r { r' with live := l }
  /-- The settings are compared. -/
  | look {r' : Run σ} (h : Moves s P r r') : Moves s P r r'.isStale.2
  /-- Events are reported, and the server is called for something other than pools. -/
  | call {r' r'' : Run σ} (h : Moves s P r r') (hsession : r''.toSession = r'.toSession)
      (hcalls : Adds Call.LeavesPools r' r'') : Moves s P r r''
  /-- The pool is closed and another opened. -/
  | reopen {r' : Run σ} (h : Moves s P r r') (retries : Nat) (meanwhile : PoolState)
      (hok : (r'.openPool s retries meanwhile).1 = .ok () →
        P (r'.openPool s retries meanwhile).2.live.policy) :
      Moves s P r (r'.openPool s retries meanwhile).2
  | close {r' : Run σ} (h : Moves s P r r') : Moves s P r (r'.closePool s)

variable {s : Server σ} {P Q : Policy → Prop} {r r' r'' : Run σ}

namespace Moves

theorem trans (h : Moves s P r r') (h' : Moves s P r' r'') : Moves s P r r'' := by
  induction h' with
  | refl => exact h
  | change _ hfollows ih => exact ih.change hfollows
  | look _ ih => exact ih.look
  | call _ hsession hcalls ih => exact ih.call hsession hcalls
  | reopen _ retries meanwhile hok ih => exact ih.reopen retries meanwhile hok
  | close _ ih => exact ih.close

/-- Less may be said of the policies that pools were opened with. -/
theorem mono (h : Moves s P r r') (himp : ∀ p, P p → Q p) : Moves s Q r r' := by
  induction h with
  | refl => exact .refl
  | change _ hfollows ih => exact ih.change hfollows
  | look _ ih => exact ih.look
  | call _ hsession hcalls ih => exact ih.call hsession hcalls
  | reopen _ retries meanwhile hok ih =>
      exact ih.reopen retries meanwhile fun hsuccess => himp _ (hok hsuccess)
  | close _ ih => exact ih.close

/-- Nothing but events was added. -/
theorem report (h : Moves s P r r') (hsession : r''.toSession = r'.toSession)
    (hcalls : r''.calls = r'.calls) : Moves s P r r'' :=
  h.call hsession (.of_eq hcalls)

/-- A connection was used. -/
theorem uses {h : Handle} (hmoves : Moves s P r r') (huses : Uses h r' r'') : Moves s P r r'' :=
  hmoves.call huses.session_eq (huses.calls.mono fun _ => Call.leavesPools_of_connection?)

end Moves

/-- Moves that leave no pool open but one that was open before, or that was opened with the
policy which is in place at the end. -/
def Settles (s : Server σ) (r r' : Run σ) : Prop :=
  Moves s (· = r'.live.policy) r r'

namespace Settles

/-- Moves without any opening may come first. -/
theorem after (h : Settles s r' r'') (hmoves : ∀ P : Policy → Prop, Moves s P r r') :
    Settles s r r'' :=
  (hmoves _).trans h

/-- What leaves the session and the pools alone may come last. -/
theorem call (h : Settles s r r') (hsession : r''.toSession = r'.toSession)
    (hcalls : Adds Call.LeavesPools r' r'') : Settles s r r'' := by
  have hlive : r''.live = r'.live := congrArg Session.live hsession
  rw [Settles, hlive]
  exact Moves.call h hsession hcalls

theorem report (h : Settles s r r') (hsession : r''.toSession = r'.toSession)
    (hcalls : r''.calls = r'.calls) : Settles s r r'' :=
  h.call hsession (.of_eq hcalls)

theorem uses {h : Handle} (hsettles : Settles s r r') (huses : Uses h r' r'') :
    Settles s r r'' :=
  hsettles.call huses.session_eq (huses.calls.mono fun _ => Call.leavesPools_of_connection?)

/-- What goes on after a success, or does not. -/
theorem andThen {α β : Type} {x : Outcome σ α} {f : α → Run σ → Outcome σ β}
    (h : Settles s r x.2) (hf : ∀ a r', Settles s r r' → Settles s r (f a r').2) :
    Settles s r (andThen x f).2 := by
  obtain ⟨e | a, r'⟩ := x
  · exact h
  · exact hf a r' h

end Settles

theorem settles_refl (r : Run σ) : Settles s r r :=
  Moves.refl

/-- What comes before a success may not open any pool. -/
theorem settles_andThen {α β : Type} {x : Outcome σ α} {f : α → Run σ → Outcome σ β}
    (hmoves : ∀ P : Policy → Prop, Moves s P r x.2) (hf : ∀ a r', Settles s r' (f a r').2) :
    Settles s r (andThen x f).2 := by
  obtain ⟨e | a, r'⟩ := x
  · exact hmoves _
  · exact (hf a r').after hmoves

variable (s)

/-- An opening is one move. -/
theorem settles_openPool (retries : Nat) (meanwhile : PoolState) (r : Run σ) :
    Settles s r (r.openPool s retries meanwhile).2 :=
  Moves.refl.reopen retries meanwhile fun _ => rfl

/-- An opening that fails is a move that nothing is said of. -/
theorem moves_openPool_of_error {retries : Nat} {meanwhile : PoolState} {e : GatewayError}
    (h : r.openPool s retries meanwhile = (.error e, r')) (P : Policy → Prop) :
    Moves s P r r' := by
  have hmove := Moves.refl.reopen (P := P) (s := s) (r := r) retries meanwhile fun hok => by
    rw [h] at hok
    cases hok
  rwa [h] at hmove

theorem moves_update (entries : List (String × String)) (r : Run σ) (P : Policy → Prop) :
    Moves s P r (r.update entries).2 := by
  rw [update]
  split
  · rename_i heq
    exact Moves.refl.change (LivePolicy.follows_of_update heq)
  · exact .refl

/-! ### Connections -/

/-- Opening a pool on demand. -/
theorem settles_ensure (r : Run σ) : Settles s r (r.ensure s).2 := by
  rw [ensure]
  split
  · exact settles_openPool s maxAuthRetries .closed r
  · exact settles_refl r

/-- A pool that was just opened is not stale. -/
theorem isStale_of_openPool {retries : Nat} {meanwhile : PoolState}
    (hopen : r.openPool s retries meanwhile = (.ok (), r')) : r'.isStale.1 = false := by
  obtain ⟨h, -, hopened, -⟩ := openDuring_ok .refl hopen
  rw [Bool.eq_false_iff, ne_eq, isStale_iff hopened]
  exact not_not_intro rfl

/-- Opening a pool anew if the settings changed. -/
theorem settles_refresh (r : Run σ) : Settles s r (r.refresh s).2 := by
  have hlook : ∀ P : Policy → Prop, Moves s P r r.isStale.2 := fun _ => Moves.refl.look
  rw [refresh]
  split
  · rename_i r' heq
    rw [heq] at hlook
    exact (settles_openPool s maxAuthRetries .closed _).after fun P =>
      (hlook P).report rfl rfl
  · rename_i r' heq
    rw [heq] at hlook
    exact hlook _

theorem leavesPools_checkOut (r : Run σ) :
    (r.checkOut s).2.toSession = r.toSession ∧ Adds Call.LeavesPools r (r.checkOut s).2 := by
  rw [checkOut]
  split
  · rename_i h _ _
    have hsession : (r.callAcquire s h r.live.policy.acquireTimeout).2.toSession =
        r.toSession := rfl
    have hacquire : Adds Call.LeavesPools r
        (r.callAcquire s h r.live.policy.acquireTimeout).2 := .single rfl ⟨rfl, rfl⟩
    dsimp only
    split
    · rename_i heq
      rw [heq] at hsession hacquire
      exact ⟨hsession, hacquire⟩
    · rename_i heq
      rw [heq] at hsession hacquire
      exact ⟨hsession, hacquire⟩
  · exact ⟨rfl, .of_eq rfl⟩

/-- **Taking a connection** opens a pool at most once: one that was just opened is not opened
anew. -/
theorem settles_connect (r : Run σ) : Settles s r (r.connect s).2 := by
  rw [connect]
  have hensure := settles_ensure s r
  rcases hensured : r.ensure s with ⟨e | _, r₁⟩
  · rwa [hensured] at hensure
  rw [hensured] at hensure
  -- A pool that was opened now is not stale; otherwise nothing was opened yet.
  have hfirst : r₁.isStale.1 = false ∨ r₁ = r := by
    rw [ensure] at hensured
    split at hensured
    · exact .inl (isStale_of_openPool s hensured)
    · cases hensured
      exact .inr rfl
  have hrefresh : Settles s r (r₁.refresh s).2 := by
    rcases hfirst with hfresh | rfl
    · have hlive := live_isStale r₁
      have hlook : Settles s r r₁.isStale.2 := by
        rw [Settles, hlive]
        exact Moves.look hensure
      rw [refresh]
      generalize r₁.isStale = looked at hfresh hlook
      obtain ⟨stale, r₂⟩ := looked
      obtain rfl : stale = false := hfresh
      exact hlook
    · exact settles_refresh s r₁
  refine Settles.andThen (x := r₁.refresh s) hrefresh fun _ r₂ hsettles => ?_
  obtain ⟨hsession, hcalls⟩ := leavesPools_checkOut s r₂
  exact hsettles.call hsession hcalls

/-! ### Requests -/

/-- **Answering a request** opens a pool at most once. -/
theorem settles_serve (request : Request) (r : Run σ) : Settles s r (r.serve s request).2 := by
  have hadmitted : ∀ {r' : Run σ}, Untouched r r' → ∀ P : Policy → Prop, Moves s P r r' :=
    fun huntouched _ => Moves.refl.report huntouched.session_eq huntouched.calls_eq
  have hconnects := connects_serve s request r
  generalize (r.serve s request).2 = served at hconnects ⊢
  cases hconnects with
  | untouched h => exact hadmitted h _
  | failed e admitted h hconnect =>
      have hsettles := (settles_connect s admitted).after (hadmitted h)
      rwa [hconnect] at hsettles
  | taken h admitted connected h' hconnect huses =>
      have hsettles := (settles_connect s admitted).after (hadmitted h')
      rw [hconnect] at hsettles
      exact hsettles.uses huses

/-! ### Switches -/

theorem settles_switchBack (t : Target) (previous : List (String × String)) (e : GatewayError)
    (r : Run σ) : Settles s r (r.switchBack s t previous e).2 := by
  rw [switchBack]
  refine Settles.after (settles_andThen (moves_update s previous _) fun _ r₁ => ?_)
    fun _ => Moves.refl.report rfl rfl
  have hopen := settles_openPool s maxAuthRetries .closed r₁
  dsimp only
  split
  · rename_i heq
    rwa [heq] at hopen
  · rename_i heq
    rw [heq] at hopen
    exact hopen.report rfl rfl

/-- **Switching databases** opens two pools at most, and the second only if the first could not
be opened. -/
theorem settles_switch (t : Target) (r : Run σ) : Settles s r (r.switch s t).2 := by
  rw [switch]
  split
  · exact settles_refl r
  · refine settles_andThen (moves_update s t.entries r) fun _ r₁ => ?_
    have hopen := settles_openPool s maxAuthRetries .closed r₁
    split
    · rename_i heq
      rw [heq] at hopen
      exact hopen.report rfl rfl
    · rename_i heq
      exact (settles_switchBack s t _ _ _).after (moves_openPool_of_error s heq)

/-! ### Acts -/

theorem settles_operate (operation : Operation) (r : Run σ) :
    Settles s r (r.operate s operation).2 := by
  cases operation with
  | request request => exact settles_serve s request r
  | update entries =>
      exact settles_andThen (moves_update s entries r) fun _ r₁ => settles_refl r₁
  | switch target =>
      exact (settles_switch s target r).andThen fun _ _ hsettles => hsettles
  | reopen retries =>
      exact (settles_openPool s retries .closed r).andThen fun _ _ hsettles => hsettles
  | reconnect =>
      refine Settles.andThen (x := r.reconnect s) ?_ fun _ _ hsettles => hsettles
      exact (settles_openPool s maxAuthRetries .reconnecting _).after fun _ =>
        Moves.refl.report rfl rfl
  | close => exact Moves.refl.close

/-- **What every act is made of.** -/
theorem settles_perform (act : Act) (r : Run σ) : Settles s r (r.perform s act) := by
  cases act with
  | operation operation => exact settles_operate s operation r
  | ensure => exact settles_ensure s r
  | connect => exact settles_connect s r
  | replace policy => exact Moves.refl.change (.replace .refl policy)

/-- What the moves keep holds after every list of acts. -/
theorem afterActs_of_moves {I : Run σ → Prop}
    (hkeeps : ∀ {r r' : Run σ}, Moves s (fun _ => True) r r' → I r → I r')
    (acts : List Act) {r : Run σ} (hr : I r) : I (r.afterActs s acts) := by
  induction acts generalizing r with
  | nil => exact hr
  | cons act rest ih =>
      exact ih (hkeeps ((settles_perform s act r).mono fun _ _ => trivial) hr)

end Run

end SqlGateway
