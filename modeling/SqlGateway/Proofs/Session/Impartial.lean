import SqlGateway.Proofs.Session.Course
import SqlGateway.Proofs.Session.Ledger

/-!
# Sessions at an Impartial Server

A server is impartial if what it answers depends only on the parameters of the pool that it is
asked for or through, and on the text: it gives every open pool a number of its own, but no
answer shows the number, nor how many pools there are, nor what they were used for.

Two runs of a session are alike (`Alike`) if nobody who knows the session can tell them apart: its
policy and its pool are the same but for the number of the pool. The other sessions of either run
are left open; all that is known of them is that their pools are open too and have other numbers
(`Guards`). What a session does keeps two such runs alike, and the pools of the others open.

## Main results

* `alike_openPool`: openings, which are the only places where numbers are given.
* `connects_connect`: connections.
* `Script.impartial`: a scripted server is impartial.
-/

namespace SqlGateway

/-! ### Impartial servers -/

/-- The columns and the rows of a result, without the time that it took. -/
def QueryResult.table (r : QueryResult) : List Column × List Row :=
  (r.columns, r.rows)

/-- What a server answers, by the parameters of the pool and the text alone. -/
structure Answers where
  openPool : ConnectParams → Except GatewayError Unit
  acquire : ConnectParams → Duration → Option (Except GatewayError Unit)
  fetch : ConnectParams → String → List Value → Except GatewayError (List Column × List Row)
  execute : ConnectParams → String → List Value → Except GatewayError Nat
  control : ConnectParams → Control → Except GatewayError Unit

namespace Server

variable {σ : Type}

/-- A server goes from a state to another by one question or none, and not by closing a pool. -/
inductive Goes (s : Server σ) (t : σ) : σ → Prop
  | stays : Goes s t t
  | openPool (params : ConnectParams) : Goes s t (s.openPool params t).2
  | acquire (pool : Nat) (timeout : Duration) : Goes s t (s.acquire pool timeout t).2
  | fetch (pool : Nat) (sql : String) (values : List Value) : Goes s t (s.fetch pool sql values t).2
  | execute (pool : Nat) (sql : String) (values : List Value) :
      Goes s t (s.execute pool sql values t).2
  | control (pool : Nat) (c : Control) : Goes s t (s.control pool c t).2

/-- A server whose answers depend only on parameters and texts. -/
structure Impartial (s : Server σ) where
  /-- The server gives these answers from a state on. -/
  Gives : σ → Answers → Prop
  /-- The pools that are open in a state. -/
  IsOpen : σ → Handle → Prop
  gives_of_goes {t t' : σ} {a : Answers} (hgoes : s.Goes t t') (hgives : Gives t a) : Gives t' a
  gives_closePool {t : σ} {a : Answers} {h : Handle} (hgives : Gives t a) (hopen : IsOpen t h) :
    Gives (s.closePool h.number t) a
  isOpen_of_goes {t t' : σ} {h : Handle} (hgoes : s.Goes t t') (hopen : IsOpen t h) : IsOpen t' h
  isOpen_closePool {pool : Nat} {t : σ} {h : Handle} (hne : h.number ≠ pool) (hopen : IsOpen t h) :
    IsOpen (s.closePool pool t) h
  openPool_eq {t : σ} {a : Answers} (hgives : Gives t a) (params : ConnectParams) :
    ((s.openPool params t).1.map fun _ => ()) = a.openPool params
  /-- A pool that is opened is open. -/
  isOpen_openPool {params : ConnectParams} {t : σ} {a : Answers} {pool : Nat} (hgives : Gives t a)
    (hok : (s.openPool params t).1 = .ok pool) : IsOpen (s.openPool params t).2 ⟨pool, params⟩
  /-- A pool that is opened gets a number of its own. -/
  number_ne_openPool {params : ConnectParams} {t : σ} {pool : Nat} {h : Handle}
    (hok : (s.openPool params t).1 = .ok pool) (hopen : IsOpen t h) : h.number ≠ pool
  acquire_eq {t : σ} {a : Answers} {h : Handle} (hgives : Gives t a) (hopen : IsOpen t h)
    (timeout : Duration) : (s.acquire h.number timeout t).1 = a.acquire h.params timeout
  fetch_eq {t : σ} {a : Answers} {h : Handle} (hgives : Gives t a) (hopen : IsOpen t h)
    (sql : String) (values : List Value) :
    (s.fetch h.number sql values t).1.map QueryResult.table = a.fetch h.params sql values
  execute_eq {t : σ} {a : Answers} {h : Handle} (hgives : Gives t a) (hopen : IsOpen t h)
    (sql : String) (values : List Value) :
    (s.execute h.number sql values t).1 = a.execute h.params sql values
  control_eq {t : σ} {a : Answers} {h : Handle} (hgives : Gives t a) (hopen : IsOpen t h)
    (c : Control) : (s.control h.number c t).1 = a.control h.params c

end Server

/-- A pool without its number. -/
def Slot.seen (slot : Slot) : Slot :=
  { slot with handle := slot.handle.map fun h => { h with number := 0 } }

/-- A session as those who use it know it. -/
def Session.seen (session : Session) : Session :=
  { session with slot := session.slot.seen }

namespace Server.Impartial

variable {σ : Type} {s : Server σ} (i : s.Impartial) {others others' : Handle → Prop}
  {a : Answers} {r r' r₁ r₁' : Run σ} {α β : Type}

/-- A pool is open, and none of the others. -/
structure Holds (others : Handle → Prop) (t : σ) (h : Handle) : Prop where
  isOpen : i.IsOpen t h
  apart (k : Handle) (hk : others k) : k.number ≠ h.number

/-- The pool of a session is open, if it has one, and so are the others; and the server gives the
answers `a`. -/
structure Guards (a : Answers) (others : Handle → Prop) (r : Run σ) : Prop where
  gives : i.Gives r.server a
  own (h : Handle) (hh : r.slot.handle = some h) : i.Holds others r.server h
  isOpen (k : Handle) (hk : others k) : i.IsOpen r.server k

/-- Two runs of a session that look alike, each with pools of others. -/
structure Alike (a : Answers) (others others' : Handle → Prop) (r r' : Run σ) : Prop where
  seen_eq : r.toSession.seen = r'.toSession.seen
  left : i.Guards a others r
  right : i.Guards a others' r'

/-- Two runs of a session that look alike and have pools. -/
structure Joined (a : Answers) (others others' : Handle → Prop) (h h' : Handle) (r r' : Run σ) : Prop
    extends i.Alike a others others' r r' where
  handle_eq : r.slot.handle = some h
  handle_eq' : r'.slot.handle = some h'

/-- The same was answered, and the runs are related. -/
def Tally (T : Run σ → Run σ → Prop) (x x' : α × Run σ) : Prop :=
  x.1 = x'.1 ∧ T x.2 x'.2

/-- Pools with the same parameters were found and the runs look alike, or none was found, for the
same reason. -/
inductive Found {ε : Type} (a : Answers) (others others' : Handle → Prop) :
    Except ε Handle × Run σ → Except ε Handle × Run σ → Prop
  | found {h h' : Handle} {r r' : Run σ} (hparams : h.params = h'.params)
      (hholds : i.Holds others r.server h) (hholds' : i.Holds others' r'.server h')
      (halike : i.Alike a others others' r r') : Found a others others' (.ok h, r) (.ok h', r')
  | missed (e : ε) {r r' : Run σ} (halike : i.Alike a others others' r r') :
      Found a others others' (.error e, r) (.error e, r')

/-- Connections of the sessions' own pools were taken and the runs look alike, or none was, for the
same reason. -/
inductive Connects (a : Answers) (others others' : Handle → Prop) :
    Run.Outcome σ Handle → Run.Outcome σ Handle → Prop
  | taken {h h' : Handle} {r r' : Run σ} (hjoined : i.Joined a others others' h h' r r') :
      Connects a others others' (.ok h, r) (.ok h', r')
  | failed (e : GatewayError) {r r' : Run σ} (halike : i.Alike a others others' r r') :
      Connects a others others' (.error e, r) (.error e, r')

/-- What goes on after a success. -/
theorem Tally.andThen {T : Run σ → Run σ → Prop} {x x' : Run.Outcome σ α}
    {f f' : α → Run σ → Run.Outcome σ β} (hx : Tally T x x')
    (hf : ∀ a r r', T r r' → Tally T (f a r) (f' a r')) :
    Tally T (Run.andThen x f) (Run.andThen x' f') := by
  obtain ⟨answer, r⟩ := x
  obtain ⟨answer', r'⟩ := x'
  obtain ⟨rfl, hT⟩ : answer = answer' ∧ T r r' := hx
  rcases answer with e | a
  · exact ⟨rfl, hT⟩
  · exact hf a r r' hT

variable {i}

/-! ### What is the same -/

namespace Alike

variable (h : i.Alike a others others' r r')
include h

theorem slot_eq : r.slot.seen = r'.slot.seen :=
  (congrArg Session.slot h.seen_eq :)

theorem id_eq : r.id = r'.id :=
  (congrArg Session.id h.seen_eq :)

theorem live_eq : r.live = r'.live :=
  (congrArg Session.live h.seen_eq :)

theorem state_eq : r.slot.state = r'.slot.state :=
  (congrArg Slot.state h.slot_eq :)

theorem plugin_eq : r.slot.plugin = r'.slot.plugin :=
  (congrArg Slot.plugin h.slot_eq :)

theorem health_eq : r.health = r'.health :=
  (congrArg Session.health h.seen_eq :)

theorem params_eq {k k' : Handle} (hk : r.slot.handle = some k) (hk' : r'.slot.handle = some k') :
    k.params = k'.params := by
  have heq := congrArg Slot.handle h.slot_eq
  simp only [Slot.seen, hk, hk', Option.map_some, Option.some.injEq, Handle.mk.injEq,
    true_and] at heq
  exact heq

theorem isSome_eq : r.slot.handle.isSome = r'.slot.handle.isSome := by
  have heq := congrArg (fun slot : Slot => slot.handle.isSome) h.slot_eq
  simpa [Slot.seen] using heq

end Alike

/-! ### What the server does -/

theorem Holds.goes {h : Handle} {t t' : σ} (hholds : i.Holds others t h) (hgoes : s.Goes t t') :
    i.Holds others t' h :=
  ⟨i.isOpen_of_goes hgoes hholds.isOpen, hholds.apart⟩

/-- One question to the server leaves the pools open. -/
theorem Guards.goes (h : i.Guards a others r) (hsession : r₁.toSession = r.toSession)
    (hgoes : s.Goes r.server r₁.server) : i.Guards a others r₁ where
  gives := i.gives_of_goes hgoes h.gives
  own k hk := (h.own k ((congrArg (·.slot.handle) hsession).symm.trans hk)).goes hgoes
  isOpen k hk := i.isOpen_of_goes hgoes (h.isOpen k hk)

/-- Whatever pool a session has instead of its own must be open. -/
theorem Guards.replace (h : i.Guards a others r) (hserver : r₁.server = r.server)
    (hown : ∀ k, r₁.slot.handle = some k → i.Holds others r.server k) : i.Guards a others r₁ where
  gives := hserver ▸ h.gives
  own k hk := hserver ▸ hown k hk
  isOpen k hk := hserver ▸ h.isOpen k hk

/-- One question in each run. -/
theorem Alike.goes (h : i.Alike a others others' r r') (hsession : r₁.toSession = r.toSession)
    (hgoes : s.Goes r.server r₁.server) (hsession' : r₁'.toSession = r'.toSession)
    (hgoes' : s.Goes r'.server r₁'.server) : i.Alike a others others' r₁ r₁' where
  seen_eq := by rw [hsession, hsession', h.seen_eq]
  left := h.left.goes hsession hgoes
  right := h.right.goes hsession' hgoes'

/-- Events are reported. -/
theorem Alike.report (h : i.Alike a others others' r r') (hsession : r₁.toSession = r.toSession)
    (hserver : r₁.server = r.server) (hsession' : r₁'.toSession = r'.toSession)
    (hserver' : r₁'.server = r'.server) : i.Alike a others others' r₁ r₁' :=
  h.goes hsession (hserver ▸ .stays) hsession' (hserver' ▸ .stays)

/-- The sessions change in the same way, and keep their pools or lose them. -/
theorem Alike.change (h : i.Alike a others others' r r')
    (hseen : r₁.toSession.seen = r₁'.toSession.seen) (hserver : r₁.server = r.server)
    (hhandle : ∀ k, r₁.slot.handle = some k → r.slot.handle = some k)
    (hserver' : r₁'.server = r'.server)
    (hhandle' : ∀ k, r₁'.slot.handle = some k → r'.slot.handle = some k) :
    i.Alike a others others' r₁ r₁' where
  seen_eq := hseen
  left := h.left.replace hserver fun k hk => h.left.own k (hhandle k hk)
  right := h.right.replace hserver' fun k hk => h.right.own k (hhandle' k hk)

/-- One question in each run, after which the sessions are as they were. -/
theorem Joined.goes {k k' : Handle} (h : i.Joined a others others' k k' r r')
    (hsession : r₁.toSession = r.toSession) (hgoes : s.Goes r.server r₁.server)
    (hsession' : r₁'.toSession = r'.toSession) (hgoes' : s.Goes r'.server r₁'.server) :
    i.Joined a others others' k k' r₁ r₁' where
  toAlike := h.toAlike.goes hsession hgoes hsession' hgoes'
  handle_eq := (congrArg (·.slot.handle) hsession).trans h.handle_eq
  handle_eq' := (congrArg (·.slot.handle) hsession').trans h.handle_eq'

theorem Joined.params_eq {k k' : Handle} (h : i.Joined a others others' k k' r r') :
    k.params = k'.params :=
  h.toAlike.params_eq h.handle_eq h.handle_eq'

theorem Joined.isOpen {k k' : Handle} (h : i.Joined a others others' k k' r r') :
    i.IsOpen r.server k ∧ i.IsOpen r'.server k' :=
  ⟨(h.left.own k h.handle_eq).isOpen, (h.right.own k' h.handle_eq').isOpen⟩

/-! ### Openings -/

variable (i)

theorem guards_closeTo (next : PoolState) (h : i.Guards a others r) :
    i.Guards a others (r.closeTo s next) := by
  have hslot := Run.slot_closeTo s next r
  refine ⟨?_, fun k hk => ?_, fun k hk => ?_⟩
  · rw [Run.closeTo]
    rcases hhandle : r.slot.handle with _ | pool
    · exact h.gives
    · exact i.gives_closePool h.gives (h.own pool hhandle).isOpen
  · rw [hslot] at hk
    cases hk
  · rw [Run.closeTo]
    rcases hhandle : r.slot.handle with _ | pool
    · exact h.isOpen k hk
    · exact i.isOpen_closePool ((h.own pool hhandle).apart k hk) (h.isOpen k hk)

variable {i}

/-- Closing the pool. -/
theorem alike_closeTo (next : PoolState) (h : i.Alike a others others' r r') :
    i.Alike a others others' (r.closeTo s next) (r'.closeTo s next) where
  seen_eq := by
    rw [Run.toSession_closeTo, Run.toSession_closeTo]
    exact congrArg (fun session : Session => { session with
      slot := { session.slot with handle := none, state := next, fingerprint := none } }) h.seen_eq
  left := i.guards_closeTo next h.left
  right := i.guards_closeTo next h.right

/-- Asking for a pool. -/
theorem found_callOpen (params : ConnectParams) (h : i.Alike a others others' r r') :
    i.Found a others others' (r.callOpen s params) (r'.callOpen s params) := by
  have halike : i.Alike a others others' (r.callOpen s params).2 (r'.callOpen s params).2 :=
    h.goes rfl (.openPool params) rfl (.openPool params)
  have hanswer : (s.openPool params r.server).1.map (fun _ => ()) =
      (s.openPool params r'.server).1.map fun _ => () := by
    rw [i.openPool_eq h.left.gives, i.openPool_eq h.right.gives]
  have hholds : ∀ {others : Handle → Prop} {r : Run σ} {pool : Nat}, i.Guards a others r →
      (s.openPool params r.server).1 = .ok pool →
      i.Holds others (s.openPool params r.server).2 ⟨pool, params⟩ := fun hguards hok =>
    ⟨i.isOpen_openPool hguards.gives hok, fun k hk => i.number_ne_openPool hok (hguards.isOpen k hk)⟩
  have hfst : ∀ r : Run σ, (r.callOpen s params).1 =
      (s.openPool params r.server).1.map (⟨·, params⟩) := fun _ => rfl
  rw [← Prod.eta (r.callOpen s params), ← Prod.eta (r'.callOpen s params), hfst, hfst]
  rcases hopen : (s.openPool params r.server).1 with e | pool <;>
    rcases hopen' : (s.openPool params r'.server).1 with e' | pool' <;>
    rw [hopen, hopen'] at hanswer
  · obtain rfl : e = e' := Except.error.inj hanswer
    exact .missed e halike
  · cases hanswer
  · cases hanswer
  · exact .found rfl (hholds h.left hopen) (hholds h.right hopen') halike

/-- Asking for a pool with one plugin after another. -/
theorem found_tryPlugins (params : ConnectParams) (plugins : List (Option AuthPlugin))
    (last : String) (h : i.Alike a others others' r r') :
    i.Found a others others' (r.tryPlugins s params plugins last)
      (r'.tryPlugins s params plugins last) := by
  induction plugins generalizing last r r' with
  | nil => exact .missed last h
  | cons plugin plugins ih =>
      have hreported : i.Alike a others others'
          (r.reportPool .info "Trying authentication plugin" [Run.pluginField plugin])
          (r'.reportPool .info "Trying authentication plugin" [Run.pluginField plugin]) :=
        h.report rfl rfl rfl rfl
      have hfound := found_callOpen { params with authPlugin := plugin } hreported
      rw [Run.tryPlugins, Run.tryPlugins]
      generalize Run.callOpen s _ _ = x at hfound ⊢
      generalize Run.callOpen s _ _ = x' at hfound ⊢
      cases hfound with
      | found hparams hholds hholds' halike =>
          exact .found hparams hholds hholds' (halike.report rfl rfl rfl rfl)
      | missed e halike => exact ih _ (halike.report rfl rfl rfl rfl)

/-- Asking for a pool, also with other plugins. -/
theorem found_seekPool (retries : Nat) (params : ConnectParams)
    (h : i.Alike a others others' r r') :
    i.Found a others others' (r.seekPool s retries params) (r'.seekPool s retries params) := by
  have hfound := found_callOpen params h
  rw [Run.seekPool, Run.seekPool]
  generalize r.callOpen s params = x at hfound ⊢
  generalize r'.callOpen s params = x' at hfound ⊢
  cases hfound with
  | found hparams hholds hholds' halike => exact .found hparams hholds hholds' halike
  | @missed e r₁ r₁' halike =>
      cases e with
      | authentication message =>
          dsimp only
          by_cases hretries : retries = 0
          · rw [if_pos hretries, if_pos hretries]
            exact .missed _ halike
          rw [if_neg hretries, if_neg hretries]
          have hreported : i.Alike a others others' (r₁.reportPool .warn message [])
              (r₁'.reportPool .warn message []) := halike.report rfl rfl rfl rfl
          have htried := found_tryPlugins params (AuthPlugin.fallbackOrder.take retries) message
            hreported
          generalize Run.tryPlugins s params _ message _ = y at htried ⊢
          generalize Run.tryPlugins s params _ message _ = y' at htried ⊢
          cases htried with
          | found hparams hholds hholds' halike => exact .found hparams hholds hholds' halike
          | missed e halike => exact .missed _ (halike.report rfl rfl rfl rfl)
      | _ => exact .missed _ halike

/-- Taking the parameters of the next pool. -/
theorem tally_startOpening (meanwhile : PoolState) (h : i.Alike a others others' r r') :
    Tally (i.Alike a others others') (r.startOpening s meanwhile) (r'.startOpening s meanwhile) := by
  have hclosed := alike_closeTo meanwhile h
  refine ⟨?_, hclosed.report rfl rfl rfl rfl⟩
  simp only [Run.startOpening, hclosed.live_eq, hclosed.plugin_eq]

/-- Putting pools in place that were found with the same parameters. -/
theorem alike_activate {pool pool' : Handle} (generation : Nat) (hparams : pool.params = pool'.params)
    (hholds : i.Holds others r.server pool) (hholds' : i.Holds others' r'.server pool')
    (h : i.Alike a others others' r r') :
    i.Alike a others others' (r.activate pool generation) (r'.activate pool' generation) where
  seen_eq := by
    simp only [Run.activate, Run.reportPool, Run.report, Session.seen, Slot.seen, Option.map_some,
      hparams, h.live_eq, h.id_eq]
  left := h.left.replace rfl fun k hk => Option.some.inj hk ▸ hholds
  right := h.right.replace rfl fun k hk => Option.some.inj hk ▸ hholds'

/-- Noting that no pool could be opened. -/
theorem alike_fail (e : GatewayError) (h : i.Alike a others others' r r') :
    i.Alike a others others' (r.fail e) (r'.fail e) := by
  refine h.change ?_ rfl (fun _ hk => hk) rfl fun _ hk => hk
  exact congrArg (fun session : Session => { session with slot := { session.slot with
    state := .error
    failures := session.slot.failures + 1
    lastError := some e.message } }) h.seen_eq

/-- **Opening a pool** has the same result and leads to runs that look alike. -/
theorem alike_openPool (retries : Nat) (meanwhile : PoolState) (h : i.Alike a others others' r r') :
    Tally (i.Alike a others others') (r.openPool s retries meanwhile)
      (r'.openPool s retries meanwhile) := by
  obtain ⟨hopening, hstarted⟩ := tally_startOpening meanwhile h
  rw [Run.openPool, Run.openPool, Run.openDuring, Run.openDuring]
  generalize r.startOpening s meanwhile = started at hopening hstarted ⊢
  generalize r'.startOpening s meanwhile = started' at hopening hstarted ⊢
  obtain ⟨opening, r₁⟩ := started
  obtain ⟨_, r₁'⟩ := started'
  obtain rfl := hopening
  have hfound := found_seekPool retries opening.params hstarted
  dsimp only at hfound ⊢
  generalize r₁.seekPool s retries opening.params = x at hfound ⊢
  generalize r₁'.seekPool s retries opening.params = x' at hfound ⊢
  cases hfound with
  | found hparams hholds hholds' halike =>
      exact ⟨rfl, alike_activate opening.generation hparams hholds hholds' halike⟩
  | missed e halike => exact ⟨rfl, alike_fail e halike⟩

/-! ### Connections -/

theorem alike_ensure (h : i.Alike a others others' r r') :
    Tally (i.Alike a others others') (r.ensure s) (r'.ensure s) := by
  rw [Run.ensure, Run.ensure, h.state_eq]
  split
  · exact alike_openPool maxAuthRetries .closed h
  · exact ⟨rfl, h⟩

/-- Comparing the settings. -/
theorem alike_isStale (h : i.Alike a others others' r r') :
    Tally (i.Alike a others others') r.isStale r'.isStale := by
  have hgeneration : r.slot.generation = r'.slot.generation :=
    (congrArg Slot.generation h.slot_eq :)
  have hfingerprint : r.slot.fingerprint = r'.slot.fingerprint :=
    (congrArg Slot.fingerprint h.slot_eq :)
  rw [Run.isStale, Run.isStale, h.state_eq, h.live_eq, hgeneration, hfingerprint]
  split
  · exact ⟨rfl, h⟩
  · split
    · refine ⟨rfl, h.change ?_ rfl (fun _ hk => hk) rfl fun _ hk => hk⟩
      exact congrArg (fun session : Session => { session with
        live := r'.live
        slot := { session.slot with generation := r'.live.generation } }) h.seen_eq
    · exact ⟨rfl, h⟩

theorem alike_refresh (h : i.Alike a others others' r r') :
    Tally (i.Alike a others others') (r.refresh s) (r'.refresh s) := by
  obtain ⟨hstale, hlook⟩ := alike_isStale h
  rw [Run.refresh, Run.refresh]
  generalize r.isStale = looked at hstale hlook ⊢
  generalize r'.isStale = looked' at hstale hlook ⊢
  obtain ⟨stale, r₁⟩ := looked
  obtain ⟨_, r₁'⟩ := looked'
  obtain rfl := hstale
  cases stale with
  | true => exact alike_openPool maxAuthRetries .closed (hlook.report rfl rfl rfl rfl)
  | false => exact ⟨rfl, hlook⟩

/-- Asking for a connection. -/
theorem tally_callAcquire {k k' : Handle} (timeout : Duration)
    (h : i.Joined a others others' k k' r r') :
    Tally (i.Joined a others others' k k') (r.callAcquire s k timeout)
      (r'.callAcquire s k' timeout) := by
  refine ⟨?_, h.goes rfl (.acquire _ _) rfl (.acquire _ _)⟩
  have hanswer : (s.acquire k.number timeout r.server).1 =
      (s.acquire k'.number timeout r'.server).1 := by
    rw [i.acquire_eq h.left.gives h.isOpen.1, i.acquire_eq h.right.gives h.isOpen.2, h.params_eq]
  exact hanswer

/-- Taking a connection of the open pool. -/
theorem connects_checkOut (h : i.Alike a others others' r r') :
    i.Connects a others others' (r.checkOut s) (r'.checkOut s) := by
  have hsome := h.isSome_eq
  rcases hk : r.slot.handle with _ | k <;> rcases hk' : r'.slot.handle with _ | k' <;>
    rw [hk, hk'] at hsome
  · simp only [Run.checkOut, h.state_eq, hk, hk']
    cases r'.slot.state <;> exact .failed _ h
  · cases hsome
  · cases hsome
  · simp only [Run.checkOut, h.state_eq, hk, hk']
    cases r'.slot.state with
    | active =>
        obtain ⟨hanswer, hasked⟩ := tally_callAcquire r'.live.policy.acquireTimeout
          { h with handle_eq := hk, handle_eq' := hk' }
        rw [h.live_eq]
        dsimp only
        generalize r.callAcquire s k _ = asked at hanswer hasked ⊢
        generalize r'.callAcquire s k' _ = asked' at hanswer hasked ⊢
        obtain ⟨answer, r₁⟩ := asked
        obtain ⟨_, r₁'⟩ := asked'
        obtain rfl := hanswer
        rcases answer with _ | _ | _
        · exact .failed _ hasked.toAlike
        · exact .failed _ hasked.toAlike
        · exact .taken hasked
    | _ => exact .failed _ h

/-- **Taking a connection** succeeds in both runs or fails in both, for the same reason. -/
theorem connects_connect (h : i.Alike a others others' r r') :
    i.Connects a others others' (r.connect s) (r'.connect s) := by
  obtain ⟨hensured, hafter⟩ := alike_ensure h
  rw [Run.connect, Run.connect]
  generalize r.ensure s = ensured at hensured hafter ⊢
  generalize r'.ensure s = ensured' at hensured hafter ⊢
  obtain ⟨answer, r₁⟩ := ensured
  obtain ⟨_, r₁'⟩ := ensured'
  obtain rfl := hensured
  rcases answer with e | _
  · exact .failed e hafter
  · obtain ⟨hrefreshed, hafter⟩ := alike_refresh hafter
    rw [Run.andThen, Run.andThen]
    dsimp only at hrefreshed hafter ⊢
    generalize r₁.refresh s = refreshed at hrefreshed hafter ⊢
    generalize r₁'.refresh s = refreshed' at hrefreshed hafter ⊢
    obtain ⟨answer, r₂⟩ := refreshed
    obtain ⟨_, r₂'⟩ := refreshed'
    obtain rfl := hrefreshed
    rcases answer with e | _
    · exact .failed e hafter
    · exact connects_checkOut hafter

end Server.Impartial

/-! ### Scripted servers -/

namespace Script

/-- What a script answers, if it was not told to open a pool yet. -/
def answers (t : Script) : Answers where
  openPool params := (t.openPool params).1.map fun _ => ()
  acquire _ timeout := (t.acquire 0 timeout).1
  fetch _ sql _ := (t.fetch sql).1.map QueryResult.table
  execute _ sql _ := (t.answer sql t.affected).1
  control _ c := (t.answer c.text ()).1

/-- A script that no pool was opened with. -/
def unused (t : Script) : Script :=
  { t with opened := 0, closed := [] }

/-- A pool that was opened and not closed. -/
def IsOpen (t : Script) (h : Handle) : Prop :=
  h.number < t.opened ∧ h.number ∉ t.closed

/-- A script has its own answers, if no pool was closed before it was opened. -/
def Gives (t : Script) (a : Answers) : Prop :=
  a = t.unused.answers ∧ ∀ pool ∈ t.closed, pool < t.opened

theorem state_answer {α : Type} (sql : String) (value : α) (t : Script) :
    (t.answer sql value).2 = t := by
  rw [answer]
  split <;> rfl

theorem state_acquire (pool : Nat) (timeout : Duration) (t : Script) :
    (t.acquire pool timeout).2 = t := by
  rw [acquire]
  split
  · rfl
  · split <;> rfl

/-- Opening a pool takes the next number. -/
theorem openPool_cases (params : ConnectParams) (t : Script) :
    (∃ e, t.openPool params = (.error e, t)) ∨
      t.openPool params = (.ok t.opened, { t with opened := t.opened + 1 }) := by
  rw [openPool]
  split
  · exact .inl ⟨_, rfl⟩
  · split
    · exact .inl ⟨_, rfl⟩
    · exact .inr rfl

theorem closePool_cases (pool : Nat) (t : Script) :
    t.closePool pool = t ∨ t.closePool pool = { t with closed := t.closed ++ [pool] } := by
  rw [closePool]
  split
  · exact .inl rfl
  · exact .inr rfl

/-- A question leaves the script and the closed pools as they are. -/
theorem state_of_goes {t t' : Script} (hgoes : server.Goes t t') :
    t' = { t with opened := t'.opened } ∧ t.opened ≤ t'.opened := by
  have hstays : ∀ {t' : Script}, t' = t → t' = { t with opened := t'.opened } ∧
      t.opened ≤ t'.opened := by
    rintro _ rfl
    exact ⟨rfl, le_rfl⟩
  cases hgoes with
  | stays => exact hstays rfl
  | openPool params =>
      have hserver : (server.openPool params t).2 = (t.openPool params).2 := rfl
      rw [hserver]
      rcases t.openPool_cases params with ⟨e, heq⟩ | heq
      · rw [heq]
        exact hstays rfl
      · rw [heq]
        exact ⟨rfl, Nat.le_succ t.opened⟩
  | acquire pool timeout => exact hstays (t.state_acquire pool timeout)
  | fetch pool sql values => exact hstays (t.state_answer sql _)
  | execute pool sql values => exact hstays (t.state_answer sql _)
  | control pool c => exact hstays (t.state_answer c.text ())

theorem Gives.goes {t t' : Script} {a : Answers} (hgives : t.Gives a) (hgoes : server.Goes t t') :
    t'.Gives a := by
  obtain ⟨hstate, hle⟩ := state_of_goes hgoes
  rw [hstate]
  exact ⟨hgives.1, fun pool hpool => (hgives.2 pool hpool).trans_le hle⟩

theorem Gives.closePool {t : Script} {a : Answers} {h : Handle} (hgives : t.Gives a)
    (hopen : t.IsOpen h) : (t.closePool h.number).Gives a := by
  rcases t.closePool_cases h.number with heq | heq
  · rwa [heq]
  · rw [heq]
    refine ⟨hgives.1, fun pool hpool => ?_⟩
    rcases List.mem_append.mp hpool with hpool | hpool
    · exact hgives.2 pool hpool
    · obtain rfl := List.mem_singleton.mp hpool
      exact hopen.1

theorem IsOpen.goes {t t' : Script} {h : Handle} (hopen : t.IsOpen h) (hgoes : server.Goes t t') :
    t'.IsOpen h := by
  obtain ⟨hstate, hle⟩ := state_of_goes hgoes
  rw [hstate]
  exact ⟨hopen.1.trans_le hle, hopen.2⟩

theorem IsOpen.closePool {t : Script} {h : Handle} {pool : Nat} (hopen : t.IsOpen h)
    (hne : h.number ≠ pool) : (t.closePool pool).IsOpen h := by
  rcases t.closePool_cases pool with heq | heq
  · rwa [heq]
  · rw [heq]
    exact ⟨hopen.1, by simpa [hne] using hopen.2⟩

/-- A pool that is opened has the next number, and is open. -/
theorem openPool_ok {t : Script} {params : ConnectParams} {pool : Nat}
    (hok : (t.openPool params).1 = .ok pool) :
    pool = t.opened ∧ (t.openPool params).2 = { t with opened := t.opened + 1 } := by
  rcases t.openPool_cases params with ⟨e, heq⟩ | heq
  · rw [heq] at hok
    cases hok
  · rw [heq] at hok ⊢
    exact ⟨(Except.ok.inj hok).symm, rfl⟩

theorem openPool_unused (params : ConnectParams) (t : Script) :
    ((t.openPool params).1.map fun _ => ()) = (t.unused.openPool params).1.map fun _ => () := by
  rcases herror : t.openError with _ | e
  · by_cases hrejected : t.rejected.contains params.authPlugin = true <;>
      simp only [openPool, unused, herror, hrejected, Except.map, if_true, if_false,
        Bool.false_eq_true]
  · simp only [openPool, unused, herror]

theorem acquire_unused {t : Script} {pool : Nat} (hopen : pool ∉ t.closed) (timeout : Duration) :
    (t.acquire pool timeout).1 = (t.unused.acquire 0 timeout).1 := by
  by_cases hlate : wholeMilliseconds timeout < t.acquireDelay.getD 0 <;>
    simp [acquire, unused, hopen, hlate]

theorem answer_unused {α : Type} (sql : String) (value : α) (t : Script) :
    (t.answer sql value).1 = (t.unused.answer sql value).1 := by
  rcases herror : find? t.errors sql with _ | e <;> simp only [answer, unused, herror]

/-- **A scripted server is impartial**: it follows its script for everyone. -/
def impartial : server.Impartial where
  Gives := Gives
  IsOpen := IsOpen
  gives_of_goes hgoes hgives := hgives.goes hgoes
  gives_closePool hgives hopen := hgives.closePool hopen
  isOpen_of_goes hgoes hopen := hopen.goes hgoes
  isOpen_closePool hne hopen := hopen.closePool hne
  openPool_eq {t a} hgives params := by
    rw [hgives.1]
    dsimp only [server, answers]
    rw [openPool_unused]
  isOpen_openPool {params t a pool} hgives hok := by
    dsimp only [server] at hok ⊢
    obtain ⟨rfl, hstate⟩ := openPool_ok hok
    rw [hstate]
    exact ⟨Nat.lt_succ_self t.opened, fun hclosed =>
      Nat.lt_irrefl t.opened (hgives.2 t.opened hclosed)⟩
  number_ne_openPool {params t pool h} hok hopen := by
    dsimp only [server] at hok
    rw [(openPool_ok hok).1]
    exact hopen.1.ne
  acquire_eq {t a h} hgives hopen timeout := by
    -- Equations of functions, so that no time limit is computed to check them.
    have hserver : server.acquire = acquire := rfl
    have hanswers : t.unused.answers.acquire = fun _ timeout =>
        (t.unused.acquire 0 timeout).1 := rfl
    rw [hgives.1, hserver, hanswers, acquire_unused hopen.2]
  fetch_eq {t a h} hgives _ sql values := by
    rw [hgives.1]
    dsimp only [server, answers]
    rw [fetch, answer_unused]
    rfl
  execute_eq {t a h} hgives _ sql values := by
    rw [hgives.1]
    dsimp only [server, answers]
    rw [answer_unused]
    rfl
  control_eq {t a h} hgives _ c := by
    rw [hgives.1]
    dsimp only [server, answers]
    rw [answer_unused]

end Script

end SqlGateway
