/-
The session of a system handler, and how it is replaced.

The checks of the system share a session that is kept between requests. When a
query is answered by a network error, the handler opens another session, gives
up the old one and asks once more. `Reconnects` says what one check does,
whatever its calls are answered: how often it asks and opens, which answer it
goes by, and which session is kept. Over a run of checks the sessions that have
been opened are those that have been closed, in this order, and the one that is
held (`one_session_is_held`).

# What is assumed

Nothing of the answers of the remote system: it may serve or refuse any query
and any session, and the worker may die over each. The lock may be refused. Only
what the handler keeps is kept: it answers with the session that was put there
last (`Kept`), which is what a gateway does (`InUse.perform`).
-/
import CheckGateway.Proofs.Gateway.Books
import CheckGateway.Proofs.Gateway.Transcripts

namespace CheckGateway.Handler

open Job

-- ================================================================== the checks

/-- The checks that go through a system handler. -/
inductive SystemCheck where
  | status | pools
  deriving DecidableEq

namespace SystemCheck

/-- What a check asks. -/
def query : SystemCheck → RemoteQuery
  | .status => .systemStatus
  | .pools => .systemPools

/-- What a check makes of the rows. -/
def records : SystemCheck → List Record → Outcome (List Record)
  | .status, row :: _ => .ok [row.project systemFields]
  | .status, [] => .error (.protocol RemoteQuery.systemStatus.name "empty result")
  | .pools, rows => .ok (rows.map (·.project poolFields))

/-- A check on a handler. -/
def job (check : SystemCheck) (handler : Nat) : Job (List Record) :=
  holding handler do
    let rows ← systemQuery handler check.query
    ofOutcome (check.records rows)

/-- The answer to a query, made into records. -/
def outcome (check : SystemCheck) (answer : Except Fault (List Record)) :
    Except Fault (List Record) :=
  answer.bind fun rows => (check.records rows).mapError .failed

end SystemCheck

theorem getSystem_eq : getSystem = obtainSystem >>= SystemCheck.status.job := by
  refine congrArg (obtainSystem >>= ·) (funext fun handler => congrArg (holding handler) ?_)
  refine congrArg (systemQuery handler .systemStatus >>= ·) (funext fun rows => ?_)
  cases rows <;> rfl

theorem pageFault_eq : pageFault = obtainSystem >>= SystemCheck.pools.job := rfl

-- ================================================================ one check

/-- The answer is a network error. -/
def Lost (answer : Except Fault (List Record)) : Prop :=
  ∃ e, answer = .error (.failed e) ∧ e.kind = .network

/-- All that can happen when a system handler is asked. -/
inductive Queried (handler : Nat) (q : RemoteQuery) :
    List Exchange → Except Fault (List Record) → Prop where
  | refused :
      Queried handler q [⟨.acquire (.systemSession handler), false⟩]
        (.error (.failed (.lockPoisoned "system session")))
  | answered (held : Nat) (first : Except Fault (List Record)) (hfirst : ¬ Lost first) :
      Queried handler q
        [⟨.acquire (.systemSession handler), true⟩, ⟨.session handler, held⟩,
          ⟨.query held q, first⟩, ⟨.release (.systemSession handler) (isDeath first), ()⟩]
        first
  | stranded (held : Nat) (first : Except Fault (List Record)) (e : Fault) (hfirst : Lost first) :
      Queried handler q
        [⟨.acquire (.systemSession handler), true⟩, ⟨.session handler, held⟩,
          ⟨.query held q, first⟩, ⟨.openSession, (.error e : Except Fault Nat)⟩,
          ⟨.release (.systemSession handler)
            (isDeath (.error e : Except Fault (List Record))), ()⟩]
        (.error e)
  | resumed (held fresh : Nat) (first second : Except Fault (List Record))
      (hfirst : Lost first) :
      Queried handler q
        [⟨.acquire (.systemSession handler), true⟩, ⟨.session handler, held⟩,
          ⟨.query held q, first⟩, ⟨.openSession, (.ok fresh : Except Fault Nat)⟩,
          ⟨.closeSession held, ()⟩, ⟨.replaceSession handler fresh, ()⟩,
          ⟨.query fresh q, second⟩, ⟨.release (.systemSession handler) (isDeath second), ()⟩]
        second

section

variable {handler : Nat} {q : RemoteQuery} {es : List Exchange}
  {r : Except Fault (List Record)} {check : SystemCheck}

theorem lost_iff {e : GatewayError} :
    Lost (.error (.failed e)) ↔ e.isConnectionLoss = true := by
  unfold Lost GatewayError.isConnectionLoss
  simp

/-- The outcome of a query that was sent. -/
theorem concludes_query {session : Nat} (h : (query session q).run.Concludes es r) :
    es = [⟨.query session q, r⟩] := by
  obtain ⟨answer, rest, rfl, hrest⟩ := Routine.concludes_call_iff.1 h
  obtain ⟨rfl, rfl⟩ := Routine.concludes_done_iff.1 hrest
  rfl

theorem concludes_openSession {r : Except Fault Nat} (h : openSession.run.Concludes es r) :
    es = [⟨.openSession, r⟩] := by
  obtain ⟨answer, rest, rfl, hrest⟩ := Routine.concludes_call_iff.1 h
  obtain ⟨rfl, rfl⟩ := Routine.concludes_done_iff.1 hrest
  rfl

theorem queried_of_concludes (h : (systemQuery handler q).run.Concludes es r) :
    Queried handler q es r := by
  obtain ⟨rfl, rfl⟩ | ⟨inner, rfl, hinner⟩ := concludes_withLock h
  · exact .refused
  obtain ⟨held, rest, rfl, hrest⟩ := Routine.concludes_call_iff.1 hinner
  obtain ⟨first, before, later, rfl, hattempt, hlater⟩ | ⟨e, hattempt, rfl⟩ :=
    concludes_andThen (attempt (query held q)) hrest
  · obtain ⟨o, hfirst, ho⟩ | ⟨-, hdied⟩ := concludes_attempt hattempt
    · cases ho
      obtain rfl := concludes_query hfirst
      cases first with
      | ok rows =>
          obtain ⟨rfl, rfl⟩ := Routine.concludes_done_iff.1 hlater
          exact .answered held (.ok rows) (by simp [Lost])
      | error e =>
          dsimp only at hlater
          split at hlater
          next hloss =>
            have hlost := lost_iff.2 hloss
            obtain ⟨fresh, opening, more, rfl, hopen, hmore⟩ | ⟨fault, hopen, rfl⟩ :=
              concludes_andThen openSession hlater
            · obtain rfl := concludes_openSession hopen
              obtain ⟨_, closing, rfl, hclosing⟩ := Routine.concludes_call_iff.1 hmore
              obtain ⟨_, asking, rfl, hasking⟩ := Routine.concludes_call_iff.1 hclosing
              obtain rfl := concludes_query hasking
              exact .resumed held fresh _ r hlost
            · obtain rfl := concludes_openSession hopen
              exact .stranded held _ fault hlost
          next hkept =>
            obtain ⟨rfl, rfl⟩ := Routine.concludes_done_iff.1 hlater
            exact .answered held _ (mt lost_iff.1 hkept)
    · cases hdied
  · obtain ⟨o, -, ho⟩ | ⟨hfirst, hdied⟩ := concludes_attempt hattempt
    · cases ho
    · cases hdied
      obtain rfl := concludes_query hfirst
      exact .answered held _ (by simp [Lost])

/-- A check makes records of what its handler answers. -/
theorem queried_of_check (h : (check.job handler).run.Concludes es r) :
    ∃ inner answer, es = inner ++ [⟨.letGo handler, ()⟩]
      ∧ Queried handler check.query inner answer ∧ r = check.outcome answer := by
  obtain ⟨inner, rfl, hinner⟩ := concludes_holding h
  obtain ⟨rows, before, later, rfl, hquery, hlater⟩ | ⟨e, hquery, rfl⟩ :=
    concludes_andThen (systemQuery handler check.query) hinner
  · obtain ⟨rfl, rfl⟩ := concludes_ofOutcome hlater
    rw [List.append_nil]
    exact ⟨before, .ok rows, rfl, queried_of_concludes hquery, rfl⟩
  · exact ⟨inner, .error e, rfl, queried_of_concludes hquery, rfl⟩

end

-- ====================================================== what is seen of it

/-- What is asked. -/
def asked? : Exchange → Option RemoteQuery
  | ⟨.query _ q, _⟩ => some q
  | _ => none

/-- The session that carries a query. -/
def carrier? : Exchange → Option Nat
  | ⟨.query session _, _⟩ => some session
  | _ => none

/-- What a query is answered. -/
def answer? : Exchange → Option (Except Fault (List Record))
  | ⟨.query _ _, answer⟩ => some answer
  | _ => none

/-- What comes of opening a session. -/
def opening? : Exchange → Option (Except Fault Nat)
  | ⟨.openSession, r⟩ => some r
  | _ => none

/-- The session that is closed. -/
def closed? : Exchange → Option Nat
  | ⟨.closeSession session, _⟩ => some session
  | _ => none

/-- What a remote system sees of a check. -/
structure Course where
  queries : List RemoteQuery
  carriers : List Nat
  answers : List (Except Fault (List Record))
  openings : List (Except Fault Nat)
  closings : List Nat

def Course.of (es : List Exchange) : Course where
  queries := es.filterMap asked?
  carriers := es.filterMap carrier?
  answers := es.filterMap answer?
  openings := es.filterMap opening?
  closings := es.filterMap closed?

/-- What a handler holds after a call, unless the call is answered with another
session than the one that is held. -/
def holds? (handler held : Nat) : Exchange → Option Nat
  | ⟨.session h, answer⟩ =>
      let session : Nat := answer
      if h = handler ∧ session ≠ held then none else some held
  | ⟨.replaceSession h session, _⟩ => some (if h = handler then session else held)
  | _ => some held

/-- What a handler holds is what was put there last. -/
def Kept (handler held : Nat) (es : List Exchange) (held' : Nat) : Prop :=
  es.foldlM (holds? handler) held = some held'

/-- What one check does with the session of its handler. -/
structure Reconnects (check : SystemCheck) (c : Course) (r : Except Fault (List Record))
    (held held' : Nat) : Prop where
  /-- It asks its query, twice at most, and opens one session at most. -/
  asks : ∀ q ∈ c.queries, q = check.query
  twice : c.queries.length ≤ 2
  once : c.openings.length ≤ 1
  /-- It tries to open a session exactly if the first answer is a network error. -/
  reopens : c.openings ≠ [] ↔ ∃ first, c.answers.head? = some first ∧ Lost first
  /-- It goes by the first answer if that is no connection loss. -/
  answered : ∀ first, c.answers.head? = some first → ¬ Lost first →
    c.answers = [first] ∧ r = check.outcome first
  /-- It goes by the error if no session can be opened. -/
  stranded : ∀ e, c.openings = [.error e] → c.answers.length = 1 ∧ r = .error e
  /-- It goes by the second answer otherwise. -/
  resumed : ∀ fresh, c.openings = [.ok fresh] →
    ∃ first second, c.answers = [first, second] ∧ r = check.outcome second
  /-- It asks nothing if it does not get the lock. -/
  refused : c.answers = [] → r = .error (.failed (.lockPoisoned "system session"))
  /-- A new session takes the place of the old one, which is closed once. -/
  replaced : ∀ fresh, c.openings = [.ok fresh] → c.closings = [held] ∧ held' = fresh
  /-- Otherwise the old one is kept, and none is closed. -/
  kept : (∀ fresh, c.openings ≠ [.ok fresh]) → c.closings = [] ∧ held' = held
  /-- It asks over the session that it holds, and then over the new one. -/
  carried : c.carriers <+: [held, held']

section

variable {handler held held' : Nat} {es : List Exchange} {r : Except Fault (List Record)}
  {check : SystemCheck}

theorem reconnects_refused (check : SystemCheck) (held : Nat) :
    Reconnects check ⟨[], [], [], [], []⟩
      (.error (.failed (.lockPoisoned "system session"))) held held := by
  constructor <;> simp

theorem reconnects_answered {first : Except Fault (List Record)} (hfirst : ¬ Lost first)
    (check : SystemCheck) (held : Nat) :
    Reconnects check ⟨[check.query], [held], [first], [], []⟩ (check.outcome first) held held := by
  constructor <;> simp [hfirst]

theorem reconnects_stranded {first : Except Fault (List Record)} (hfirst : Lost first)
    (check : SystemCheck) (held : Nat) (e : Fault) :
    Reconnects check ⟨[check.query], [held], [first], [.error e], []⟩ (.error e) held held := by
  constructor <;> simp [hfirst]

theorem reconnects_resumed {first : Except Fault (List Record)} (hfirst : Lost first)
    (check : SystemCheck) (held fresh : Nat) (second : Except Fault (List Record)) :
    Reconnects check ⟨[check.query, check.query], [held, fresh], [first, second], [.ok fresh],
      [held]⟩ (check.outcome second) held fresh := by
  constructor <;> simp [hfirst]

/-- The session that is shown under the lock is the one that is held. -/
theorem kept_of_session {lock : Lock} {taken : Bool} {session : Nat}
    (h : Kept handler held (⟨.acquire lock, taken⟩ :: ⟨.session handler, session⟩ :: es) held') :
    session = held ∧ Kept handler held es held' := by
  obtain ⟨next, hnext, hrest⟩ := Option.bind_eq_some_iff.1 h
  change (if handler = handler ∧ session ≠ held then none else some held) = some next at hnext
  by_cases hsame : session = held
  · rw [if_neg (by simp [hsame])] at hnext
    obtain rfl := Option.some.inj hnext
    exact ⟨hsame, hrest⟩
  · rw [if_pos ⟨rfl, hsame⟩] at hnext
    cases hnext

/-- Whatever a check is answered, that is what it does. -/
theorem reconnects_of_concludes (h : (check.job handler).run.Concludes es r)
    (hkept : Kept handler held es held') : Reconnects check (.of es) r held held' := by
  obtain ⟨inner, answer, rfl, hquery, rfl⟩ := queried_of_check h
  cases hquery with
  | refused =>
      obtain rfl := Option.some.inj hkept
      exact reconnects_refused check held
  | answered session first hfirst =>
      obtain ⟨rfl, hkept⟩ := kept_of_session hkept
      obtain rfl := Option.some.inj hkept
      exact reconnects_answered hfirst check session
  | stranded session first e hfirst =>
      obtain ⟨rfl, hkept⟩ := kept_of_session hkept
      obtain rfl := Option.some.inj hkept
      exact reconnects_stranded hfirst check session e
  | resumed session fresh first second hfirst =>
      obtain ⟨rfl, hkept⟩ := kept_of_session hkept
      change some (if handler = handler then fresh else session) = some held' at hkept
      rw [if_pos rfl] at hkept
      obtain rfl := Option.some.inj hkept
      exact reconnects_resumed hfirst check session fresh _

end

end CheckGateway.Handler

-- ============================================================ in a gateway

namespace CheckGateway.Gateway

open Handler (holds?)

/-- A system handler of a tenant is in use, and holds a session. -/
def InUse (g : Gateway) (t handler held : Nat) : Prop :=
  ∃ x s, g.tenants[t]? = some x ∧ x.systems[handler]? = some s ∧ s.session = some held
    ∧ 0 < s.users

section

variable {g g' : Gateway} {t handler held held' : Nat} {x : Tenant} {f : Tenant → Tenant}

theorem InUse.update (h : g.InUse t handler held)
    (hf : ∀ x s, x.systems[handler]? = some s → s.session = some held → 0 < s.users →
      ∃ s', (f x).systems[handler]? = some s' ∧ s'.session = some held' ∧ 0 < s'.users) :
    (g.update t f).InUse t handler held' := by
  obtain ⟨x, s, hx, hs, hsession, husers⟩ := h
  obtain ⟨s', hs', hsession', husers'⟩ := hf x s hs hsession husers
  refine ⟨f x, s', ?_, hs', hsession', husers'⟩
  rw [getElem?_update, hx]
  exact congrArg some (if_pos rfl)

/-- What leaves the handlers of a tenant alone. -/
theorem InUse.aside (h : g.InUse t handler held) (hf : ∀ x, (f x).systems = x.systems) :
    (g.update t f).InUse t handler held :=
  h.update fun x s hs hsession husers => ⟨s, hf x ▸ hs, hsession, husers⟩

/-- What becomes of a handler when one handler is changed. -/
theorem systems_modify {s : SystemHandler} (hs : x.systems[handler]? = some s) (n : Nat)
    (f : SystemHandler → SystemHandler) :
    (x.systems.modify n f)[handler]? = some (if n = handler then f s else s) := by
  rw [List.getElem?_modify, hs]
  rfl

theorem isDropped_of_users {s : SystemHandler} (h : 0 < s.users) :
    x.isDropped handler s = false := by
  have hsome : (s.users == 0) = false := by
    simp only [beq_eq_false_iff_ne]
    omega
  simp [Tenant.isDropped, hsome]

/-- A handler that is in use is not dropped. -/
theorem InUse.reclaim (h : g.InUse t handler held) : (g.reclaim t).InUse t handler held := by
  obtain ⟨x, -, hx, -⟩ := id h
  unfold Gateway.reclaim
  rw [hx]
  refine InUse.update (f := Tenant.disown) h fun y s hs hsession husers => ?_
  refine ⟨s, mem_disown.2 ⟨s, hs, ?_⟩, hsession, husers⟩
  rw [isDropped_of_users husers]
  rfl

theorem systems_unlocked (x : Tenant) (lock : Lock) (poison : Bool)
    {s : SystemHandler} (hs : x.systems[handler]? = some s) :
    ∃ s', (if poison then ({ x with locked := x.locked.erase lock } : Tenant).poison lock
        else { x with locked := x.locked.erase lock }).systems[handler]? = some s'
      ∧ s'.session = s.session ∧ s'.users = s.users := by
  cases poison with
  | false => exact ⟨s, hs, rfl, rfl⟩
  | true =>
      cases lock with
      | slot kind => exact ⟨s, hs, rfl, rfl⟩
      | jobCache h => exact ⟨s, hs, rfl, rfl⟩
      | diskCache h => exact ⟨s, hs, rfl, rfl⟩
      | systemSession h =>
          refine ⟨_, systems_modify hs h _, ?_, ?_⟩
          · split <;> rfl
          · split <;> rfl

/-- A call of any job of the tenant, but for one that lets the handler go, leaves a
session with the handler: the one that was put there last. -/
theorem InUse.perform {gate : Option Nat} {c : Job.Call} {a : Job.Answer c}
    (h : g.InUse t handler held) (hx : g.tenants[t]? = some x) (hc : c ≠ .letGo handler)
    (hperform : g.perform t x gate c = .answered a g') :
    ∃ held', holds? handler held ⟨c, a⟩ = some held' ∧ g'.InUse t handler held' := by
  cases c with
  | now | watermark | note | handler | jobCache | diskCache | openSession | closeSession =>
      cases hperform
      exact ⟨held, rfl, h⟩
  | query session q =>
      refine ⟨held, rfl, ?_⟩
      unfold Gateway.perform at hperform
      dsimp only at hperform
      split at hperform
      · split at hperform
        · cases hperform
          exact h
        · cases hperform
      · split at hperform
        · cases hperform
          exact h
        · cases hperform
  | acquire lock =>
      refine ⟨held, rfl, ?_⟩
      unfold Gateway.perform at hperform
      dsimp only at hperform
      split at hperform
      · cases hperform
      · split at hperform
        · cases hperform
          exact h
        · cases hperform
          exact h.aside fun _ => rfl
  | release lock poison =>
      cases hperform
      refine ⟨held, rfl, h.update fun y s hs hsession husers => ?_⟩
      obtain ⟨s', hs', hsession', husers'⟩ := systems_unlocked y lock poison hs
      exact ⟨s', hs', hsession'.trans hsession, husers' ▸ husers⟩
  | install kind =>
      refine ⟨held, rfl, ?_⟩
      cases kind with
      | jobs | disks | system | subsystems | commands =>
          cases hperform
          exact h.aside fun _ => rfl
  | installSystem session =>
      cases hperform
      refine ⟨held, rfl, h.update fun y s hs hsession husers => ⟨s, ?_, hsession, husers⟩⟩
      exact getElem?_concat_iff.2 (.inl hs)
  | saveJobCache | saveDiskCache =>
      cases hperform
      exact ⟨held, rfl, h.aside fun _ => rfl⟩
  | session h' =>
      cases hperform
      refine ⟨held, ?_, h⟩
      obtain ⟨y, s, hy, hs, hsession, -⟩ := h
      obtain rfl := Option.some.inj (hx.symm.trans hy)
      show (if h' = handler ∧ _ ≠ held then none else some held) = some held
      refine if_neg fun ⟨heq, hother⟩ => hother ?_
      subst heq
      show ((x.systems[h']?).bind SystemHandler.session).getD 0 = held
      rw [hs, Option.bind_some, hsession]
      rfl
  | replaceSession h' session =>
      cases hperform
      refine ⟨if h' = handler then session else held, rfl,
        h.update fun y s hs hsession husers => ?_⟩
      refine ⟨_, systems_modify hs h' _, ?_, ?_⟩
      · split
        · rfl
        · exact hsession
      · split <;> exact husers
  | hold h' =>
      cases hperform
      refine ⟨held, rfl, h.update fun y s hs hsession husers => ?_⟩
      refine ⟨_, systems_modify hs h' _, ?_, ?_⟩
      · split <;> exact hsession
      · split
        · exact Nat.succ_pos _
        · exact husers
  | letGo h' =>
      cases hperform
      have hne : h' ≠ handler := fun heq => hc (heq ▸ rfl)
      refine ⟨held, rfl, InUse.reclaim (h.update fun y s hs hsession husers => ?_)⟩
      have hsame := systems_modify hs h' fun s => { s with users := s.users - 1 }
      rw [if_neg hne] at hsame
      exact ⟨s, hsame, hsession, husers⟩

end

end CheckGateway.Gateway

-- ============================================================ the whole life

namespace CheckGateway.Handler

open Job

/-- A check that was made: what it asked and was answered, what came of it, and the
sessions that the handler held before and after. -/
structure Visit where
  check : SystemCheck
  es : List Exchange
  result : Except Fault (List Record)
  before : Nat
  after : Nat

/-- The sessions that are opened, and those that are closed. -/
def opened (es : List Exchange) : List Nat := (es.filterMap opening?).filterMap Except.toOption

def closed (es : List Exchange) : List Nat := es.filterMap closed?

/-- The session with which a handler is made. -/
def made? : Exchange → Option Nat
  | ⟨.installSystem session, _⟩ => some session
  | _ => none

/-- The check has opened a session. -/
def Visit.reopened (v : Visit) : Bool := !(opened v.es).isEmpty

/-- The life of a system handler, with the session that it holds: it is made, and
one check after the other goes through it. -/
inductive Life (handler : Nat) : List Exchange → List Visit → Nat → Prop where
  | made {es : List Exchange} {session : Nat} (h : obtainSystem.run.Concludes es (.ok handler))
      (hsession : session ∈ es.filterMap made?) :
      Life handler es [] session
  | visited {log es : List Exchange} {visits : List Visit} {held held' : Nat}
      {check : SystemCheck} {r : Except Fault (List Record)} (hlife : Life handler log visits held)
      (h : (check.job handler).run.Concludes es r) (hkept : Kept handler held es held') :
      Life handler (log ++ es) (visits ++ [⟨check, es, r, held, held'⟩]) held'

section

variable {handler held held' session : Nat} {es es' log : List Exchange} {visits : List Visit}
  {r : Except Fault (List Record)} {check : SystemCheck}

theorem opened_append (es es' : List Exchange) : opened (es ++ es') = opened es ++ opened es' := by
  simp [opened]

theorem closed_append (es es' : List Exchange) : closed (es ++ es') = closed es ++ closed es' :=
  List.filterMap_append

/-- A handler is made with the one session that is opened for it. -/
theorem opened_of_made (h : obtainSystem.run.Concludes es (.ok handler))
    (hsession : session ∈ es.filterMap made?) :
    opened es = [session] ∧ closed es = [] := by
  obtain ⟨-, hfault⟩ | ⟨inner, rfl, hinner⟩ := concludes_withLock h
  · cases hfault
  obtain ⟨present, rest, rfl, hrest⟩ := Routine.concludes_call_iff.1 hinner
  cases present with
  | some found =>
      -- then there is no handler to be made
      obtain ⟨_, last, rfl, hlast⟩ := Routine.concludes_call_iff.1 hrest
      obtain ⟨rfl, -⟩ := Routine.concludes_done_iff.1 hlast
      exact absurd hsession List.not_mem_nil
  | none =>
      obtain ⟨fresh, opening, more, rfl, hopen, hmore⟩ | ⟨e, -, hfault⟩ :=
        concludes_andThen openSession hrest
      · obtain rfl := concludes_openSession hopen
        obtain ⟨number, holding, rfl, hholding⟩ := Routine.concludes_call_iff.1 hmore
        obtain ⟨_, last, rfl, hlast⟩ := Routine.concludes_call_iff.1 hholding
        obtain ⟨rfl, -⟩ := Routine.concludes_done_iff.1 hlast
        obtain rfl := List.mem_singleton.1 hsession
        exact ⟨rfl, rfl⟩
      · cases hfault

theorem Reconnects.sessions (h : Reconnects check (.of es) r held held') :
    (opened es = [held'] ∧ closed es = [held])
      ∨ (opened es = [] ∧ closed es = [] ∧ held' = held) := by
  have honce : (es.filterMap opening?).length ≤ 1 := h.once
  have hreplaced : ∀ fresh, es.filterMap opening? = [.ok fresh] →
      closed es = [held] ∧ held' = fresh := h.replaced
  have hkept : (∀ fresh, es.filterMap opening? ≠ [.ok fresh]) →
      closed es = [] ∧ held' = held := h.kept
  unfold opened
  generalize es.filterMap opening? = openings at *
  match openings with
  | [] => exact .inr ⟨rfl, hkept (by simp)⟩
  | [.error e] => exact .inr ⟨rfl, hkept (by simp)⟩
  | [.ok fresh] =>
      obtain ⟨hclosed, rfl⟩ := hreplaced fresh rfl
      exact .inl ⟨rfl, hclosed⟩
  | _ :: _ :: _ => simp at honce

/-- Over any number of checks, whatever the remote system does, the handler holds
one session: what has been opened is what has been closed, in this order, and the
one that is held. It opens one more than the checks that reopen. -/
theorem one_session_is_held (h : Life handler log visits held) :
    (∀ v ∈ visits, Reconnects v.check (.of v.es) v.result v.before v.after)
      ∧ opened log = closed log ++ [held]
      ∧ (opened log).length = 1 + visits.countP Visit.reopened := by
  induction h with
  | made h hsession =>
      obtain ⟨hopened, hclosed⟩ := opened_of_made h hsession
      rw [hopened, hclosed]
      exact ⟨fun _ hv => (List.not_mem_nil hv).elim, rfl, rfl⟩
  | @visited log es visits held held' check r hlife h hkept ih =>
      obtain ⟨hall, hsessions, hcount⟩ := ih
      have hthis := reconnects_of_concludes h hkept
      refine ⟨?_, ?_, ?_⟩
      · intro v hv
        obtain hv | hv := List.mem_append.1 hv
        · exact hall v hv
        · obtain rfl := List.mem_singleton.1 hv
          exact hthis
      · rw [opened_append, closed_append, hsessions]
        obtain ⟨hopened, hclosed⟩ | ⟨hopened, hclosed, rfl⟩ := hthis.sessions
        · rw [hopened, hclosed]
        · rw [hopened, hclosed, List.append_nil, List.append_nil]
      · rw [opened_append, List.length_append, hcount, List.countP_append, Nat.add_assoc]
        obtain ⟨hopened, -⟩ | ⟨hopened, -, -⟩ := hthis.sessions
        · simp [Visit.reopened, hopened]
        · simp [Visit.reopened, hopened]

end

/-- The connection is lost, and then the retry fails over the new session. -/
def failingRetry : List Exchange :=
  [⟨.acquire (.systemSession 0), true⟩, ⟨.session 0, (7 : Nat)⟩,
    ⟨.query 7 .systemStatus,
      (.error (.failed (.refreshFailed "cache" (.network "host" "down"))) :
        Except Fault (List Record))⟩,
    ⟨.openSession, (.ok 8 : Except Fault Nat)⟩, ⟨.closeSession 7, ()⟩, ⟨.replaceSession 0 8, ()⟩,
    ⟨.query 8 .systemStatus,
      (.error (.failed (.network "host" "down again")) : Except Fault (List Record))⟩,
    ⟨.release (.systemSession 0) false, ()⟩, ⟨.letGo 0, ()⟩]

/-- The connection is lost, and no session can be opened. -/
def failedReopen : List Exchange :=
  [⟨.acquire (.systemSession 0), true⟩, ⟨.session 0, (8 : Nat)⟩,
    ⟨.query 8 .systemPools,
      (.error (.failed (.network "host" "down")) : Except Fault (List Record))⟩,
    ⟨.openSession, (.error (.failed (.network "host" "refused")) : Except Fault Nat)⟩,
    ⟨.release (.systemSession 0) false, ()⟩, ⟨.letGo 0, ()⟩]

/-- A handler is made with the seventh session. -/
def making : List Exchange :=
  [⟨.acquire (.slot .system), true⟩, ⟨.handler .system, (none : Option Nat)⟩,
    ⟨.openSession, (.ok 7 : Except Fault Nat)⟩, ⟨.installSystem 7, (0 : Nat)⟩, ⟨.hold 0, ()⟩,
    ⟨.release (.slot .system) false, ()⟩]

/-- After a retry that fails and a session that cannot be opened the handler holds
the session that was opened last. -/
theorem eighth_session_is_held :
    ∃ visits, Life 0 (making ++ failingRetry ++ failedReopen) visits 8
      ∧ visits.map Visit.result
        = [.error (.failed (.network "host" "down again")),
          .error (.failed (.network "host" "refused"))]
      ∧ opened (making ++ failingRetry ++ failedReopen) = [7, 8]
      ∧ closed (making ++ failingRetry ++ failedReopen) = [7]
      ∧ (opened (making ++ failingRetry ++ failedReopen)).length
        = 1 + visits.countP Visit.reopened := by
  have hmade : Life 0 making [] 7 := by
    refine .made ?_ (List.mem_singleton_self 7)
    unfold making Routine.Concludes
    repeat apply Routine.Leaves.answered
    exact .untouched _
  have hretry : (SystemCheck.status.job 0).run.Concludes failingRetry
      (.error (.failed (.network "host" "down again"))) := by
    unfold failingRetry Routine.Concludes
    repeat apply Routine.Leaves.answered
    exact .untouched _
  have hreopen : (SystemCheck.pools.job 0).run.Concludes failedReopen
      (.error (.failed (.network "host" "refused"))) := by
    unfold failedReopen Routine.Concludes
    repeat apply Routine.Leaves.answered
    exact .untouched _
  have hretried : Life 0 (making ++ failingRetry) _ 8 := hmade.visited hretry rfl
  have hlife : Life 0 (making ++ failingRetry ++ failedReopen) _ 8 := hretried.visited hreopen rfl
  exact ⟨_, hlife, rfl, rfl, rfl, (one_session_is_held hlife).2.2⟩

end CheckGateway.Handler
