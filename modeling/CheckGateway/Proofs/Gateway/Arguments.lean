/-
Arguments come first.

A request with bad arguments is answered with an argument error, and its job asks for
nothing at all: what a gateway has learnt, opened and kept is what it was. The checks
over a session of their own open one session each, once their arguments are in order:
before that they at most look for the handler of commands, whose slot nobody poisons.

# The argument

`OpensOnce` says of a routine that, unless it is refused the slot of commands, it has
asked for one session at most however far it has come, and for one when it is at its
end. A job over a session is of this kind if nothing before and after opens another.
-/
import CheckGateway.Proofs.Gateway.Disks
import CheckGateway.Proofs.Gateway.Serving
import CheckGateway.Proofs.Gateway.Slots
import CheckGateway.Proofs.Request.Arguments

namespace CheckGateway

namespace Routine

variable {Call : Type} {Answer : Call → Type} {α : Type} {P : Call → Prop}
  {r q : Routine Call Answer α} {es : List ((c : Call) × Answer c)}

/-- What has been asked is of a kind, and so is all that is still to be asked. -/
theorem Makes.leaves (h : r.Makes P) (hleaves : r.Leaves es q) :
    (∀ e ∈ es, P e.1) ∧ q.Makes P := by
  induction hleaves with
  | untouched r => exact ⟨nofun, h⟩
  | answered hleaves ih =>
      obtain ⟨hes, hq⟩ := ih (h.2 _)
      exact ⟨List.forall_mem_cons.2 ⟨h.1, hes⟩, hq⟩

end Routine

namespace Handler

open Job

/-- The call opens no session. -/
def OpensNothing (c : Call) : Prop := c ≠ .openSession

/-- It is refused the slot of commands. -/
def refused : Exchange := ⟨.acquire (.slot .commands), false⟩

/-- Unless it is refused the slot of commands, it opens one session. -/
def OpensOnce {α : Type} (r : JobRoutine α) : Prop :=
  ∀ es q, r.Leaves es q → refused ∉ es →
    es.countP opens ≤ 1 ∧ ∀ a, q = .done a → es.countP opens = 1

section

variable {α β : Type} {r : JobRoutine α} {f : α → JobRoutine β} {es : List Exchange}
  {job : Job α} {ctx : JobContext}

theorem countP_opens (h : ∀ e ∈ es, OpensNothing e.1) : es.countP opens = 0 := by
  rw [List.countP_eq_zero]
  rintro ⟨c, a⟩ he hopens
  have hc : c ≠ .openSession := h _ he
  cases c with
  | openSession => exact hc rfl
  | _ => cases hopens

/-- What comes after the session opens no other. -/
theorem OpensOnce.bind (h : OpensOnce r) (hf : ∀ a, (f a).Makes OpensNothing) :
    OpensOnce (r.bind f) := by
  intro es q hleaves hrefused
  rcases Routine.leaves_bind hleaves with ⟨c, next, hfirst, rfl⟩
    | ⟨a, before, later, rfl, hfirst, hlater⟩
  · exact ⟨(h _ _ hfirst hrefused).1, nofun⟩
  · rw [List.mem_append, not_or] at hrefused
    have hone := (h _ _ hfirst hrefused.1).2 a rfl
    have hnone := countP_opens ((hf a).leaves hlater).1
    rw [List.countP_append, hone, hnone]
    exact ⟨Nat.le_refl _, fun _ _ => rfl⟩

/-- What comes before the session opens no other. -/
theorem OpensOnce.after (h : r.Makes OpensNothing)
    (hf : ∀ es a, r.Concludes es a → refused ∉ es → OpensOnce (f a)) : OpensOnce (r.bind f) := by
  intro es q hleaves hrefused
  rcases Routine.leaves_bind hleaves with ⟨c, next, hfirst, rfl⟩
    | ⟨a, before, later, rfl, hfirst, hlater⟩
  · rw [countP_opens (h.leaves hfirst).1]
    exact ⟨Nat.zero_le _, nofun⟩
  · rw [List.mem_append, not_or] at hrefused
    have hnone := countP_opens (h.leaves hfirst).1
    have hone := hf before a hfirst hrefused.1 later q hlater hrefused.2
    rw [List.countP_append, hnone, Nat.zero_add]
    exact hone

theorem opensOnce_withSession {body : Nat → Job α} (h : ∀ s, (body s).run.Makes OpensNothing) :
    OpensOnce (withSession body).run := by
  have hclosing (s : Nat) : ((body s).run.bind fun r => .call (.closeSession s) fun _ => .done r :
      JobRoutine (Except Fault α)).Makes OpensNothing :=
    Routine.Makes.bind (h s) fun _ => ⟨nofun, fun _ => trivial⟩
  intro es q hleaves hrefused
  rcases Routine.leaves_call_iff.1 hleaves with ⟨rfl, rfl⟩ | ⟨opened, later, rfl, hlater⟩
  · exact ⟨Nat.zero_le _, nofun⟩
  · have hnone : later.countP opens = 0 := by
      cases opened with
      | error e =>
          obtain ⟨rfl, -⟩ := Routine.leaves_done_iff.1 hlater
          rfl
      | ok s => exact countP_opens ((hclosing s).leaves hlater).1
    rw [List.countP_cons, hnone]
    exact ⟨Nat.le_refl _, fun _ _ => rfl⟩

theorem opensOnce_andThen {f : α → Job β} (h : OpensOnce job.run)
    (hf : ∀ a, (f a).run.Makes OpensNothing) : OpensOnce (job >>= f).run := by
  refine OpensOnce.bind h fun outcome => ?_
  cases outcome with
  | ok a => exact hf a
  | error e => exact trivial

theorem opensOnce_ok {a : α} {f : α → Job β} (h : OpensOnce (f a).run) :
    OpensOnce (ofOutcome (.ok a) >>= f).run := h

theorem opensOnce_fetchAll [RowShape α] (q : RemoteQuery) : OpensOnce (fetchAll α q).run :=
  opensOnce_withSession fun _ => makes_fetch nofun

-- ============================================================================ the checks

/-- Whoever is not refused the slot of commands obtains its handler, without a
session. -/
theorem obtain_commands :
    (obtain .commands).run.Makes OpensNothing
      ∧ ∀ es r, (obtain .commands).run.Concludes es r → refused ∉ es →
        ∃ handler, r = .ok handler := by
  constructor
  · refine makes_withLock nofun (fun _ => nofun) ⟨nofun, fun present => ?_⟩
    match present with
    | some handler => exact trivial
    | none => exact ⟨nofun, fun _ => trivial⟩
  · intro es r hconcludes hrefused
    rcases concludes_withLock hconcludes with ⟨rfl, -⟩ | ⟨inner, -, hinner⟩
    · exact absurd (List.mem_singleton_self _) hrefused
    · obtain ⟨present, later, -, hlater⟩ := Routine.concludes_call_iff.1 hinner
      match present with
      | some handler =>
          obtain ⟨-, rfl⟩ := Routine.concludes_done_iff.1 hlater
          exact ⟨handler, rfl⟩
      | none =>
          obtain ⟨handler, _, -, hend⟩ := Routine.concludes_call_iff.1 hlater
          obtain ⟨-, rfl⟩ := Routine.concludes_done_iff.1 hend
          exact ⟨handler, rfl⟩

theorem opensOnce_executeCommand (command : String) : OpensOnce (executeCommand command).run := by
  rw [executeCommand_eq]
  refine OpensOnce.after obtain_commands.1 fun es r hconcludes hrefused => ?_
  obtain ⟨handler, rfl⟩ := obtain_commands.2 es r hconcludes hrefused
  exact opensOnce_withSession fun s => makes_runOver nofun

theorem opensOnce_readAll {query : MessageQuery} {filter : MessageFilter}
    (h : MessageFilter.ofQuery query = .ok filter) : OpensOnce (readAll query).run := by
  unfold readAll
  rw [h]
  exact opensOnce_ok (opensOnce_andThen (opensOnce_fetchAll _) fun _ => trivial)

theorem opensOnce_readNew {query : MessageQuery} {filter : MessageFilter}
    (h : MessageFilter.ofQuery query = .ok filter) : OpensOnce (readNew ctx query).run := by
  have hpoll : OpensOnce (poll ctx query).run :=
    opensOnce_withSession fun s => makes_expand
      (makes_pollCall (fun _ => nofun) (fun _ _ => nofun) (fun _ => nofun) fun _ _ _ => nofun) _
  unfold readNew
  rw [h]
  refine opensOnce_ok (opensOnce_andThen hpoll fun report => ?_)
  match report with
  | .initialized => exact trivial
  | .new _ => exact trivial

theorem opensOnce_of_opening {job : Job Result} (h : Request.Opening ctx job) :
    OpensOnce job.run := by
  cases h with
  | command command => exact opensOnce_andThen (opensOnce_executeCommand command) fun _ => trivial
  | queues refs =>
      have hqueues : OpensOnce (getJobQueues refs).run :=
        opensOnce_withSession fun s => makes_jobQueueRecords (fun _ _ => nofun) refs
      exact opensOnce_andThen hqueues fun _ => trivial
  | all h => exact opensOnce_readAll h
  | new h => exact opensOnce_readNew h

end

end Handler

/-- What a tenant keeps between requests: the handlers in its slots, their caches and
sessions. -/
def Tenant.equipment (x : Tenant) :
    HandlerSlots × List (Cache ActiveJob) × List (Cache DiskUnit) × List SystemHandler :=
  (x.slots, x.jobCaches, x.diskCaches, x.systems)

namespace Gateway

open Handler (opens refused OpensOnce)

/-- The remote system with its counters, the watermarks, and what the tenants keep, are
what they were. -/
structure Untouched (g g' : Gateway) : Prop where
  remote : g'.remote = g.remote
  watermarks : g'.watermarks = g.watermarks
  tenants : ∀ t : Nat,
    g'.tenants[t]?.map Tenant.equipment = g.tenants[t]?.map Tenant.equipment

section

variable {g g' start : Gateway} {x : Tenant} {t : Nat} {r : Request} {e : GatewayError}
  {before log : List Deed} {config : Config} {clock : Timestamp} {overflow : Overflow}

theorem work_of_fail {ctx : JobContext} (h : carryOut ctx r = Job.fail e) :
    CheckGateway.work ctx r = .done (some (.ofError e)) := by
  unfold CheckGateway.work
  rw [h]
  rfl

theorem opensOnce_work {ctx : JobContext} (h : Request.Opening ctx (carryOut ctx r)) :
    OpensOnce (CheckGateway.work ctx r) :=
  (Handler.opensOnce_of_opening h).bind fun _ => trivial

theorem untouched_updatePool (kind : PoolKind)
    (f : Pool Work Response → Pool Work Response) : Untouched g (g.updatePool t kind f) := by
  refine ⟨rfl, rfl, fun t' => ?_⟩
  unfold updatePool
  rw [getElem?_update, Option.map_map]
  refine congrArg (Option.map · _) (funext fun x => ?_)
  dsimp only [Function.comp]
  split <;> rfl

/-- A worker that goes on with a request that fails at once touches nothing. -/
theorem work_fails {ctx : JobContext} (h : carryOut ctx r = Job.fail e) (kind : PoolKind)
    (ticket : Nat) (gate : Option Nat) :
    g.work t kind ticket ⟨CheckGateway.work ctx r, gate⟩
      = g.updatePool t kind fun p => p.finish ticket (some (.ofError e)) := by
  rw [work_of_fail h]
  rfl

theorem equipment_served (y : Tenant) (pools : TenantPools) (inFlight : InFlight) :
    Tenant.equipment { y with pools := pools, inFlight := inFlight } = y.equipment := rfl

theorem equipment_started (g : Gateway) (x : Tenant) (r : Request) :
    (g.started x r).equipment = x.equipment := by
  unfold started queued withPool
  rfl

/-- A request that fails at once is answered so by a gateway at rest, which is left as it
was. -/
theorem Calm.dispatchTo_fails (h : Calm g) (ht : t ∈ g.registered) (hx : g.tenants[t]? = some x)
    (hfails : carryOut (g.context x) r = Job.fail e) :
    (g.dispatchTo t r).1 = .ofError e ∧ Untouched g (g.dispatchTo t r).2 := by
  have hadvance : advance t none (CheckGateway.work (g.context x) r) (g.working t x r)
      = ((.done (some (.ofError e)), none), g.working t x r) := by
    rw [work_of_fail hfails]
    rfl
  have hy : (g.working t x r).tenants[t]? = some (g.started x r) := by
    rw [tenants_working hx, if_pos rfl]
  rw [h.dispatchTo_eq ht hx hadvance (.refl _) hy]
  refine ⟨rfl, rfl, rfl, fun t' => ?_⟩
  dsimp only
  rw [tenants_put hy]
  split
  next heq =>
    rw [heq, hx, Option.map_some, Option.map_some, equipment_served, equipment_started]
  next hne => rw [tenants_working hx, if_neg hne]

/-- A request that fails at once asks for nothing, and is answered so. -/
theorem fails_at_once (hcreate : create config clock overflow = .ok start)
    (hbefore : start.Runs before g)
    (hx : g.tenants[t]? = some x) (hruns : (g.queueing t x r).Runs log g')
    (hfails : carryOut (g.context x) r = Job.fail e) :
    exchanges ⟨t, r.pool, g.tickets + 1⟩ log = []
      ∧ ∀ answer, (g.tickets + 1, answer) ∈ g'.answers → answer = some (.ofError e) := by
  obtain ⟨s, htracks, hcourse⟩ := Course.runs hcreate hbefore hx r hruns
  rw [work_of_fail hfails] at hcourse
  constructor
  · obtain ⟨q, hleaves⟩ := hcourse.leaves
    exact (Routine.leaves_done_iff.1 hleaves).1
  · intro answer hmem
    exact (Routine.concludes_done_iff.1 (hcourse.concludes htracks hmem)).2

/-- A request that opens one session does so once in every run. -/
theorem opens_once (hcreate : create config clock overflow = .ok start)
    (hbefore : start.Runs before g)
    (hx : g.tenants[t]? = some x) (hruns : (g.queueing t x r).Runs log g')
    (hopens : OpensOnce (CheckGateway.work (g.context x) r)) :
    (exchanges ⟨t, r.pool, g.tickets + 1⟩ log).countP opens ≤ 1
      ∧ ∀ answer, (g.tickets + 1, answer) ∈ g'.answers →
        (exchanges ⟨t, r.pool, g.tickets + 1⟩ log).countP opens = 1 := by
  obtain ⟨s, htracks, hcourse⟩ := Course.runs hcreate hbefore hx r hruns
  have hlimited := (limited_create hcreate).runs Handler.gentle_work hbefore
  have hsound := (slotsSound_create hcreate).runs (limited_create hcreate) hbefore
  have hcommands : HandlerKind.commands ≠ .system := nofun
  have hrefused : refused ∉ exchanges ⟨t, r.pool, g.tickets + 1⟩ log :=
    (hsound.queueing x r).never_refused
      (hlimited.enqueue hx r.payload (Handler.gentle_work (g.context x) r)) hcommands hruns _
  generalize CheckGateway.work (g.context x) r = routine at hcourse hopens
  constructor
  · obtain ⟨q, hleaves⟩ := hcourse.leaves
    exact (hopens _ q hleaves hrefused).1
  · intro answer hmem
    exact (hopens _ _ (hcourse.concludes htracks hmem) hrefused).2 answer rfl

/-- Bad arguments are found before anything is done: a worker that goes on with the
request, in whatever state the gateway is, ends it with an argument error and touches
nothing; in no run, whatever others do meanwhile, does the job of the request ask for
anything, and the answer is that error; and a gateway at rest answers with it and stays
as it is.

With good arguments, each of the checks over a session of its own asks for one session
at most, and for one by the time that it is answered. -/
theorem arguments_come_first (hcreate : create config clock overflow = .ok start)
    (hbefore : start.Runs before g) (hx : g.tenants[t]? = some x)
    (hruns : (g.queueing t x r).Runs log g') :
    (r.Bad → ∃ e : GatewayError, e.kind = .argument
      ∧ (∀ (g : Gateway) (y : Tenant) (t : Nat) (kind : PoolKind) (ticket : Nat),
          g.work t kind ticket (g.program y r)
              = g.updatePool t kind (fun p => p.finish ticket (some (.ofError e)))
            ∧ Untouched g (g.work t kind ticket (g.program y r)))
      ∧ exchanges ⟨t, r.pool, g.tickets + 1⟩ log = []
      ∧ (∀ answer, (g.tickets + 1, answer) ∈ g'.answers → answer = some (.ofError e))
      ∧ (Calm g → t ∈ g.registered →
          (g.dispatchTo t r).1 = .ofError e ∧ Untouched g (g.dispatchTo t r).2))
    ∧ (¬ r.Bad → ∀ check : Check, r.Names check → check.OwnSession →
        (exchanges ⟨t, r.pool, g.tickets + 1⟩ log).countP opens ≤ 1
          ∧ ∀ answer, (g.tickets + 1, answer) ∈ g'.answers →
            (exchanges ⟨t, r.pool, g.tickets + 1⟩ log).countP opens = 1) := by
  constructor
  · intro hbad
    obtain ⟨e, hkind, hfails⟩ := Request.carryOut_of_bad hbad
    have hends := fails_at_once hcreate hbefore hx hruns (hfails _)
    refine ⟨e, hkind, fun g y t kind ticket => ?_, hends.1, hends.2, fun hcalm ht => ?_⟩
    · have hwork := work_fails (g := g) (t := t) (hfails (g.context y)) kind ticket none
      refine ⟨hwork, ?_⟩
      have huntouched : Untouched g
          (g.updatePool t kind fun p => p.finish ticket (some (.ofError e))) :=
        untouched_updatePool kind _
      rw [← hwork] at huntouched
      exact huntouched
    · exact hcalm.dispatchTo_fails ht hx (hfails _)
  · intro hgood check hcheck hown
    exact opens_once hcreate hbefore hx hruns
      (opensOnce_work (Request.carryOut_of_good hgood hcheck hown _))

end

/-- Requests to run a command that is not given, and one that is. -/
def nameless : Request := ⟨⟨"host", "login", "password"⟩, "executeCommand", .empty, "payload"⟩

@[inherit_doc nameless]
def named : Request := { nameless with args := ⟨[("cmdName", .string "command")]⟩ }

theorem names_nameless {check : Check} : nameless.Names check ↔ check = .executeCommand := by
  cases check <;> decide +kernel

theorem bad_nameless : nameless.Bad :=
  .cmdName (names_nameless.2 rfl) fun s h => by
    cases h with
    | string h => cases h
    | number h => cases h
    | bool h => cases h

theorem not_bad_named : ¬ named.Bad := by
  have hnames {check : Check} (h : named.Names check) : check = .executeCommand :=
    names_nameless.1 h
  intro hbad
  cases hbad with
  | command h => exact h .executeCommand (names_nameless.2 rfl)
  | cmdName hcheck h => exact h "command" (.string rfl)
  | queues hcheck h => cases hnames hcheck
  | path hreads hcheck h =>
      cases hnames hcheck
      rcases hreads with hreads | hreads <;> cases hreads
  | pattern hreads hcheck hp h =>
      cases hnames hcheck
      rcases hreads with hreads | hreads <;> cases hreads

/-- A gateway with a request that it has admitted and queued ends up with an answer to it
after some turns. -/
def answeredBy (g : Gateway) (r : Request) (turns : List Turn) : Bool :=
  g.tenants[0]?.any fun x =>
    ((g.queueing 0 x r).play? turns).any fun played =>
      (played.2.answers.map Prod.fst).contains (g.tickets + 1)

/-- The first request to a gateway, admitted by it, is answered when a worker has taken it
and had a number of turns. -/
def answersFirst (r : Request) (turns : Nat) : Bool :=
  (dawn.play? [.resolve r.credentials, .accept 0 r]).any fun played =>
    played.2.answeredBy r (.take 0 r.pool :: List.replicate turns (.work ⟨0, r.pool, 1⟩))

theorem runs_of_answersFirst {r : Request} {turns : Nat} (h : answersFirst r turns = true) :
    ∃ before g x log g' answer, dawn.Runs before g ∧ g.tenants[0]? = some x
      ∧ (g.queueing 0 x r).Runs log g' ∧ (g.tickets + 1, answer) ∈ g'.answers := by
  obtain ⟨hbefore, h⟩ := (Option.any_eq_true_iff_get _ _).1 h
  obtain ⟨hx, h⟩ := (Option.any_eq_true_iff_get _ _).1 h
  obtain ⟨hplayed, h⟩ := (Option.any_eq_true_iff_get _ _).1 h
  obtain ⟨⟨n, answer⟩, hmem, hn⟩ := List.mem_map.1 (List.contains_iff_mem.1 h)
  cases hn
  exact ⟨_, _, _, _, _, answer, runs_played dawn _ hbefore, (Option.some_get hx).symm,
    runs_played _ _ hplayed, hmem⟩

/-- The command that is not given is asked for in vain; the other one is run over a
session. -/
theorem arguments_come_first_of_commands :
    (∃ before g x log g' e, dawn.Runs before g ∧ g.tenants[0]? = some x
        ∧ (g.queueing 0 x nameless).Runs log g' ∧ e.kind = .argument
        ∧ (g.tickets + 1, some (Response.ofError e)) ∈ g'.answers
        ∧ exchanges ⟨0, nameless.pool, g.tickets + 1⟩ log = [])
      ∧ ∃ before g x log g' answer, dawn.Runs before g ∧ g.tenants[0]? = some x
        ∧ (g.queueing 0 x named).Runs log g' ∧ (g.tickets + 1, answer) ∈ g'.answers
        ∧ (exchanges ⟨0, named.pool, g.tickets + 1⟩ log).countP opens = 1 := by
  have hcreate : create {} ⟨0, 0⟩ .panics = .ok dawn := rfl
  have hnameless : answersFirst nameless 3 = true := by decide +kernel
  have hnamed : answersFirst named 10 = true := by decide +kernel
  constructor
  · obtain ⟨before, g, x, log, g', answer, hbefore, hx, hruns, hmem⟩ :=
      runs_of_answersFirst hnameless
    obtain ⟨e, hkind, -, hasked, hanswer, -⟩ :=
      (arguments_come_first hcreate hbefore hx hruns).1 bad_nameless
    rw [hanswer answer hmem] at hmem
    exact ⟨before, g, x, log, g', e, hbefore, hx, hruns, hkind, hmem, hasked⟩
  · obtain ⟨before, g, x, log, g', answer, hbefore, hx, hruns, hmem⟩ :=
      runs_of_answersFirst hnamed
    obtain ⟨-, honce⟩ := (arguments_come_first hcreate hbefore hx hruns).2 not_bad_named
      .executeCommand (names_nameless.2 rfl) (.inl rfl)
    exact ⟨before, g, x, log, g', answer, hbefore, hx, hruns, hmem, honce answer hmem⟩

end Gateway

end CheckGateway
