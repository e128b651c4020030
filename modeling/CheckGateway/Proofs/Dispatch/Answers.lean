/-
Calls that come back: by the time a caller has its answer, the admission of
its request has been released.

# How a call ends

A call that is admitted comes back in one of three ways (`Ends`). Its
submission was accepted and its guard handed off: then it waits for what
the worker delivers, a reply, or the news that the job died. Or the pool
refused the item, because it was shut down or had no room in time: then the
guard is dropped before the call returns. A submitter who gives up does not
come back at all, and a request that is rejected never had an admission.

# Whose fault a rejection is

A delivered item has lived a whole life, in which its own fingerprint is
released before the outcome is delivered (`Over.released_of_delivered`), be
the outcome a reply or a death. A rejection points at one admission that is
not released, so at one whose caller has not come back.
-/
import CheckGateway.Proofs.Dispatch.Exact
import CheckGateway.Proofs.Gateway.Operations
import Mathlib.Data.List.Induction
import Mathlib.Data.List.Nodup

namespace CheckGateway

-- =============================================================== lives

section

open Pool

variable {Job Reply : Type} {ℓ : List (Act Job Reply)} {p : Place Job Reply}
  {t : Nat} {outcome : Option Reply}

/-- Of a submission that is somewhere nothing has been delivered. -/
theorem Pool.Fits.not_delivered (h : Fits p ℓ) :
    .did (.delivered t outcome) ∉ ℓ := by
  cases h <;> simp [execution, admission, List.mem_replicate]

/-- What is delivered was released before, under the fingerprint with which
it was asked for. -/
theorem Pool.Over.released_of_delivered (h : Over ℓ)
    (hmem : .did (.delivered t outcome) ∈ ℓ) :
    ∃ item : Item Job, item.ticket = t
      ∧ .did (.released t item.fingerprint) ∈ ℓ := by
  cases h with
  | served item n outcome =>
      have hticket : t = item.ticket := by
        simp [service, execution, admission, List.mem_replicate] at hmem
        exact hmem.1
      subst hticket
      exact ⟨item, rfl, by simp [service]⟩
  | turnedAway | refused | hungUp | gaveUp => simp at hmem

end

namespace Dispatch

variable {Job Reply : Type}

-- =============================================================== calls

/-- How the call under a ticket ends, given what has happened. -/
inductive Ends (pools : PoolKind → Pool Job Reply) (log : List (Deed Job Reply))
    (ticket : Nat) : Outcome Reply → Prop where
  | replied (kind : PoolKind) {reply : Reply} (hsent : .handedOff ticket ∈ log)
      (hreply : .lane kind (.did (.delivered ticket (some reply))) ∈ log) :
      Ends pools log ticket (.ok reply)
  | lost (kind : PoolKind) (hsent : .handedOff ticket ∈ log)
      (hlost : .lane kind (.did (.delivered ticket none)) ∈ log) :
      Ends pools log ticket (.error (.workerLost (pools kind).name))
  | refused (kind : PoolKind) {e : GatewayError} {fp : String}
      (hrefused : .lane kind (.refused ticket e) ∈ log)
      (hdropped : .dropped ticket fp ∈ log) : Ends pools log ticket (.error e)

/-- What can happen to a dispatcher and its callers. -/
inductive Turn (Job Reply : Type) where
  | deed (a : Deed Job Reply)
  /-- A call has come back. -/
  | answered (ticket : Nat) (outcome : Outcome Reply)

/-- What has happened to the dispatcher. -/
def deeds (turns : List (Turn Job Reply)) : List (Deed Job Reply) :=
  turns.filterMap fun
    | .deed a => some a
    | .answered .. => none

/-- A call has come back. -/
def IsAnswered (turns : List (Turn Job Reply)) (ticket : Nat) : Prop :=
  ∃ outcome, .answered ticket outcome ∈ turns

/-- What can happen to a dispatcher and its callers, first to last. A call
comes back once, at any time after it has ended. -/
inductive Exchange (pools : PoolKind → Pool Job Reply) :
    List (Turn Job Reply) → Dispatcher Job Reply → Prop where
  | start : Exchange pools [] { lanes := fun kind => { pool := pools kind } }
  | deed {turns : List (Turn Job Reply)} {d d' : Dispatcher Job Reply}
      {a : Deed Job Reply} (h : Exchange pools turns d) (hstep : Step d a d') :
      Exchange pools (turns ++ [.deed a]) d'
  | answer {turns : List (Turn Job Reply)} {d : Dispatcher Job Reply}
      {ticket : Nat} {outcome : Outcome Reply} (h : Exchange pools turns d)
      (hends : Ends pools (deeds turns) ticket outcome)
      (honce : ¬ IsAnswered turns ticket) :
      Exchange pools (turns ++ [.answered ticket outcome]) d

section

variable {pools : PoolKind → Pool Job Reply} {turns more : List (Turn Job Reply)}
  {d d' : Dispatcher Job Reply} {a : Deed Job Reply} {ticket : Nat}
  {outcome : Outcome Reply} {log : List (Deed Job Reply)} {kind : PoolKind}

theorem deeds_append : deeds (turns ++ more) = deeds turns ++ deeds more :=
  List.filterMap_append ..

theorem deeds_concat_answered :
    deeds (turns ++ [.answered ticket outcome]) = deeds turns := by
  rw [deeds_append]
  exact List.append_nil _

/-- Callers only look on. -/
theorem Exchange.run (h : Exchange pools turns d) : Run pools (deeds turns) d := by
  induction h with
  | start => exact .start
  | deed _ hstep ih =>
      rw [deeds_append]
      exact ih.step hstep
  | answer _ _ _ ih =>
      rw [deeds_concat_answered]
      exact ih

theorem mem_releases_of_released {fp : String}
    (h : .lane kind (.did (.released ticket fp)) ∈ log) : (ticket, fp) ∈ releases log :=
  List.mem_filterMap.2 ⟨_, h, rfl⟩

theorem mem_releases_of_dropped {fp : String} (h : .dropped ticket fp ∈ log) :
    (ticket, fp) ∈ releases log :=
  List.mem_filterMap.2 ⟨_, h, rfl⟩

/-- What a lane has delivered it has released. -/
theorem Run.released_of_delivered (h : Run pools log d)
    (hfresh : ∀ kind, Pool.Fresh (pools kind)) {result : Option Reply}
    (hmem : .lane kind (.did (.delivered ticket result)) ∈ log) :
    ∃ fp, (ticket, fp) ∈ releases log := by
  have hplaced := ((h.lane kind).books (hfresh kind)).placed
  have hlife : .did (.delivered ticket result) ∈ Pool.life ticket (laneLog kind log) :=
    Pool.mem_life.2 ⟨mem_laneLog.2 hmem, rfl⟩
  have hknown : ticket ∈ (d.lanes kind).tickets := by
    refine Decidable.byContradiction fun hnot => ?_
    rw [hplaced.unknown _ hnot] at hlife
    cases hlife
  rcases hplaced.ended _ hknown with ⟨p, hp, rfl⟩ | hover
  · exact absurd hlife (hplaced.fits p hp).not_delivered
  · obtain ⟨item, -, hreleased⟩ := hover.released_of_delivered hlife
    exact ⟨_, mem_releases_of_released (mem_laneLog.1 (Pool.mem_life.1 hreleased).1)⟩

/-- A call that has ended has no admission any more. -/
theorem Ends.released (h : Ends pools log ticket outcome) (hrun : Run pools log d)
    (hfresh : ∀ kind, Pool.Fresh (pools kind)) :
    ∃ fp, (ticket, fp) ∈ releases log := by
  cases h with
  | replied _ _ hreply => exact hrun.released_of_delivered hfresh hreply
  | lost _ _ hlost => exact hrun.released_of_delivered hfresh hlost
  | refused _ _ hdropped => exact ⟨_, mem_releases_of_dropped hdropped⟩

/-- The last thing that has happened: where a call came back, it had ended. -/
theorem Exchange.of_concat {last : Turn Job Reply}
    (h : Exchange pools (turns ++ [last]) d) :
    (∃ d', Exchange pools turns d')
      ∧ ∀ ticket outcome, last = .answered ticket outcome →
        Ends pools (deeds turns) ticket outcome := by
  generalize hall : turns ++ [last] = all at h
  cases h with
  | start => simp at hall
  | deed h hstep =>
      obtain ⟨rfl, hlast⟩ := List.append_inj' hall rfl
      cases hlast
      exact ⟨⟨_, h⟩, fun _ _ heq => (by cases heq)⟩
  | answer h hends honce =>
      obtain ⟨rfl, hlast⟩ := List.append_inj' hall rfl
      cases hlast
      refine ⟨⟨_, h⟩, fun _ _ heq => ?_⟩
      cases heq
      exact hends

/-- What has happened up to some point could have been everything. -/
theorem Exchange.initial (h : Exchange pools (turns ++ more) d) :
    ∃ d', Exchange pools turns d' := by
  induction more using List.reverseRecOn generalizing d with
  | nil =>
      rw [List.append_nil] at h
      exact ⟨d, h⟩
  | append_singleton more last ih =>
      rw [← List.append_assoc] at h
      obtain ⟨⟨d', h'⟩, -⟩ := h.of_concat
      exact ih h'

/-- When a call comes back, its admission has been released. -/
theorem Exchange.released (hfresh : ∀ kind, Pool.Fresh (pools kind))
    (h : Exchange pools (turns ++ .answered ticket outcome :: more) d) :
    ∃ fp, (ticket, fp) ∈ releases (deeds turns) := by
  rw [List.append_cons] at h
  obtain ⟨d₁, h₁⟩ := h.initial
  obtain ⟨⟨d₀, h₀⟩, hends⟩ := h₁.of_concat
  exact (hends _ _ rfl).released h₀.run hfresh

/-- An admission that is not released belongs to a call that has not come
back. -/
theorem Exchange.not_answered (hfresh : ∀ kind, Pool.Fresh (pools kind))
    (h : Exchange pools turns d) {fp : String}
    (hopen : Unreleased (deeds turns) (ticket, fp)) : ¬ IsAnswered turns ticket := by
  rintro ⟨outcome, hmem⟩
  obtain ⟨before, after, rfl⟩ := List.append_of_mem hmem
  obtain ⟨fp', hreleased⟩ := h.released hfresh
  have hgone : (ticket, fp') ∈ releases (deeds (before ++ .answered ticket outcome :: after)) := by
    rw [deeds_append]
    exact mem_releases_append hreleased
  have hledger := h.run.ledger hfresh
  have hown := hledger.account.mem_iff.2 (List.mem_append_right _ hgone)
  have hsame := List.inj_on_of_nodup_map hledger.distinct hown hopen.1 rfl
  exact hopen.2 (hsame ▸ hgone)

end

end Dispatch

-- ========================================================== rejections

namespace Gateway

variable {g g' : Gateway} {t ms : Nat} {r : Request}

/-- A pool does not know duplicates. -/
theorem enqueue_ne_duplicate (h : g.enqueue t r = .error (.duplicateInFlight ms)) :
    False := by
  unfold enqueue at h
  cases hx : g.tenants[t]? with
  | none =>
      rw [hx] at h
      cases h
  | some x =>
      rw [hx] at h
      dsimp only [Bind.bind, Except.bind] at h
      cases hsubmit : (x.pools.get r.pool).submit ⟨g.tickets + 1, r.payload, g.program x r⟩ with
      | ok p =>
          rw [hsubmit] at h
          cases h
      | error e =>
          rw [hsubmit] at h
          cases h
          unfold Pool.submit at hsubmit
          split at hsubmit
          · cases hsubmit
          · split at hsubmit <;> cases hsubmit

/-- A request that is rejected as a duplicate leaves filters and pools as
they are. -/
theorem keeps_of_duplicate (h : g.offer t r = (.error (.duplicateInFlight ms), g')) :
    Keeps g g' := by
  unfold offer at h
  dsimp only at h
  split at h
  · obtain ⟨-, rfl⟩ := Prod.mk.inj h
    exact keeps_update fun _ => rfl
  · split at h
    next henqueue =>
      obtain ⟨he, -⟩ := Prod.mk.inj h
      cases he
      exact (enqueue_ne_duplicate henqueue).elim
    · cases h

end Gateway

namespace Dispatch

variable {Job Reply : Type}

-- ============================================================= the whole

/-- What callers of a dispatcher can rely on at every point. -/
structure Resendable (pools : PoolKind → Pool Job Reply)
    (turns : List (Turn Job Reply)) (d : Dispatcher Job Reply) : Prop where
  /-- When a call comes back, with whatever outcome, the one admission of its
  ticket has been released. -/
  released : ∀ before ticket outcome after,
    turns = before ++ .answered ticket outcome :: after →
    ∃ fp, (ticket, fp) ∈ admissions (deeds before)
      ∧ (∀ fp', (ticket, fp') ∈ admissions (deeds turns) → fp' = fp)
      ∧ (ticket, fp) ∈ releases (deeds before)
  /-- A rejection is on account of one admission, and its call has not come
  back. -/
  blamed : ∀ fp e d', Step d (.rejected fp e) d' →
    ∃ ticket, Unreleased (deeds turns) (ticket, fp)
      ∧ (∀ other, Unreleased (deeds turns) (other, fp) → other = ticket)
      ∧ ¬ IsAnswered turns ticket
  /-- When all calls with a payload have come back, it is admitted again. -/
  readmitted : ∀ kind (item : Item Job), item.ticket ∉ d.tickets →
    (∀ ticket, (ticket, item.fingerprint) ∈ admissions (deeds turns) →
      IsAnswered turns ticket) →
    (∃ d', Step d (.admitted kind item) d')
      ∧ ¬ ∃ e d', Step d (.rejected item.fingerprint e) d'
  /-- A rejection changes neither the filter nor a pool. -/
  unchanged : ∀ fp e d', Step d (.rejected fp e) d' →
    d'.inFlight = d.inFlight ∧ d'.lanes = d.lanes

section

variable {specs : PoolKind → PoolSpec} {numbers : PoolKind → Nat}
  {pools : PoolKind → Pool Job Reply} {turns : List (Turn Job Reply)}
  {d : Dispatcher Job Reply}

/-- An admission is released before its caller has the answer, however the
call ends; so whoever sends a request again after the answer is not rejected
on account of the first time, and whoever is rejected has changed nothing. -/
theorem released_before_answered
    (hstart : ∀ kind, Pool.start? (specs kind) (numbers kind) = some (pools kind))
    (h : Exchange pools turns d) :
    Resendable pools turns d
      ∧ ∀ (g g' : Gateway) t r ms,
        g.offer t r = (.error (.duplicateInFlight ms), g') → Gateway.Keeps g g' := by
  have hfresh : ∀ kind, Pool.Fresh (pools kind) := fun kind =>
    (Pool.start?_eq (hstart kind)).1
  have hledger := h.run.ledger hfresh
  refine ⟨⟨?_, ?_, ?_, ?_⟩, fun g g' t r ms => Gateway.keeps_of_duplicate⟩
  · rintro before ticket outcome after rfl
    obtain ⟨fp, hreleased⟩ := h.released hfresh
    obtain ⟨d₀, h₀⟩ := h.initial
    have hown := (h₀.run.ledger hfresh).account.mem_iff.2 (List.mem_append_right _ hreleased)
    refine ⟨fp, hown, fun fp' hmem => ?_, hreleased⟩
    have hmono : (ticket, fp) ∈ admissions
        (deeds (before ++ .answered ticket outcome :: after)) := by
      rw [deeds_append]
      exact mem_admissions_append hown
    exact congrArg Prod.snd (List.inj_on_of_nodup_map hledger.distinct hmem hmono rfl)
  · intro fp e d' hstep
    obtain ⟨ticket, hopen⟩ := (hledger.rejects_iff fp).1 ⟨e, d', hstep⟩
    exact ⟨ticket, hopen, fun other hother => hledger.unique hother hopen,
      h.not_answered hfresh hopen⟩
  · intro kind item hnew hall
    have hnone : ¬ ∃ ticket, Unreleased (deeds turns) (ticket, item.fingerprint) := by
      rintro ⟨ticket, hopen⟩
      exact h.not_answered hfresh hopen (hall ticket hopen.1)
    exact ⟨(hledger.admits_iff hnew).2 hnone, fun hreject =>
      hnone ((hledger.rejects_iff _).1 hreject)⟩
  · intro fp e d' hstep
    cases hstep with
    | reject => exact ⟨rfl, rfl⟩

/-- A job dies, with a rejection in the meantime; its caller sends the request
again when the answer is there, and finds the pool shut down. -/
def resent : List (Turn Unit Unit) :=
  [.deed (.admitted .global ⟨0, "fp", ()⟩), .deed (.lane .global (.asked ⟨0, "fp", ()⟩)),
    .deed (.lane .global (.entered 0)), .deed (.lane .global (.accepted ⟨0, "fp", ()⟩)),
    .deed (.handedOff 0), .deed (.lane .global (.did (.took 0))),
    .deed (.rejected "fp" (.duplicateInFlight 0)), .deed (.lane .global (.ended 0 none)),
    .deed (.lane .global (.did (.released 0 "fp"))),
    .deed (.lane .global (.did (.delivered 0 none))),
    .answered 0 (.error (.workerLost (smallPools .global).name)),
    .deed (.admitted .global ⟨1, "fp", ()⟩), .deed (.lane .global (.asked ⟨1, "fp", ()⟩)),
    .deed (.lane .global .shutDown),
    .deed (.lane .global (.refused 1 (smallPools .global).refusal)), .deed (.dropped 1 "fp"),
    .answered 1 (.error (smallPools .global).refusal)]

/-- The second call is admitted. -/
theorem released_before_answered_lost :
    ∃ d, Exchange smallPools resent d ∧ Resendable smallPools resent d := by
  have hstart : ∀ kind, Pool.start? ⟨"host", kind, 0, 0, 0⟩ 0 = some (smallPools kind) :=
    fun kind => by cases kind <;> rfl
  have h : Exchange smallPools [] _ := .start
  have h := h.deed (.letIn .global ⟨0, "fp", ()⟩ ⟨0, 0⟩ (by decide) rfl)
  have h := h.deed (.ask (show _ = [] ++ _ :: [] from rfl) (.ask _ (by decide)))
  have h := h.deed (.move .global rfl (.enter (show _ = [] ++ _ :: [] from rfl) rfl))
  have h := h.deed (.accept (show _ = [] ++ _ :: [] from rfl)
    (.accept (show _ = [] ++ _ :: [] from rfl) rfl))
  have h := h.deed (.handOff (show _ = [] ++ _ :: [] from rfl))
  have h := h.deed (.move .global rfl (.take rfl (by decide) rfl))
  have h := h.deed (.reject "fp" ⟨0, 0⟩ rfl)
  have h := h.deed (.move .global rfl (.finish none (List.mem_cons_self ..) rfl))
  have h := h.deed (.release .global (.release (List.mem_cons_self ..) rfl))
  have h := h.deed (.move .global rfl (.deliver (List.mem_cons_self ..) rfl))
  have h : Exchange smallPools (resent.take 10) _ := h
  have h : Exchange smallPools (resent.take 11) _ :=
    h.answer (.lost .global (by simp [deeds, resent]) (by simp [deeds, resent]))
      (by simp [IsAnswered, resent])
  have h := h.deed (.letIn .global ⟨1, "fp", ()⟩ ⟨0, 0⟩ (by decide) rfl)
  have h := h.deed (.ask (show _ = [] ++ _ :: [] from rfl) (.ask _ (by decide)))
  have h := h.deed (.move .global rfl .shutDown)
  have h := h.deed (.refuse (show _ = [] ++ _ :: [] from rfl)
    (.turnAway (show _ = [] ++ _ :: [] from rfl) rfl))
  have h := h.deed (.drop (show _ = [] ++ _ :: [] from rfl))
  have h : Exchange smallPools (resent.take 16) _ := h
  have hdropped : .dropped 1 "fp" ∈ deeds (resent.take 16) := by simp [deeds, resent]
  have h : Exchange smallPools resent _ :=
    h.answer (.refused .global (by simp [deeds, resent]) hdropped)
      (by simp [IsAnswered, resent])
  exact ⟨_, h, (released_before_answered hstart h).1⟩

end

end Dispatch

end CheckGateway
