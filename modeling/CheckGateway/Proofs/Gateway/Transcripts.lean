/-
What jobs ask, and what they are answered.

`Routine.Concludes` lists the calls of a run with their answers. For a job the
list comes apart as the job is put together: a rule for what follows another
job, for an attempt, for what is done under a lock or over a session. Nothing is
assumed of the answers, so a fact of every list is one of every gateway,
whatever other jobs do between two of the calls. The other way round, a list
for a job is put together from lists for its parts.
-/
import CheckGateway.Gateway.Job
import CheckGateway.Proofs.Routine

namespace CheckGateway.Job

/-- A call of a job with its answer. -/
abbrev Exchange := (c : Call) × Answer c

section

variable {α β : Type} {job : Job α} {f : α → Job β} {es : List Exchange} {lock : Lock}

/-- A job followed by another asks what both ask, unless the first one ends in a
fault. -/
theorem concludes_andThen (job : Job α) {r : Except Fault β}
    (h : (job >>= f).run.Concludes es r) :
    (∃ a before later, es = before ++ later ∧ job.run.Concludes before (.ok a)
        ∧ (f a).run.Concludes later r)
      ∨ ∃ e, job.run.Concludes es (.error e) ∧ r = .error e := by
  obtain ⟨outcome, before, later, rfl, hfirst, hlater⟩ := Routine.concludes_bind_iff.1 h
  cases outcome with
  | ok a => exact .inl ⟨a, before, later, rfl, hfirst, hlater⟩
  | error e =>
      obtain ⟨rfl, rfl⟩ := Routine.concludes_done_iff.1 hlater
      rw [List.append_nil]
      exact .inr ⟨e, hfirst, rfl⟩

theorem concludes_ofOutcome {o : Outcome α} {r : Except Fault α}
    (h : (ofOutcome o).run.Concludes es r) : es = [] ∧ r = o.mapError .failed := by
  cases o with
  | ok a => exact Routine.concludes_done_iff.1 h
  | error e => exact Routine.concludes_done_iff.1 h

/-- An attempt asks what is attempted; only death goes through it. -/
theorem concludes_attempt {r : Except Fault (Outcome α)} (h : (attempt job).run.Concludes es r) :
    (∃ o : Outcome α, job.run.Concludes es (o.mapError .failed) ∧ r = .ok o)
      ∨ (job.run.Concludes es (.error .panicked) ∧ r = .error .panicked) := by
  obtain ⟨outcome, before, later, rfl, hfirst, hlater⟩ := Routine.concludes_bind_iff.1 h
  match outcome with
  | .ok a =>
      obtain ⟨rfl, rfl⟩ := Routine.concludes_done_iff.1 hlater
      rw [List.append_nil]
      exact .inl ⟨.ok a, hfirst, rfl⟩
  | .error (.failed e) =>
      obtain ⟨rfl, rfl⟩ := Routine.concludes_done_iff.1 hlater
      rw [List.append_nil]
      exact .inl ⟨.error e, hfirst, rfl⟩
  | .error .panicked =>
      obtain ⟨rfl, rfl⟩ := Routine.concludes_done_iff.1 hlater
      rw [List.append_nil]
      exact .inr ⟨hfirst, rfl⟩

/-- A lock is refused, or it is given back after what is done under it. -/
theorem concludes_withLock {r : Except Fault α} (h : (withLock lock job).run.Concludes es r) :
    (es = [⟨.acquire lock, false⟩] ∧ r = .error (.failed (.lockPoisoned lock.subject)))
      ∨ ∃ inner, es = ⟨.acquire lock, true⟩ :: (inner ++ [⟨.release lock (isDeath r), ()⟩])
        ∧ job.run.Concludes inner r := by
  obtain ⟨taken, rest, rfl, hrest⟩ := Routine.concludes_call_iff.1 h
  match taken with
  | false =>
      obtain ⟨rfl, rfl⟩ := Routine.concludes_done_iff.1 hrest
      exact .inl ⟨rfl, rfl⟩
  | true =>
      change Routine.Concludes (job.run.bind _) rest r at hrest
      obtain ⟨outcome, inner, later, rfl, hinner, hlater⟩ := Routine.concludes_bind_iff.1 hrest
      obtain ⟨_, _, rfl, hend⟩ := Routine.concludes_call_iff.1 hlater
      obtain ⟨rfl, rfl⟩ := Routine.concludes_done_iff.1 hend
      exact .inr ⟨inner, rfl, hinner⟩

/-- What is done over a session comes after it is opened and before it is
closed. -/
theorem concludes_withSession {body : Nat → Job α} {r : Except Fault α}
    (h : (withSession body).run.Concludes es r) :
    (∃ e, es = [⟨.openSession, (.error e : Except Fault Nat)⟩] ∧ r = .error e)
      ∨ ∃ (session : Nat) (inner : List Exchange),
        es = ⟨.openSession, (.ok session : Except Fault Nat)⟩
            :: (inner ++ [⟨.closeSession session, ()⟩])
          ∧ (body session).run.Concludes inner r := by
  obtain ⟨opened, rest, rfl, hrest⟩ := Routine.concludes_call_iff.1 h
  match opened with
  | .error e =>
      obtain ⟨rfl, rfl⟩ := Routine.concludes_done_iff.1 hrest
      exact .inl ⟨e, rfl, rfl⟩
  | .ok session =>
      change Routine.Concludes ((body session).run.bind _) rest r at hrest
      obtain ⟨outcome, inner, later, rfl, hinner, hlater⟩ := Routine.concludes_bind_iff.1 hrest
      obtain ⟨_, _, rfl, hend⟩ := Routine.concludes_call_iff.1 hlater
      obtain ⟨rfl, rfl⟩ := Routine.concludes_done_iff.1 hend
      exact .inr ⟨session, inner, rfl, hinner⟩

/-- A handler is let go after what is done with it. -/
theorem concludes_holding {handler : Nat} {r : Except Fault α}
    (h : (holding handler job).run.Concludes es r) :
    ∃ inner, es = inner ++ [⟨.letGo handler, ()⟩] ∧ job.run.Concludes inner r := by
  change Routine.Concludes (job.run.bind _) es r at h
  obtain ⟨outcome, inner, later, rfl, hinner, hlater⟩ := Routine.concludes_bind_iff.1 h
  obtain ⟨_, _, rfl, hend⟩ := Routine.concludes_call_iff.1 hlater
  obtain ⟨rfl, rfl⟩ := Routine.concludes_done_iff.1 hend
  exact ⟨inner, rfl, hinner⟩

-- ====================================================== lists put together

theorem andThen_concludes {later : List Exchange} {a : α} {r : Except Fault β}
    (h : job.run.Concludes es (.ok a)) (hf : (f a).run.Concludes later r) :
    (job >>= f).run.Concludes (es ++ later) r :=
  Routine.concludes_bind_iff.2 ⟨.ok a, es, later, rfl, h, hf⟩

theorem fault_concludes {e : Fault} (h : job.run.Concludes es (.error e)) :
    (job >>= f).run.Concludes es (.error e) :=
  Routine.concludes_bind_iff.2
    ⟨.error e, es, [], (List.append_nil es).symm, h, Routine.concludes_done_iff.2 ⟨rfl, rfl⟩⟩

theorem withSession_concludes {body : Nat → Job α} {session : Nat} {r : Except Fault α}
    (h : (body session).run.Concludes es r) :
    (withSession body).run.Concludes
      (⟨.openSession, .ok session⟩ :: (es ++ [⟨.closeSession session, ()⟩])) r := by
  have hclosed : Routine.Concludes
      (.call (.closeSession session) fun _ => .done r : JobRoutine (Except Fault α))
      [⟨.closeSession session, ()⟩] r :=
    Routine.concludes_call_iff.2 ⟨(), [], rfl, Routine.concludes_done_iff.2 ⟨rfl, rfl⟩⟩
  have hopened : openSession.run.Concludes [⟨.openSession, .ok session⟩] (.ok session) :=
    Routine.concludes_call_iff.2
      ⟨Except.ok session, [], rfl, Routine.concludes_done_iff.2 ⟨rfl, rfl⟩⟩
  exact andThen_concludes hopened (Routine.concludes_bind_iff.2 ⟨r, es, _, rfl, h, hclosed⟩)

end

end CheckGateway.Job
