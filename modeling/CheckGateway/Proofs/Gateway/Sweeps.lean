/-
What a sweep takes with it is not missed by the checks that keep nothing.

A run of requests, one at a time, is played twice: once as it is, and once
without its sweeps. In between the clock and the script of the remote system
change, in both runs alike. `sweeps_unnoticed`: the message queue checks and all
other checks that go through no handler which keeps anything are answered the
same in both runs, up to what a pool that has lost its worker is called.

# The two runs

A sweep leaves what jobs are shown, and the watermarks are among that. What it
takes with it are caches and sessions, so the other checks may well be answered
differently, and may send their queries in one run only. All that these leave
behind is a failure more or less that comes once in answer to their own queries,
and the checks that are watched do not send those. So the two gateways stay
`Abreast`, whatever is asked. The tenant that is rebuilt may spell the host and
the login in another way; the watermarks have keys that do not see this.

A request for which pools cannot be started kills the gateway in both runs.
-/
import CheckGateway.Proofs.Gateway.Requests

namespace CheckGateway.Gateway

-- ================================================================ the two runs

section

variable {g g' : Gateway}

/-- The event is a sweep. -/
def Event.isSweep : Event → Bool
  | .sweep _ => true
  | .request _ | .clock _ | .script _ => false

/-- A request, and the same request with an answer that resembles the other, or
with none in both runs. -/
def AnsweredSo (entry entry' : Request × Option Response) : Prop :=
  entry'.1 = entry.1 ∧ Option.Rel Response.Resembles entry.2 entry'.2

/-- Two gateways show the same to jobs, but for failures that come once in answer
to queries of the checks that keep something. -/
structure Abreast (g g' : Gateway) : Prop where
  furnished : Furnished g
  furnished' : Furnished g'
  config : g'.config = g.config
  overflow : g'.overflow = g.overflow
  outlook : Outlook.Agree RemoteQuery.kept g.outlook g'.outlook

/-- What happens outside happens to both. -/
theorem Abreast.clock (h : Abreast g g') (now : Timestamp) :
    Abreast { g with clock := now } { g' with clock := now } := by
  refine ⟨h.furnished.outside now g.remote.script, h.furnished'.outside now g'.remote.script,
    h.config, h.overflow, h.outlook.script, h.outlook.failures, rfl, h.outlook.marks⟩

theorem Abreast.script (h : Abreast g g') (s : Script) :
    Abreast { g with remote := { g.remote with script := s } }
      { g' with remote := { g'.remote with script := s } } :=
  ⟨h.furnished.outside g.clock s, h.furnished'.outside g'.clock s, h.config, h.overflow, rfl,
    fun _ _ => rfl, h.outlook.clock, h.outlook.marks⟩

/-- A sweep in one run only. -/
theorem Abreast.evictIdle (h : Abreast g g') (now : Timestamp) :
    Abreast (g.evictIdle now).2 g' := by
  have hsame := h.furnished.calm.sameSetting_evictIdle (K := Set.univ) now
  refine ⟨h.furnished.evictIdle now, h.furnished', h.config.trans hsame.config.symm,
    h.overflow.trans hsame.overflow.symm, ?_⟩
  rw [hsame.outlook]
  exact h.outlook

/-- A request that is made in both runs. -/
theorem Abreast.dispatch (h : Abreast g g') (r : Request)
    (hstartable : Startable g.config r.credentials.host) :
    Abreast (g.dispatch r).2 (g'.dispatch r).2
      ∧ (r.needs? = none → Option.Rel Response.Resembles (g.dispatch r).1 (g'.dispatch r).1) := by
  obtain ⟨t, g₁, hresolve⟩ : ∃ t g₁, g.resolve r.credentials = (.ok t, g₁) :=
    h.furnished.calm.resolve_ok_iff.2 hstartable
  obtain ⟨t', g₁', hresolve'⟩ : ∃ t' g₁', g'.resolve r.credentials = (.ok t', g₁') := by
    rw [h.furnished'.calm.resolve_ok_iff, h.config]
    exact hstartable
  obtain ⟨x, found, g₂, y, hdone⟩ := h.furnished.dispatch hresolve
  obtain ⟨x', found', g₂', y', hdone'⟩ := h.furnished'.dispatch hresolve'
  have hcarried := hdone.carried
  have hcarried' := hdone'.carried
  rw [h.config] at hcarried'
  rw [hdone.dispatched, hdone'.dispatched]
  constructor
  · exact ⟨hdone.furnished, hdone'.furnished,
      hdone'.config.trans (h.config.trans hdone.config.symm),
      hdone'.overflow.trans (h.overflow.trans hdone.overflow.symm),
      hcarried.agree hcarried' h.outlook⟩
  · intro hneeds
    have heq : found' = found := hcarried.free_eq hcarried' hneeds h.outlook
    subst heq
    exact .some (hdone.resembles hdone' h.config h.overflow)

-- ================================================================ to their ends

/-- The entries of a play that are about checks which keep nothing. -/
def keepless (entries : List (Request × Option Response)) : List (Request × Option Response) :=
  entries.filter fun entry => entry.1.needs?.isNone

theorem answeredSo_cons {r : Request} {a b : Option Response}
    {later later' : List (Request × Option Response)}
    (h : r.needs? = none → Option.Rel Response.Resembles a b)
    (hlater : List.Forall₂ AnsweredSo (keepless later) (keepless later')) :
    List.Forall₂ AnsweredSo (keepless ((r, a) :: later)) (keepless ((r, b) :: later')) := by
  unfold keepless
  by_cases hneeds : r.needs? = none
  · rw [List.filter_cons_of_pos (by simp [hneeds]), List.filter_cons_of_pos (by simp [hneeds])]
    exact .cons ⟨rfl, h hneeds⟩ hlater
  · rw [List.filter_cons_of_neg (by simp [hneeds]), List.filter_cons_of_neg (by simp [hneeds])]
    exact hlater

/-- Dead gateways refuse every request. -/
theorem play_of_poisoned (hpoisoned : g.poisoned = true) (hpoisoned' : g'.poisoned = true)
    (events : List Event) :
    List.Forall₂ AnsweredSo (keepless (g.play events))
      (keepless (g'.play (events.filter fun e => !e.isSweep))) := by
  induction events generalizing g g' with
  | nil => exact .nil
  | cons e later ih =>
      cases e with
      | clock now => exact ih hpoisoned hpoisoned'
      | script s => exact ih hpoisoned hpoisoned'
      | sweep now =>
          have hrest := ih (g := (g.evictIdle now).2)
            (by rw [evictIdle_of_poisoned hpoisoned]; exact hpoisoned) hpoisoned'
          exact hrest
      | request r =>
          show List.Forall₂ AnsweredSo (keepless ((r, (g.dispatch r).1) :: _))
            (keepless ((r, (g'.dispatch r).1) :: _))
          rw [dispatch_of_poisoned hpoisoned, dispatch_of_poisoned hpoisoned']
          exact answeredSo_cons (fun _ => .some (.inl rfl)) (ih hpoisoned hpoisoned')

/-- Two runs that are abreast are answered the same to their ends. -/
theorem Abreast.play (h : Abreast g g') (events : List Event) :
    List.Forall₂ AnsweredSo (keepless (g.play events))
      (keepless (g'.play (events.filter fun e => !e.isSweep))) := by
  induction events generalizing g g' with
  | nil => exact .nil
  | cons e later ih =>
      cases e with
      | clock now => exact ih (h.clock now)
      | script s => exact ih (h.script s)
      | sweep now => exact ih (h.evictIdle now)
      | request r =>
          show List.Forall₂ AnsweredSo (keepless ((r, (g.dispatch r).1) :: _))
            (keepless ((r, (g'.dispatch r).1) :: _))
          by_cases hstartable : Startable g.config r.credentials.host
          · obtain ⟨habreast, hanswer⟩ := h.dispatch r hstartable
            exact answeredSo_cons hanswer (ih habreast)
          · obtain ⟨hnone, hdead⟩ := h.furnished.calm.dispatch_of_not_startable hstartable
            rw [← h.config] at hstartable
            obtain ⟨hnone', hdead'⟩ := h.furnished'.calm.dispatch_of_not_startable hstartable
            rw [hnone, hnone']
            exact answeredSo_cons (fun _ => .none) (play_of_poisoned hdead hdead' later)

end

/-- Sweeps make no difference to the checks that keep nothing: message queues,
subsystems, job queues and commands, and a command that names no check. Requests
come one at a time, sweeps with any time come anywhere between them, and so do
other times of the clock and other scripts. A script may be any function of what is
asked (`Script.answers`), and another may come before each request, so what the
remote system answers may also depend on who asks. -/
theorem sweeps_unnoticed {config : Config} {clock : Timestamp} {overflow : Overflow}
    {start : Gateway}
    (hcreate : create config clock overflow = .ok start) (events : List Event) :
    List.Forall₂ AnsweredSo
      ((start.play events).filter fun entry => entry.1.needs?.isNone)
      ((start.play (events.filter fun e => !e.isSweep)).filter
        fun entry => entry.1.needs?.isNone) := by
  have hstart := furnished_create hcreate
  exact Abreast.play ⟨hstart, hstart, rfl, rfl, .refl _⟩ events

-- --------------------------------------------------------- a queue polled twice

/-- A queue that has had an entry gets a second one while the tenant that polls it
is swept out. The host is spelled in another way then. -/
def sweptPolls : List Event :=
  let entry : QueuedMessage := { date := ⟨0, 0⟩, severity := 10 }
  let later : QueuedMessage := { date := ⟨1, 0⟩, severity := 20 }
  [.script (queueWith entry), .request (pollOf "east"), .clock ⟨3600, 0⟩, .sweep ⟨7200, 0⟩,
    .script { messages := Table.insert .empty "/Q" [entry, later] }, .request (pollOf "EAST")]

/-- The second poll reports one entry. -/
theorem sweeps_unnoticed_of_polls :
    ((dawn.play sweptPolls).map fun entry => entry.2.map fun a => (a.message, a.result.length))
        = [some (some Handler.initializedMessage, 0), some (none, 1)]
      ∧ List.Forall₂ AnsweredSo
        ((dawn.play sweptPolls).filter fun entry => entry.1.needs?.isNone)
        ((dawn.play (sweptPolls.filter fun e => !e.isSweep)).filter
          fun entry => entry.1.needs?.isNone) := by
  have hcreate : create {} ⟨0, 0⟩ .panics = .ok dawn := rfl
  exact ⟨by decide +kernel, sweeps_unnoticed hcreate sweptPolls⟩

end CheckGateway.Gateway
