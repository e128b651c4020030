/-
Who is to release what: the ledger of a dispatcher.

# Claims

A claim is a ticket with its fingerprint. A guard that is not sent holds
one, and so does an item that is queued or taken and not released yet.
`Step.claim_flow` is the whole argument: a step adds a claim when it admits
a request, takes one out when it releases a fingerprint, and otherwise at
most passes one from a guard to an item. No claim is ever in two hands, so
it makes no difference who comes first.

# The filter

A fingerprint is admitted only while it is absent. So the claims have
different fingerprints, and the filter holds exactly those: to release one
claim is to erase one fingerprint and no other.
-/
import CheckGateway.Proofs.Dispatch.Steps

namespace CheckGateway.Dispatch

open Pool (perm_append_right_comm perm_carry)

variable {Job Reply : Type}

-- ============================================================= the claims

/-- The claim of an item that a pool has accepted, until it is released. -/
def claim? : Pool.Place Job Reply → Option (Nat × String)
  | .calling _ => none
  | .waiting _ => none
  | .queued item => some (item.ticket, item.fingerprint)
  | .taken ⟨ticket, fingerprint, stage⟩ =>
      match stage with
      | .running _ => some (ticket, fingerprint)
      | .finished _ => some (ticket, fingerprint)
      | .released _ => none

/-- The items that are queued or being executed in a pool. -/
def work (s : Pool.Live Job Reply) : List (Nat × String) :=
  s.places.filterMap claim?

/-- The claim of a guard. -/
def Guard.claim? (g : Guard Job) : Option (Nat × String) :=
  match g.phase with
  | .sent => none
  | _ => some (g.item.ticket, g.item.fingerprint)

/-- What guards are to release. -/
def heldBy (guards : List (Guard Job)) : List (Nat × String) :=
  guards.filterMap Guard.claim?

namespace Dispatcher

/-- What there is in all lanes together. -/
def overLanes {α : Type} (d : Dispatcher Job Reply)
    (f : Pool.Live Job Reply → List α) : List α :=
  PoolKind.all.flatMap fun kind => f (d.lanes kind)

/-- What hooks are to release. -/
def work (d : Dispatcher Job Reply) : List (Nat × String) :=
  d.overLanes Dispatch.work

/-- All that is to be released. -/
def claims (d : Dispatcher Job Reply) : List (Nat × String) :=
  heldBy d.guards ++ d.work

end Dispatcher

/-- The claims that have been admitted. -/
def admissions (log : List (Deed Job Reply)) : List (Nat × String) :=
  log.filterMap fun
    | .admitted _ item => some (item.ticket, item.fingerprint)
    | _ => none

/-- The claims that have been released, by guards or by hooks. -/
def releases (log : List (Deed Job Reply)) : List (Nat × String) :=
  log.filterMap fun
    | .lane _ (.did (.released ticket fingerprint)) => some (ticket, fingerprint)
    | .dropped ticket fingerprint => some (ticket, fingerprint)
    | _ => none

-- ============================================================ the flows

section

variable {s s' : Pool.Live Job Reply} {a : Pool.Act Job Reply} {kind : PoolKind}

/-- The claim that a lane gets from a guard. -/
def entries : Pool.Act Job Reply → List (Nat × String)
  | .accepted item => [(item.ticket, item.fingerprint)]
  | _ => []

/-- A lane has the claims that it accepted and has not released. -/
theorem work_flow (h : Pool.Step s a s')
    (hnodup : (s.places.map Pool.Place.ticket).Nodup) :
    (work s ++ entries a).Perm (work s' ++ releases [.lane kind a]) := by
  rcases h.moves hnodup with ⟨p, p', rest, hs, hs', hmove⟩ | ⟨ha, hplaces⟩
  · have hwork := hs.filterMap claim?
    have hwork' := hs'.filterMap claim?
    refine (hwork.append_right _).trans (.trans ?_ (hwork'.append_right _).symm)
    rw [List.filterMap_append, List.filterMap_append]
    cases hmove with
    | accept item =>
        show (rest.filterMap claim? ++ [_]).Perm (_ :: rest.filterMap claim? ++ [])
        rw [List.append_nil]
        exact List.perm_append_singleton ..
    | release ticket fp outcome =>
        show (_ :: rest.filterMap claim? ++ []).Perm (rest.filterMap claim? ++ [_])
        rw [List.append_nil]
        exact (List.perm_append_singleton ..).symm
    | _ => exact .refl _
  · have hnone : entries a = [] ∧ releases [.lane kind a] = [] := by
      cases a with
      | did event => cases event <;> cases ha
      | accepted item => cases ha
      | _ => exact ⟨rfl, rfl⟩
    unfold work
    rw [hplaces, hnone.1, hnone.2]

end

section

variable {d d' : Dispatcher Job Reply} {a : Deed Job Reply} {kind : PoolKind}
  {s : Pool.Live Job Reply} {front back : List (Guard Job)} {g g' : Guard Job}

/-- What there is in the other lanes. -/
def Dispatcher.overOthers {α : Type} (d : Dispatcher Job Reply)
    (kind : PoolKind) (f : Pool.Live Job Reply → List α) : List α :=
  (PoolKind.all.filter fun other => other ≠ kind).flatMap fun other => f (d.lanes other)

theorem overLanes_perm {α : Type} (d : Dispatcher Job Reply) (kind : PoolKind)
    (f : Pool.Live Job Reply → List α) :
    (d.overLanes f).Perm (f (d.lanes kind) ++ d.overOthers kind f) := by
  have hkinds : PoolKind.all.Perm
      (kind :: PoolKind.all.filter fun other => other ≠ kind) := by
    cases kind <;> decide
  exact hkinds.flatMap_right fun other => f (d.lanes other)

/-- What one lane gets and gives, all lanes together get and give. -/
theorem overLanes_flow {α : Type} {f : Pool.Live Job Reply → List α}
    {new left : List α} (h : (f (d.lanes kind) ++ new).Perm (f s ++ left)) :
    (d.overLanes f ++ new).Perm ((d.setLane kind s).overLanes f ++ left) := by
  have hothers : (d.setLane kind s).overOthers kind f = d.overOthers kind f := by
    cases kind <;> rfl
  have hperm := overLanes_perm d kind f
  have hperm' := overLanes_perm (d.setLane kind s) kind f
  rw [lanes_setLane_self, hothers] at hperm'
  refine (hperm.append_right _).trans (.trans ?_ (hperm'.append_right _).symm)
  exact (perm_append_right_comm ..).trans
    ((h.append_right _).trans (perm_append_right_comm ..))

/-- What a step of a lane does to the work of the dispatcher. -/
theorem lane_flow {act : Pool.Act Job Reply} (h : Pool.Step (d.lanes kind) act s)
    (hnodup : ((d.lanes kind).places.map Pool.Place.ticket).Nodup) :
    (d.work ++ entries act).Perm
      ((d.setLane kind s).work ++ releases [.lane kind act]) :=
  overLanes_flow (work_flow h hnodup)

theorem filterMap_split {α β : Type} {f : α → Option β} {front back : List α}
    {a : α} : ((front ++ a :: back).filterMap f).Perm
      ((f a).toList ++ (front ++ back).filterMap f) := by
  refine (List.perm_middle.filterMap f).trans (.of_eq ?_)
  cases ha : f a with
  | none => exact List.filterMap_cons_none ha
  | some b => exact List.filterMap_cons_some ha

theorem heldBy_split :
    (heldBy (front ++ g :: back)).Perm (g.claim?.toList ++ heldBy (front ++ back)) :=
  filterMap_split

/-- Where what guards hold is passed on, others hold what they held. -/
theorem perm_pass {α : Type} {held held' rest work work' new left : List α}
    (out into : List α) (hheld : held.Perm (out ++ rest))
    (hheld' : held'.Perm (into ++ rest))
    (hpass : (out ++ work ++ new).Perm (into ++ work' ++ left)) :
    (held ++ work ++ new).Perm (held' ++ work' ++ left) := by
  have hfront : ∀ xs ys zs : List α,
      (xs ++ rest ++ ys ++ zs).Perm (rest ++ (xs ++ ys ++ zs)) := by
    intro xs ys zs
    rw [List.append_assoc (xs ++ rest), List.append_assoc xs ys]
    refine (List.perm_append_comm.append_right _).trans (.of_eq ?_)
    rw [List.append_assoc]
  have hout := ((hheld.append_right work).append_right new).trans (hfront ..)
  have hinto := ((hheld'.append_right work').append_right left).trans (hfront ..)
  exact hout.trans ((hpass.append_left rest).trans hinto.symm)

/-- Where a guard keeps its claim, the claims change with the work. -/
theorem perm_keep {work work' new left : List (Nat × String)}
    (hkeep : g'.claim? = g.claim?) (hwork : (work ++ new).Perm (work' ++ left)) :
    (heldBy (front ++ g :: back) ++ work ++ new).Perm
      (heldBy (front ++ g' :: back) ++ work' ++ left) := by
  refine perm_pass _ _ heldBy_split heldBy_split ?_
  rw [hkeep, List.append_assoc, List.append_assoc]
  exact hwork.append_left _

/-- An act that needs no guard and releases nothing moves no claim. -/
theorem nothing_of_isFree (kind : PoolKind) {act : Pool.Act Job Reply}
    (h : isFree act = true) :
    entries act = [] ∧ releases [.lane kind act] = [] := by
  cases act with
  | accepted item => cases h
  | did event =>
      cases event with
      | released ticket fp => cases h
      | _ => exact ⟨rfl, rfl⟩
  | _ => exact ⟨rfl, rfl⟩

/-- A step adds the claim that it admits, and takes out the claim that it
releases. -/
theorem Step.claim_flow (h : Step d a d')
    (hnodup : ∀ kind, ((d.lanes kind).places.map Pool.Place.ticket).Nodup) :
    (d.claims ++ admissions [a]).Perm (d'.claims ++ releases [a]) := by
  unfold Dispatcher.claims
  cases h with
  | letIn kind item now hfresh haccept =>
      have hheld' : (heldBy (d.guards ++ ⟨kind, item, .admitted⟩ :: [])).Perm _ :=
        heldBy_split
      rw [List.append_nil] at hheld'
      refine perm_pass [] _ (.refl _) hheld' ?_
      exact List.perm_append_comm.trans (.of_eq (List.append_nil _).symm)
  | reject => exact .refl _
  | ask hguard hlane =>
      rw [hguard]
      exact perm_keep rfl (lane_flow hlane (hnodup _))
  | @accept kind item front back s hguard hlane =>
      -- what leaves the guard is what the queue gets
      have hwork := lane_flow hlane (hnodup _)
      rw [hguard]
      refine perm_pass _ _ heldBy_split heldBy_split ?_
      show ([(item.ticket, item.fingerprint)] ++ d.work ++ []).Perm _
      rw [List.append_nil]
      exact List.perm_append_comm.trans hwork
  | refuse hguard hlane =>
      rw [hguard]
      exact perm_keep rfl (lane_flow hlane (hnodup _))
  | abandon hguard hlane =>
      rw [hguard]
      exact perm_keep rfl (lane_flow hlane (hnodup _))
  | release kind hlane =>
      exact perm_pass [] [] (.refl _) (.refl _) (lane_flow hlane (hnodup _))
  | @move act s kind hfree hlane =>
      have hwork := lane_flow hlane (hnodup _)
      rw [(nothing_of_isFree kind hfree).1] at hwork
      exact perm_pass [] [] (.refl _) (.refl _) hwork
  | handOff hguard =>
      rw [hguard]
      exact perm_pass _ [] heldBy_split (.refl _) (.refl _)
  | @drop kind item front back hguard =>
      rw [hguard]
      refine perm_pass _ [] heldBy_split (.refl _) ?_
      show ([(item.ticket, item.fingerprint)] ++ d.work ++ []).Perm _
      rw [List.append_nil]
      exact List.perm_append_comm

end

-- ============================================================ the ledger

/-- What the filter, the guards and the pools have to do with what has been
admitted and released. -/
structure Ledger (log : List (Deed Job Reply)) (d : Dispatcher Job Reply) :
    Prop where
  used : ∀ c ∈ admissions log, c.1 ∈ d.tickets
  distinct : ((admissions log).map Prod.fst).Nodup
  account : (admissions log).Perm (d.claims ++ releases log)
  /-- Claims have different fingerprints. -/
  alone : (d.claims.map Prod.snd).Nodup
  holds : ∀ fp, d.inFlight.holds fp = true ↔ fp ∈ d.claims.map Prod.snd

section

variable {log : List (Deed Job Reply)} {d d' : Dispatcher Job Reply}
  {a : Deed Job Reply} {pools : PoolKind → Pool Job Reply}

theorem admissions_snoc :
    admissions (log ++ [a]) = admissions log ++ admissions [a] :=
  List.filterMap_append ..

theorem releases_snoc :
    releases (log ++ [a]) = releases log ++ releases [a] :=
  List.filterMap_append ..

theorem mem_admissions_append {more : List (Deed Job Reply)} {c : Nat × String}
    (h : c ∈ admissions log) : c ∈ admissions (log ++ more) := by
  unfold admissions
  rw [List.filterMap_append]
  exact List.mem_append_left _ h

theorem mem_releases_append {more : List (Deed Job Reply)} {c : Nat × String}
    (h : c ∈ releases log) : c ∈ releases (log ++ more) := by
  unfold releases
  rw [List.filterMap_append]
  exact List.mem_append_left _ h

/-- A step admits a claim whose fingerprint is absent, or releases one, or
leaves the filter as it is. -/
theorem Step.inFlight (h : Step d a d') :
    (∃ c now, admissions [a] = [c] ∧ releases [a] = [] ∧ c.1 ∉ d.tickets
        ∧ d'.tickets = c.1 :: d.tickets
        ∧ d.inFlight.accept c.2 now = .ok d'.inFlight)
      ∨ (∃ c, admissions [a] = [] ∧ releases [a] = [c]
        ∧ d'.tickets = d.tickets ∧ d'.inFlight = d.inFlight.finish c.2)
      ∨ (admissions [a] = [] ∧ releases [a] = [] ∧ d'.tickets = d.tickets
        ∧ d'.inFlight = d.inFlight) := by
  cases h with
  | letIn kind item now hfresh haccept =>
      exact .inl ⟨_, now, rfl, rfl, hfresh, rfl, haccept⟩
  | release => exact .inr (.inl ⟨_, rfl, rfl, rfl, rfl⟩)
  | drop => exact .inr (.inl ⟨_, rfl, rfl, rfl, rfl⟩)
  | @move act s kind hfree hlane =>
      have hnone := (nothing_of_isFree kind hfree).2
      exact .inr (.inr ⟨rfl, hnone, rfl, rfl⟩)
  | reject | ask | accept | refuse | abandon | handOff =>
      exact .inr (.inr ⟨rfl, rfl, rfl, rfl⟩)

/-- A request is admitted with a fingerprint that nobody has a claim to. -/
theorem Ledger.letIn (h : Ledger log d) {c : Nat × String} {now : Timestamp}
    (hfresh : c.1 ∉ d.tickets) (haccept : d.inFlight.accept c.2 now = .ok d'.inFlight)
    (htickets : d'.tickets = c.1 :: d.tickets)
    (hadmissions : admissions [a] = [c]) (hreleases : releases [a] = [])
    (hflow : d'.claims.Perm (c :: d.claims)) : Ledger (log ++ [a]) d' := by
  have habsent : c.2 ∉ d.claims.map Prod.snd := by
    rw [← h.holds, (InFlight.accept_isOk ..).1 ⟨_, haccept⟩]
    exact Bool.noConfusion
  have hfps := hflow.map Prod.snd
  refine ⟨?_, ?_, ?_, ?_, ?_⟩
  · rw [admissions_snoc, hadmissions, htickets]
    intro x hx
    rcases List.mem_append.1 hx with hx | hx
    · exact List.mem_cons_of_mem _ (h.used x hx)
    · rw [List.mem_singleton.1 hx]
      exact List.mem_cons_self ..
  · rw [admissions_snoc, hadmissions, List.map_append]
    refine List.nodup_append.2 ⟨h.distinct, List.pairwise_singleton .., ?_⟩
    intro t ht u hu heq
    obtain ⟨x, hx, rfl⟩ := List.mem_map.1 ht
    rw [List.map_singleton, List.mem_singleton] at hu
    exact hfresh (hu ▸ heq ▸ h.used x hx)
  · rw [admissions_snoc, releases_snoc, hadmissions, hreleases]
    refine perm_carry h.account ?_
    rw [List.append_nil]
    exact (List.perm_append_singleton ..).trans hflow.symm
  · exact hfps.nodup_iff.2 (List.nodup_cons.2 ⟨habsent, h.alone⟩)
  · intro fp
    rw [InFlight.holds_accept haccept, Bool.or_eq_true, h.holds, hfps.mem_iff,
      beq_iff_eq, List.map_cons, List.mem_cons]
    exact or_comm

/-- To release a claim is to erase its fingerprint and no other. -/
theorem Ledger.release (h : Ledger log d) {c : Nat × String}
    (hfinish : d'.inFlight = d.inFlight.finish c.2)
    (htickets : d'.tickets = d.tickets) (hadmissions : admissions [a] = [])
    (hreleases : releases [a] = [c]) (hflow : d.claims.Perm (c :: d'.claims)) :
    Ledger (log ++ [a]) d' := by
  have hfps := hflow.map Prod.snd
  obtain ⟨hgone, halone⟩ := List.nodup_cons.1 (hfps.nodup h.alone)
  refine ⟨?_, ?_, ?_, halone, ?_⟩
  · rw [admissions_snoc, hadmissions, List.append_nil, htickets]
    exact h.used
  · rw [admissions_snoc, hadmissions, List.append_nil]
    exact h.distinct
  · rw [admissions_snoc, releases_snoc, hadmissions, hreleases]
    refine perm_carry h.account ?_
    rw [List.append_nil]
    exact hflow.trans (List.perm_append_singleton ..).symm
  · intro fp
    rw [hfinish, InFlight.holds_finish, Bool.and_eq_true, h.holds, hfps.mem_iff,
      bne_iff_ne, List.map_cons, List.mem_cons]
    constructor
    · rintro ⟨rfl | hmem, hne⟩
      · exact absurd rfl hne
      · exact hmem
    · intro hmem
      exact ⟨.inr hmem, fun heq => hgone (heq ▸ hmem)⟩

/-- Passing a claim on changes nothing for the filter. -/
theorem Ledger.pass (h : Ledger log d) (hsame : d'.inFlight = d.inFlight)
    (htickets : d'.tickets = d.tickets) (hadmissions : admissions [a] = [])
    (hreleases : releases [a] = []) (hflow : d.claims.Perm d'.claims) :
    Ledger (log ++ [a]) d' := by
  have hfps := hflow.map Prod.snd
  refine ⟨?_, ?_, ?_, hfps.nodup h.alone, ?_⟩
  · rw [admissions_snoc, hadmissions, List.append_nil, htickets]
    exact h.used
  · rw [admissions_snoc, hadmissions, List.append_nil]
    exact h.distinct
  · rw [admissions_snoc, releases_snoc, hadmissions, hreleases, List.append_nil,
      List.append_nil]
    exact h.account.trans (hflow.append_right _)
  · intro fp
    rw [hsame, h.holds, hfps.mem_iff]

theorem Ledger.step (h : Ledger log d) (hstep : Step d a d')
    (hnodup : ∀ kind, ((d.lanes kind).places.map Pool.Place.ticket).Nodup) :
    Ledger (log ++ [a]) d' := by
  have hflow := hstep.claim_flow hnodup
  rcases hstep.inFlight with
    ⟨c, now, hadmissions, hreleases, hfresh, htickets, haccept⟩
    | ⟨c, hadmissions, hreleases, htickets, hfinish⟩
    | ⟨hadmissions, hreleases, htickets, hsame⟩
  · rw [hadmissions, hreleases, List.append_nil] at hflow
    exact h.letIn hfresh haccept htickets hadmissions hreleases
      (hflow.symm.trans (List.perm_append_singleton ..))
  · rw [hadmissions, hreleases, List.append_nil] at hflow
    exact h.release hfinish htickets hadmissions hreleases
      (hflow.trans (List.perm_append_singleton ..))
  · rw [hadmissions, hreleases, List.append_nil, List.append_nil] at hflow
    exact h.pass hsame htickets hadmissions hreleases hflow

theorem Run.ledger (hfresh : ∀ kind, Pool.Fresh (pools kind))
    (h : Run pools log d) : Ledger log d := by
  induction h with
  | start =>
      have hnone : ({ lanes := fun kind => { pool := pools kind } } :
          Dispatcher Job Reply).claims = [] := by
        have hwork : ∀ kind, work ({ pool := pools kind } : Pool.Live Job Reply) = [] := by
          intro kind
          unfold work Pool.Live.places Pool.placesOf
          rw [(hfresh kind).queue, (hfresh kind).taken]
          rfl
        unfold Dispatcher.claims Dispatcher.work Dispatcher.overLanes
        simp only [hwork]
        rfl
      refine ⟨fun c hc => (by cases hc), List.nodup_nil, ?_, ?_, ?_⟩
      · rw [hnone]
        exact .refl _
      · rw [hnone]
        exact List.nodup_nil
      · rw [hnone]
        exact fun fp => ⟨fun h => (by cases h), fun h => (by cases h)⟩
  | step hrun hstep ih =>
      refine ih.step hstep fun kind => ?_
      exact ((hrun.lane kind).books (hfresh kind)).placed.nodup

end

end CheckGateway.Dispatch
