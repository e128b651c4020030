/-
A dispatcher can always go on, and comes to release whatever it has
admitted.

# Guards and submissions

A guard that is calling and a submission that its pool has not answered are
two sides of one thing (`Tied`). So a guard never waits for an answer that
cannot come, and no answer finds its guard missing: the guards keep no lane
from any of its steps (`Tied.exists_of_answer`).

# What is due

`due` counts the steps that guards and workers have before them. While it
is not zero one of them can be taken, and it needs no new admission
(`exists_step`). When it is zero no claim is left.
-/
import CheckGateway.Proofs.Dispatch.Ledger
import CheckGateway.Proofs.Pool.Served

namespace CheckGateway.Dispatch

variable {Job Reply : Type}

-- ====================================================== guards that call

/-- The submission that waits for the pool's answer in a place. -/
def asking? : Pool.Place Job Reply → Option (Item Job)
  | .calling item => some item
  | .waiting item => some item
  | .queued _ => none
  | .taken _ => none

/-- The submissions that wait for a pool's answer. -/
def asking (s : Pool.Live Job Reply) : List (Item Job) :=
  s.places.filterMap asking?

/-- The submission whose answer a guard waits for. -/
def Guard.calls? (kind : PoolKind) (g : Guard Job) : Option (Item Job) :=
  if g.kind = kind ∧ g.phase = .calling then some g.item else none

/-- The submissions to a pool whose guards wait. -/
def callers (kind : PoolKind) (guards : List (Guard Job)) : List (Item Job) :=
  guards.filterMap (Guard.calls? kind)

/-- The submission that has an answer. -/
def answered? : Pool.Act Job Reply → Option Nat
  | .accepted item => some item.ticket
  | .refused ticket _ => some ticket
  | .abandoned ticket => some ticket
  | _ => none

section

variable {s s' : Pool.Live Job Reply} {a : Pool.Act Job Reply} {kind : PoolKind}
  {item : Item Job}

/-- What a step does to the submissions without an answer. -/
theorem asking_flow (h : Pool.Step s a s')
    (hnodup : (s.places.map Pool.Place.ticket).Nodup) :
    (∃ item, a = .asked item ∧ (asking s').Perm (item :: asking s))
      ∨ (∃ item, answered? a = some item.ticket
          ∧ (∀ other, a = .accepted other → other = item)
          ∧ (asking s).Perm (item :: asking s'))
      ∨ ((∀ item, a ≠ .asked item) ∧ answered? a = none
          ∧ (asking s).Perm (asking s')) := by
  rcases h.moves hnodup with ⟨p, p', rest, hs, hs', hmove⟩ | ⟨ha, hplaces⟩
  · have hout := hs.filterMap asking?
    have hinto := (hs'.filterMap asking?).symm
    rw [List.filterMap_append] at hout hinto
    cases hmove with
    | ask item => exact .inl ⟨item, rfl, hinto.symm.trans (hout.symm.cons item)⟩
    | accept item =>
        refine .inr (.inl ⟨item, rfl, ?_, hout.trans (hinto.cons item)⟩)
        exact fun other heq => (Pool.Act.accepted.inj heq).symm
    | turnAway item e | hangUp item | refuse item e | giveUp item =>
        exact .inr (.inl ⟨item, rfl, fun _ h => (by cases h),
          hout.trans (hinto.cons item)⟩)
    | _ => exact .inr (.inr ⟨fun _ h => (by cases h), rfl, hout.trans hinto⟩)
  · refine .inr (.inr ?_)
    unfold asking
    rw [hplaces]
    cases a with
    | asked | accepted | refused | abandoned | entered | worked | ended =>
        cases ha
    | _ => exact ⟨fun _ h => (by cases h), rfl, .refl _⟩

/-- A submission without an answer is calling or waiting. -/
theorem mem_asking (h : item ∈ asking s) :
    item ∈ s.calling ∨ item ∈ s.waiting := by
  obtain ⟨p, hp, heq⟩ := List.mem_filterMap.1 h
  unfold Pool.Live.places Pool.placesOf at hp
  rcases List.mem_append.1 hp with hp | hp
  · obtain ⟨other, hother, rfl⟩ := List.mem_map.1 hp
    exact .inl (Option.some.inj heq ▸ hother)
  rcases List.mem_append.1 hp with hp | hp
  · obtain ⟨other, hother, rfl⟩ := List.mem_map.1 hp
    exact .inr (Option.some.inj heq ▸ hother)
  rcases List.mem_append.1 hp with hp | hp
  · obtain ⟨other, hother, rfl⟩ := List.mem_map.1 hp
    cases heq
  · obtain ⟨other, hother, rfl⟩ := List.mem_map.1 hp
    cases heq

/-- Submissions without an answer have different tickets. -/
theorem nodup_asking (h : (s.places.map Pool.Place.ticket).Nodup) :
    ((asking s).map Item.ticket).Nodup := by
  have hsub : ((asking s).map Item.ticket).Sublist (s.places.map Pool.Place.ticket) := by
    unfold asking
    generalize s.places = places
    induction places with
    | nil => exact .slnil
    | cons p places ih =>
        cases p with
        | calling item => exact ih.cons_cons _
        | waiting item => exact ih.cons_cons _
        | queued item => exact ih.cons _
        | taken t => exact ih.cons _
  exact hsub.nodup h

end

/-- The ticket of a guard whose pool has not been asked. -/
def Guard.unasked? (g : Guard Job) : Option Nat :=
  if g.phase = .admitted then some g.item.ticket else none

/-- The tickets that guards have not brought to their pools. -/
def unasked (guards : List (Guard Job)) : List Nat :=
  guards.filterMap Guard.unasked?

/-- What guards and lanes know of each other. -/
structure Tied (d : Dispatcher Job Reply) : Prop where
  /-- The guards that call are those whose submissions have no answer. -/
  agree : ∀ kind, (callers kind d.guards).Perm (asking (d.lanes kind))
  distinct : d.tickets.Nodup
  /-- A ticket has been brought to a lane, or is still with its guard. -/
  tickets : d.tickets.Perm (unasked d.guards ++ d.overLanes Pool.Live.tickets)

section

variable {d d' : Dispatcher Job Reply} {a : Deed Job Reply} {kind other : PoolKind}
  {s : Pool.Live Job Reply} {front back : List (Guard Job)} {item : Item Job}
  {act : Pool.Act Job Reply}

theorem callers_split {g : Guard Job} :
    (callers kind (front ++ g :: back)).Perm
      ((g.calls? kind).toList ++ callers kind (front ++ back)) :=
  filterMap_split

/-- A guard that calls is one caller more. -/
theorem callers_calling :
    (callers kind (front ++ ⟨kind, item, .calling⟩ :: back)).Perm
      (item :: callers kind (front ++ back)) := by
  have hcalls : (⟨kind, item, .calling⟩ : Guard Job).calls? kind = some item :=
    if_pos ⟨rfl, rfl⟩
  have hsplit : (callers kind (front ++ ⟨kind, item, .calling⟩ :: back)).Perm _ :=
    callers_split
  rw [hcalls] at hsplit
  exact hsplit

/-- A guard that does not call a lane is none of its business. -/
theorem callers_quiet {g : Guard Job} (h : ¬ (g.kind = kind ∧ g.phase = .calling)) :
    (callers kind (front ++ g :: back)).Perm (callers kind (front ++ back)) := by
  have hcalls : g.calls? kind = none := if_neg h
  have hsplit : (callers kind (front ++ g :: back)).Perm _ := callers_split
  rw [hcalls] at hsplit
  exact hsplit

/-- A guard that has not asked has its ticket. -/
theorem unasked_admitted :
    (unasked (front ++ ⟨kind, item, .admitted⟩ :: back)).Perm
      (item.ticket :: unasked (front ++ back)) :=
  filterMap_split

/-- A guard that has asked has not. -/
theorem unasked_quiet {g : Guard Job} (h : g.phase ≠ .admitted) :
    (unasked (front ++ g :: back)).Perm (unasked (front ++ back)) := by
  have hunasked : g.unasked? = none := if_neg h
  have hsplit : (unasked (front ++ g :: back)).Perm
      (g.unasked?.toList ++ unasked (front ++ back)) := filterMap_split
  rw [hunasked] at hsplit
  exact hsplit

/-- What a step of a lane does to the tickets that have been brought to
it. -/
theorem tickets_flow {s s' : Pool.Live Job Reply} (h : Pool.Step s act s') :
    (∃ item, act = .asked item ∧ item.ticket ∉ s.tickets
        ∧ (s.tickets ++ [item.ticket]).Perm (s'.tickets ++ []))
      ∨ ((∀ item, act ≠ .asked item)
        ∧ (s.tickets ++ []).Perm (s'.tickets ++ [])) := by
  rcases h.tickets with ⟨item, hask, hfresh, htickets⟩ | ⟨hno, htickets⟩
  · refine .inl ⟨item, hask, hfresh, ?_⟩
    rw [htickets, List.append_nil]
    exact List.perm_append_singleton ..
  · rw [htickets]
    exact .inr ⟨hno, .refl _⟩

/-- Where one lane is right about its callers, all are. -/
theorem Tied.agree_setLane (h : Tied d) {phase phase' : Phase}
    (hguard : d.guards = front ++ ⟨kind, item, phase⟩ :: back)
    (hlane : (callers kind (front ++ ⟨kind, item, phase'⟩ :: back)).Perm (asking s)) :
    (callers other (front ++ ⟨kind, item, phase'⟩ :: back)).Perm
      (asking ((d.setLane kind s).lanes other)) := by
  by_cases heq : kind = other
  · subst heq
    rw [lanes_setLane_self]
    exact hlane
  · have hold := h.agree other
    rw [hguard] at hold
    rw [lanes_setLane_other _ _ fun h => heq h.symm]
    exact (callers_quiet fun hc => heq hc.1).trans
      ((callers_quiet fun hc => heq hc.1).symm.trans hold)

/-- A step of a lane that is not asked brings it no ticket. -/
theorem overLanes_tickets (hlane : Pool.Step (d.lanes kind) act s)
    (hno : ∀ item, act ≠ .asked item) :
    (d.overLanes Pool.Live.tickets).Perm
      ((d.setLane kind s).overLanes Pool.Live.tickets) := by
  rcases tickets_flow hlane with ⟨item, heq, -⟩ | ⟨-, hflow⟩
  · exact absurd heq (hno item)
  · have hover := overLanes_flow hflow
    rw [List.append_nil, List.append_nil] at hover
    exact hover

/-- What is asked of a lane is asked by one guard more. -/
theorem Tied.ask (h : Tied d)
    (hguard : d.guards = front ++ ⟨kind, item, .admitted⟩ :: back)
    (hlane : Pool.Step (d.lanes kind) (.asked item) s)
    (hnodup : ((d.lanes kind).places.map Pool.Place.ticket).Nodup) :
    Tied { d.setLane kind s with guards := front ++ ⟨kind, item, .calling⟩ :: back } := by
  have hagree := h.agree kind
  have htickets := h.tickets
  rw [hguard] at hagree htickets
  refine ⟨fun other => h.agree_setLane hguard ?_, h.distinct, ?_⟩
  · have hrest : (callers kind (front ++ back)).Perm (asking (d.lanes kind)) :=
      (callers_quiet fun hc => by cases hc.2).symm.trans hagree
    rcases asking_flow hlane hnodup with ⟨other, heq, hmore⟩ | ⟨_, hans, -⟩ | ⟨hno, -⟩
    · cases heq
      exact callers_calling.trans ((hrest.cons item).trans hmore.symm)
    · cases hans
    · exact absurd rfl (hno item)
  · rcases tickets_flow hlane with ⟨other, heq, -, hflow⟩ | ⟨hno, -⟩
    · cases heq
      have hover := overLanes_flow hflow
      rw [List.append_nil] at hover
      refine (htickets.trans (unasked_admitted.append_right _)).trans ?_
      -- the ticket goes from the guard to the lane
      refine (List.perm_append_singleton ..).symm.trans ?_
      show (unasked (front ++ back) ++ _ ++ [item.ticket]).Perm _
      rw [List.append_assoc]
      exact (hover.append_left _).trans
        ((unasked_quiet fun hc => by cases hc).symm.append_right _)
    · exact absurd rfl (hno item)

/-- A guard whose submission is answered calls no longer. -/
theorem Tied.answer (h : Tied d) {phase : Phase}
    (hguard : d.guards = front ++ ⟨kind, item, .calling⟩ :: back)
    (hphase : phase ≠ .admitted ∧ phase ≠ .calling)
    (hlane : Pool.Step (d.lanes kind) act s) (hact : answered? act = some item.ticket)
    (hnodup : ((d.lanes kind).places.map Pool.Place.ticket).Nodup) :
    Tied { d.setLane kind s with guards := front ++ ⟨kind, item, phase⟩ :: back } := by
  have hagree := h.agree kind
  have htickets := h.tickets
  rw [hguard] at hagree htickets
  have hno : ∀ item, act ≠ .asked item := by
    rintro item rfl
    cases hact
  refine ⟨fun other => h.agree_setLane hguard ?_, h.distinct, ?_⟩
  · have hrest := callers_calling.symm.trans hagree
    rcases asking_flow hlane hnodup with ⟨_, heq, -⟩ | ⟨other, hans, -, hless⟩ | ⟨-, hnone, -⟩
    · exact absurd heq (hno _)
    · rw [hact] at hans
      have hcalls := hrest.trans hless
      -- no two submissions have a ticket in common, so it is this one
      have hsame : item = other := by
        have hticket : item.ticket = other.ticket := Option.some.inj hans
        have hapart := (hless.map Item.ticket).nodup (nodup_asking hnodup)
        rcases List.mem_cons.1 (hcalls.mem_iff.1 (List.mem_cons_self ..)) with heq | hmem
        · exact heq
        · refine absurd ?_ (List.nodup_cons.1 hapart).1
          rw [← hticket]
          exact List.mem_map_of_mem hmem
      subst hsame
      exact (callers_quiet fun hc => hphase.2 hc.2).trans hcalls.cons_inv
    · rw [hact] at hnone
      cases hnone
  · have hafter : (unasked (front ++ ⟨kind, item, phase⟩ :: back)).Perm _ :=
      unasked_quiet hphase.1
    have hbefore : (unasked (front ++ ⟨kind, item, .calling⟩ :: back)).Perm _ :=
      unasked_quiet fun hc => by cases hc
    have hguards := hbefore.trans hafter.symm
    exact (htickets.trans (hguards.append_right _)).trans
      ((overLanes_tickets hlane hno).append_left _)

/-- Other steps of a lane are none of the guards' business. -/
theorem Tied.move (h : Tied d) (hlane : Pool.Step (d.lanes kind) act s)
    (hno : ∀ item, act ≠ .asked item) (hact : answered? act = none)
    (hnodup : ((d.lanes kind).places.map Pool.Place.ticket).Nodup) :
    Tied (d.setLane kind s) := by
  refine ⟨fun other => ?_, h.distinct, ?_⟩
  · by_cases heq : kind = other
    · subst heq
      rw [lanes_setLane_self]
      rcases asking_flow hlane hnodup with ⟨_, heq, -⟩ | ⟨_, hans, -⟩ | ⟨-, -, hsame⟩
      · exact absurd heq (hno _)
      · rw [hact] at hans
        cases hans
      · exact (h.agree kind).trans hsame
    · rw [lanes_setLane_other _ _ fun h => heq h.symm]
      exact h.agree other
  · exact h.tickets.trans ((overLanes_tickets hlane hno).append_left _)

/-- A guard that is sent or spent may go. -/
theorem Tied.leave (h : Tied d) {g : Guard Job}
    (hguard : d.guards = front ++ g :: back)
    (hphase : g.phase ≠ .admitted ∧ g.phase ≠ .calling) (f : InFlight) :
    Tied { d with guards := front ++ back, inFlight := f } := by
  have htickets := h.tickets
  rw [hguard] at htickets
  refine ⟨fun other => ?_, h.distinct, ?_⟩
  · have hagree := h.agree other
    rw [hguard] at hagree
    exact (callers_quiet fun hc => hphase.2 hc.2).symm.trans hagree
  · exact htickets.trans ((unasked_quiet hphase.1).append_right _)

theorem answered?_of_isFree (h : isFree act = true) :
    answered? act = none ∧ ∀ item, act ≠ .asked item := by
  cases act with
  | asked | accepted | refused | abandoned => cases h
  | _ => exact ⟨rfl, fun _ h => (by cases h)⟩

theorem Tied.step (h : Tied d) (hstep : Step d a d')
    (hnodup : ∀ kind, ((d.lanes kind).places.map Pool.Place.ticket).Nodup) :
    Tied d' := by
  cases hstep with
  | letIn kind item now hfresh haccept =>
      refine ⟨fun other => ?_, List.nodup_cons.2 ⟨hfresh, h.distinct⟩, ?_⟩
      · have hquiet : (callers other (d.guards ++ ⟨kind, item, .admitted⟩ :: [])).Perm _ :=
          callers_quiet fun hc => by cases hc.2
        rw [List.append_nil] at hquiet
        exact hquiet.trans (h.agree other)
      · have hmore : (unasked (d.guards ++ ⟨kind, item, .admitted⟩ :: [])).Perm _ :=
          unasked_admitted
        rw [List.append_nil] at hmore
        exact (h.tickets.cons _).trans (hmore.symm.append_right _)
  | reject => exact h
  | ask hguard hlane => exact h.ask hguard hlane (hnodup _)
  | accept hguard hlane =>
      exact h.answer hguard (by decide) hlane rfl (hnodup _)
  | refuse hguard hlane =>
      exact h.answer hguard (by decide) hlane rfl (hnodup _)
  | abandon hguard hlane =>
      exact h.answer hguard (by decide) hlane rfl (hnodup _)
  | release kind hlane =>
      obtain ⟨hagree, hdistinct, htickets⟩ :=
        h.move hlane (fun _ h => (by cases h)) rfl (hnodup _)
      exact ⟨hagree, hdistinct, htickets⟩
  | move kind hfree hlane =>
      obtain ⟨hans, hno⟩ := answered?_of_isFree hfree
      exact h.move hlane hno hans (hnodup _)
  | handOff hguard =>
      exact h.leave hguard ⟨fun hc => (by cases hc), fun hc => (by cases hc)⟩ _
  | drop hguard =>
      exact h.leave hguard ⟨fun hc => (by cases hc), fun hc => (by cases hc)⟩ _

end

theorem Run.tied {log : List (Deed Job Reply)} {d : Dispatcher Job Reply}
    {pools : PoolKind → Pool Job Reply} (hfresh : ∀ kind, Pool.Fresh (pools kind))
    (h : Run pools log d) : Tied d := by
  induction h with
  | start =>
      refine ⟨fun kind => ?_, List.nodup_nil, .refl _⟩
      have hnone : asking ({ pool := pools kind } : Pool.Live Job Reply) = [] := by
        unfold asking Pool.Live.places Pool.placesOf
        rw [(hfresh kind).queue, (hfresh kind).taken]
        rfl
      rw [hnone]
      exact .refl _
  | step hrun hstep ih =>
      refine ih.step hstep fun kind => ?_
      exact ((hrun.lane kind).books (hfresh kind)).placed.nodup

-- ============================================================= going on

/-- The steps that a guard has before it at most. -/
def Phase.due : Phase → Nat
  | .admitted => 3
  | .calling => 2
  | .sent => 1
  | .spent => 1

/-- The steps that guards have before them at most. -/
def guardsDue (guards : List (Guard Job)) : Nat :=
  guards.foldr (fun g n => g.phase.due + n) 0

/-- The steps that workers have before them. -/
def Dispatcher.load (d : Dispatcher Job Reply) : Nat :=
  (d.lanes .global).load + (d.lanes .jobs).load + (d.lanes .disks).load

/-- The steps that there are to come without new admissions. -/
def Dispatcher.due (d : Dispatcher Job Reply) : Nat :=
  guardsDue d.guards + d.load

section

variable {d : Dispatcher Job Reply} {kind : PoolKind} {s : Pool.Live Job Reply}
  {pools : PoolKind → Pool Job Reply} {log : List (Deed Job Reply)}

theorem load_setLane (d : Dispatcher Job Reply) (kind : PoolKind)
    (s : Pool.Live Job Reply) :
    (d.setLane kind s).load + (d.lanes kind).load = d.load + s.load := by
  unfold Dispatcher.load
  cases kind
  · show s.load + (d.lanes .jobs).load + (d.lanes .disks).load + _ = _
    omega
  · show (d.lanes .global).load + s.load + (d.lanes .disks).load + _ = _
    omega
  · show (d.lanes .global).load + (d.lanes .jobs).load + s.load + _ = _
    omega

/-- A lane with the same load as before leaves the whole load as it is. -/
theorem load_setLane_same (h : s.load = (d.lanes kind).load) :
    (d.setLane kind s).load = d.load := by
  have hload := load_setLane d kind s
  omega

/-- A submission without an answer can be given up. -/
theorem exists_abandon {item : Item Job} (h : item ∈ asking s) :
    ∃ s', Pool.Step s (.abandoned item.ticket) s' ∧ s'.load = s.load := by
  rcases mem_asking h with h | h
  · obtain ⟨front, back, hsplit⟩ := List.append_of_mem h
    exact ⟨_, .hangUp hsplit, rfl⟩
  · obtain ⟨front, back, hsplit⟩ := List.append_of_mem h
    exact ⟨_, .giveUp hsplit, rfl⟩

/-- While there are guards, one of them can go on. -/
theorem Tied.exists_step_of_guard (h : Tied d) {g : Guard Job}
    {rest : List (Guard Job)} (hguards : d.guards = g :: rest) :
    ∃ a d', Step d a d' ∧ admissions [a] = [] ∧ d'.due < d.due := by
  have hsplit : d.guards = [] ++ g :: rest := hguards
  have hdue : d.due = g.phase.due + guardsDue rest + d.load := by
    unfold Dispatcher.due
    rw [hguards]
    rfl
  obtain ⟨kind, item, phase⟩ := g
  cases phase with
  | admitted =>
      -- its ticket is still its own, so the pool can be asked
      have hfresh : item.ticket ∉ (d.lanes kind).tickets := by
        have hmore : (unasked d.guards).Perm (item.ticket :: unasked rest) := by
          rw [hguards]
          exact .refl _
        have hnodup := (h.tickets.trans (hmore.append_right _)).nodup h.distinct
        have hlane := (overLanes_perm d kind Pool.Live.tickets).mem_iff (a := item.ticket)
        intro hmem
        refine (List.nodup_cons.1 hnodup).1 (List.mem_append_right _ ?_)
        exact hlane.2 (List.mem_append_left _ hmem)
      have hload : (d.setLane kind { d.lanes kind with
          calling := (d.lanes kind).calling ++ [item]
          tickets := item.ticket :: (d.lanes kind).tickets }).load = d.load :=
        load_setLane_same rfl
      refine ⟨_, _, .ask hsplit (.ask item hfresh), rfl, ?_⟩
      show 2 + guardsDue rest + Dispatcher.load (d.setLane kind _) < d.due
      rw [hload, hdue]
      exact Nat.add_lt_add_right (Nat.add_lt_add_right (Nat.lt_succ_self 2) _) _
  | calling =>
      have hmem : item ∈ asking (d.lanes kind) := by
        refine (h.agree kind).mem_iff.1 ?_
        rw [hsplit]
        exact callers_calling.mem_iff.2 (List.mem_cons_self ..)
      obtain ⟨s, hlane, hsame⟩ := exists_abandon hmem
      refine ⟨_, _, .abandon hsplit hlane, rfl, ?_⟩
      show 1 + guardsDue rest + Dispatcher.load (d.setLane kind s) < d.due
      rw [load_setLane_same hsame, hdue]
      exact Nat.add_lt_add_right (Nat.add_lt_add_right (Nat.lt_succ_self 1) _) _
  | sent =>
      refine ⟨_, _, .handOff hsplit, rfl, ?_⟩
      show guardsDue rest + d.load < d.due
      rw [hdue, Nat.add_assoc]
      exact Nat.lt_add_of_pos_left Nat.one_pos
  | spent =>
      refine ⟨_, _, .drop hsplit, rfl, ?_⟩
      show guardsDue rest + d.load < d.due
      rw [hdue, Nat.add_assoc]
      exact Nat.lt_add_of_pos_left Nat.one_pos

/-- A step by which a worker brings an item on its way. -/
theorem exists_step_of_advance {act : Pool.Act Job Reply}
    (hlane : Pool.Step (d.lanes kind) act s) (hact : act.advances = true)
    (hnodup : ((d.lanes kind).places.map Pool.Place.ticket).Nodup) :
    ∃ a d', Step d a d' ∧ admissions [a] = [] ∧ d'.due < d.due := by
  have hflow := hlane.load_flow hnodup
  have hnone : Pool.accepts [act] = [] := by
    cases act with
    | accepted item => cases hact
    | _ => rfl
  rw [hnone, List.countP_singleton, if_pos hact, List.length_nil] at hflow
  have hload := load_setLane d kind s
  have hless : guardsDue d.guards + (d.setLane kind s).load < d.due := by
    unfold Dispatcher.due
    omega
  by_cases hfree : isFree act = true
  · exact ⟨_, _, .move kind hfree hlane, rfl, hless⟩
  · cases act with
    | did event =>
        cases event with
        | released ticket fp => exact ⟨_, _, .release kind hlane, rfl, hless⟩
        | _ => exact absurd rfl hfree
    | ended => exact absurd rfl hfree
    | _ => cases hact

/-- While anything is due, there is a step that is not an admission. -/
theorem Run.exists_step (hfresh : ∀ kind, Pool.Fresh (pools kind))
    (hworkers : ∀ kind, 0 < (pools kind).workers) (h : Run pools log d)
    (hdue : 0 < d.due) :
    ∃ a d', Step d a d' ∧ admissions [a] = [] ∧ d'.due < d.due := by
  cases hguards : d.guards with
  | cons g rest => exact (h.tied hfresh).exists_step_of_guard hguards
  | nil =>
      have hbusy : ∃ kind, 0 < (d.lanes kind).load := by
        unfold Dispatcher.due Dispatcher.load at hdue
        rw [hguards] at hdue
        change 0 < 0 + _ at hdue
        by_cases hglobal : 0 < (d.lanes .global).load
        · exact ⟨.global, hglobal⟩
        by_cases hjobs : 0 < (d.lanes .jobs).load
        · exact ⟨.jobs, hjobs⟩
        · exact ⟨.disks, by omega⟩
      obtain ⟨kind, hload⟩ := hbusy
      have hbooks := (h.lane kind).books (hfresh kind)
      obtain ⟨act, s, hlane, hact⟩ :=
        hbooks.bounded.exists_step (hworkers kind) hload
      exact exists_step_of_advance hlane hact hbooks.placed.nodup

/-- Nothing is claimed any more once nothing is due. -/
theorem claims_of_due (h : d.due = 0) : d.claims = [] := by
  unfold Dispatcher.due at h
  have hguards : d.guards = [] := by
    cases hguards : d.guards with
    | nil => rfl
    | cons g rest =>
        have hpos : 0 < g.phase.due := by
          cases g.phase <;> exact Nat.succ_pos _
        rw [hguards] at h
        change g.phase.due + guardsDue rest + _ = 0 at h
        omega
  have hwork : ∀ kind, work (d.lanes kind) = [] := by
    intro kind
    have hload : (d.lanes kind).load = 0 := by
      unfold Dispatcher.load at h
      cases kind <;> omega
    obtain ⟨hqueue, htaken⟩ := Pool.empty_of_load hload
    refine List.filterMap_eq_nil_iff.2 fun p hp => ?_
    obtain ⟨item, rfl | rfl⟩ := Pool.mem_places hp hqueue htaken
    · rfl
    · rfl
  unfold Dispatcher.claims Dispatcher.work Dispatcher.overLanes
  simp only [hguards, hwork]
  rfl

/-- Without new admissions everything comes to be released. -/
theorem Run.drains (hfresh : ∀ kind, Pool.Fresh (pools kind))
    (hworkers : ∀ kind, 0 < (pools kind).workers) (h : Run pools log d) :
    ∃ more d', Run pools (log ++ more) d' ∧ admissions more = [] ∧ d'.due = 0 := by
  generalize hdue : d.due = n
  induction n using Nat.strongRecOn generalizing log d with
  | _ n ih =>
      subst hdue
      by_cases hzero : d.due = 0
      · refine ⟨[], d, ?_, rfl, hzero⟩
        rw [List.append_nil]
        exact h
      · obtain ⟨a, d₁, hstep, hnone, hless⟩ :=
          h.exists_step hfresh hworkers (Nat.pos_of_ne_zero hzero)
        obtain ⟨more, d', hrun, hmore, hdone⟩ :=
          ih d₁.due hless (h.step hstep) rfl
        refine ⟨a :: more, d', ?_, ?_, hdone⟩
        · rw [List.append_assoc] at hrun
          exact hrun
        · have happend : admissions ([a] ++ more) = admissions [a] ++ admissions more :=
            List.filterMap_append ..
          rw [hnone, hmore] at happend
          exact happend

-- ===================================================== lanes go unhindered

/-- The guards keep no lane from giving an answer. -/
theorem Tied.exists_of_answer (h : Tied d) {act : Pool.Act Job Reply} {ticket : Nat}
    (hlane : Pool.Step (d.lanes kind) act s) (hact : answered? act = some ticket)
    (hnodup : ((d.lanes kind).places.map Pool.Place.ticket).Nodup) :
    ∃ d', Step d (.lane kind act) d' ∧ d'.lanes = (d.setLane kind s).lanes := by
  rcases asking_flow hlane hnodup with ⟨item, rfl, -⟩ | ⟨item, hans, hitem, hless⟩ | ⟨-, hnone, -⟩
  · cases hact
  · have hmem : item ∈ callers kind d.guards :=
      (h.agree kind).mem_iff.2 (hless.mem_iff.2 (List.mem_cons_self ..))
    obtain ⟨⟨kind', item', phase⟩, hg, hcalls⟩ := List.mem_filterMap.1 hmem
    unfold Guard.calls? at hcalls
    split at hcalls
    next hc =>
      obtain ⟨rfl, rfl⟩ := hc
      obtain rfl := Option.some.inj hcalls
      obtain ⟨front, back, hguard⟩ := List.append_of_mem hg
      cases act with
      | accepted other =>
          obtain rfl := hitem other rfl
          exact ⟨_, .accept hguard hlane, rfl⟩
      | refused t e =>
          obtain rfl := Option.some.inj hans
          exact ⟨_, .refuse hguard hlane, rfl⟩
      | abandoned t =>
          obtain rfl := Option.some.inj hans
          exact ⟨_, .abandon hguard hlane, rfl⟩
      | _ => cases hact
    · cases hcalls
  · rw [hact] at hnone
    cases hnone

/-- What a lane could do by itself it can do in the dispatcher, except that
only an admitted request asks it for anything. -/
theorem Tied.exists_of_lane (h : Tied d) {act : Pool.Act Job Reply}
    (hlane : Pool.Step (d.lanes kind) act s) (hno : ∀ item, act ≠ .asked item)
    (hnodup : ((d.lanes kind).places.map Pool.Place.ticket).Nodup) :
    ∃ d', Step d (.lane kind act) d' ∧ d'.lanes = (d.setLane kind s).lanes := by
  by_cases hfree : isFree act = true
  · exact ⟨_, .move kind hfree hlane, rfl⟩
  · cases act with
    | asked item => exact absurd rfl (hno item)
    | accepted item => exact h.exists_of_answer hlane rfl hnodup
    | refused t e => exact h.exists_of_answer hlane rfl hnodup
    | abandoned t => exact h.exists_of_answer hlane rfl hnodup
    | did event =>
        cases event with
        | released t fp => exact ⟨_, .release kind hlane, rfl⟩
        | _ => exact absurd rfl hfree
    | _ => exact absurd rfl hfree

end

end CheckGateway.Dispatch
