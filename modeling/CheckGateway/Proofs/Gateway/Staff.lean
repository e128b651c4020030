/-
What the pools of all tenants owe: a job that waits starts with empty hands,
one that is run gives back in time what it has, and whoever is not at work
has nothing.

`Staffs` says so of one pool, ticket by ticket, and has one lemma for each
thing that a pool does. Tickets are what keeps jobs apart; those of a pool
stay in the order in which they were given out, from the workers' hands
through the queue, so a worker that takes an item moves no ticket.
-/
import CheckGateway.Proofs.Gateway.Systems
import CheckGateway.Proofs.Pool.Account
import Mathlib.Data.List.Nodup

namespace CheckGateway

/-- The tickets of the items that a pool has, the earliest first. -/
def Pool.tickets {Job Reply : Type} (p : Pool Job Reply) : List Nat :=
  p.taken.map Taken.ticket ++ p.queue.map Item.ticket

namespace Gateway

open Job (Grip Obeys Steady)

/-- A routine that gives everything back that is in the hands. -/
structure GivesBack (r : JobRoutine (Option Response)) (G : Grip) : Prop where
  obeys : Obeys r (fun _ G => G = {}) G

theorem givesBack_of_steady {r : JobRoutine (Option Response)} (h : Steady {} r) :
    GivesBack r {} := ⟨h.obeys⟩

/-- What is in the hands fits how far the work is. -/
def Fulfils : Stage Work Response → Grip → Prop
  | .running w, G => GivesBack w.routine G
  | .finished _, G => G = {}
  | .released _, G => G = {}

/-- What those who work for a pool have in their hands, by their tickets. -/
structure Staffs (hands : Nat → Grip) (n : Nat) (p : Pool Work Response) : Prop where
  distinct : p.tickets.Nodup
  numbered : ∀ ticket ∈ p.tickets, ticket ≤ n
  queued : ∀ item ∈ p.queue, GivesBack item.job.routine {}
  taken : ∀ y ∈ p.taken, Fulfils y.stage (hands y.ticket)
  idle : ∀ ticket, (∀ y ∈ p.taken, y.ticket ≠ ticket) → hands ticket = {}

-- ================================================================== one pool

section

variable {hands : Nat → Grip} {n ticket : Nat} {p q : Pool Work Response}
  {y : Taken Work Response}

theorem staffs_new (hqueue : p.queue = []) (htaken : p.taken = [])
    (hhands : hands = fun _ => {}) : Staffs hands n p := by
  have htickets : p.tickets = [] := by
    unfold Pool.tickets
    rw [hqueue, htaken]
    rfl
  refine ⟨?_, ?_, ?_, ?_, fun _ _ => by rw [hhands]⟩
  · rw [htickets]
    exact .nil
  · rw [htickets]
    exact nofun
  · rw [hqueue]
    exact nofun
  · rw [htaken]
    exact nofun

theorem Staffs.mono {m : Nat} (h : Staffs hands n p) (hle : n ≤ m) : Staffs hands m p :=
  { h with numbered := fun ticket hticket => Nat.le_trans (h.numbered ticket hticket) hle }

/-- Nobody works yet under a ticket that is queued. -/
theorem Staffs.waiting (h : Staffs hands n p) {item : Item Work} (hitem : item ∈ p.queue) :
    ∀ y ∈ p.taken, y.ticket ≠ item.ticket := by
  intro y hy heq
  have hdisjoint := (List.nodup_append.1 h.distinct).2.2
  exact hdisjoint _ (List.mem_map_of_mem hy) _ (List.mem_map_of_mem hitem) heq

theorem Staffs.enqueue (h : Staffs hands n p) (fingerprint : String) {w : Work}
    (hw : GivesBack w.routine {}) :
    Staffs hands (n + 1) (p.enqueue ⟨n + 1, fingerprint, w⟩) := by
  have htickets : (p.enqueue ⟨n + 1, fingerprint, w⟩).tickets = p.tickets ++ [n + 1] := by
    unfold Pool.tickets Pool.enqueue
    rw [List.map_append, List.append_assoc]
    rfl
  refine ⟨?_, ?_, ?_, h.taken, h.idle⟩
  · rw [htickets, ← List.concat_eq_append, List.nodup_concat]
    exact ⟨fun hmem => Nat.not_succ_le_self n (h.numbered _ hmem), h.distinct⟩
  · rw [htickets]
    intro ticket hticket
    rcases List.mem_append.1 hticket with hticket | hticket
    · exact Nat.le_succ_of_le (h.numbered ticket hticket)
    · exact Nat.le_of_eq (List.mem_singleton.1 hticket)
  · intro item hitem
    rcases List.mem_append.1 hitem with hitem | hitem
    · exact h.queued item hitem
    · rw [List.mem_singleton.1 hitem]
      exact hw

theorem Staffs.take (h : Staffs hands n p) (htake : p.take? = some q) : Staffs hands n q := by
  cases hqueue : p.queue with
  | nil =>
      unfold Pool.take? at htake
      rw [hqueue] at htake
      cases htake
  | cons item rest =>
      have hitem : item ∈ p.queue := by
        rw [hqueue]
        exact List.mem_cons_self
      have hq := Pool.take?_eq hqueue htake
      -- the item goes from the front of the queue to the end of those taken
      have htickets : q.tickets = p.tickets := by
        rw [hq]
        unfold Pool.tickets
        rw [hqueue, List.map_append, List.append_assoc]
        rfl
      refine ⟨htickets ▸ h.distinct, htickets ▸ h.numbered, fun other hother => ?_,
        fun y hy => ?_, fun ticket hticket => ?_⟩
      · apply h.queued
        rw [hqueue]
        rw [hq] at hother
        exact List.mem_cons_of_mem _ hother
      · rw [hq] at hy
        rcases List.mem_append.1 hy with hy | hy
        · exact h.taken y hy
        · rw [List.mem_singleton.1 hy]
          show GivesBack item.job.routine (hands item.ticket)
          rw [h.idle item.ticket (h.waiting hitem)]
          exact h.queued item hitem
      · apply h.idle
        intro y hy
        apply hticket
        rw [hq]
        exact List.mem_append_left _ hy

/-- The work under one ticket goes on, and with it what is in one worker's
hands. -/
theorem Staffs.advance (h : Staffs hands n p) (hy : y ∈ p.taken) (hticket : y.ticket = ticket)
    (G : Grip) (stage : Stage Work Response) (hstage : Fulfils stage G) :
    Staffs (Function.update hands ticket G) n
      (p.update ticket fun y => { y with stage := stage }) := by
  have htickets : (p.update ticket fun y => { y with stage := stage }).tickets = p.tickets := by
    have htaken := Pool.map_ticket_update p ticket
      (f := fun y => { y with stage := stage }) fun _ => rfl
    unfold Pool.tickets
    rw [htaken]
    rfl
  refine ⟨htickets ▸ h.distinct, htickets ▸ h.numbered, h.queued, fun z hz => ?_,
    fun other hother => ?_⟩
  · obtain ⟨z', hz', rfl⟩ := List.mem_map.1 hz
    by_cases heq : z'.ticket = ticket
    · rw [if_pos heq]
      show Fulfils stage (Function.update hands ticket G z'.ticket)
      rw [heq, Function.update_self]
      exact hstage
    · rw [if_neg heq, Function.update_of_ne heq]
      exact h.taken z' hz'
  · -- a ticket that nobody works under is not the one in question
    have hne : other ≠ ticket := by
      rintro rfl
      refine hother _ (List.mem_map_of_mem hy) ?_
      rw [if_pos hticket]
      exact hticket
    rw [Function.update_of_ne hne]
    apply h.idle
    intro z hz heq
    refine hother _ (List.mem_map_of_mem hz) ?_
    split <;> exact heq

/-- Of the items under one ticket there is one. -/
theorem Staffs.eq_of_ticket (h : Staffs hands n p) {z : Taken Work Response} (hy : y ∈ p.taken)
    (hz : z ∈ p.taken) (heq : y.ticket = z.ticket) : y = z :=
  List.inj_on_of_nodup_map (List.nodup_append.1 h.distinct).1 hy hz heq

/-- What is left to do once a job is over is done with empty hands. -/
theorem Staffs.serve (h : Staffs hands n p) (hy : y ∈ p.taken) {e : Pool.Event Response}
    (hserve : p.release? y = some (e, q) ∨ p.deliver? y = some (e, q)) :
    Staffs hands n q := by
  have hempty {outcome : Option Response}
      (hstage : y.stage = .finished outcome ∨ y.stage = .released outcome) :
      hands y.ticket = {} := by
    have hdone := h.taken y hy
    rcases hstage with hstage | hstage <;> rwa [hstage] at hdone
  rcases hserve with hserve | hserve
  · obtain ⟨outcome, hstage, -, rfl⟩ := Pool.release?_eq hserve
    have hnext := h.advance hy rfl {} (.released outcome) rfl
    rwa [← hempty (.inl hstage), Function.update_eq_self] at hnext
  · obtain ⟨outcome, hstage, -, rfl⟩ := Pool.deliver?_eq hserve
    have hsub : (p.taken.filter fun u => u.ticket ≠ y.ticket).Sublist p.taken :=
      List.filter_sublist
    have htickets := (hsub.map Taken.ticket).append
      (List.Sublist.refl (p.queue.map Item.ticket))
    refine ⟨htickets.nodup h.distinct, fun k hk => h.numbered k (htickets.subset hk),
      h.queued, fun z hz => h.taken z (hsub.subset hz), fun ticket hticket => ?_⟩
    by_cases heq : ticket = y.ticket
    · rw [heq]
      exact hempty (.inr hstage)
    · apply h.idle
      intro z hz hzt
      refine hticket z (List.mem_filter.2 ⟨hz, decide_eq_true ?_⟩) hzt
      rwa [hzt]

-- ---- what is left to do

/-- A worker's step on an item that is not run leaves those alone that are. -/
theorem Staffs.still_running (h : Staffs hands n p) (hy : y ∈ p.taken)
    (hstage : ∀ w, y.stage ≠ .running w) {z : Taken Work Response} {w : Work}
    (hz : z ∈ p.taken) (hrunning : z.stage = .running w) : z.ticket ≠ y.ticket := by
  intro heq
  rw [h.eq_of_ticket hz hy heq] at hrunning
  exact hstage w hrunning

theorem Staffs.hasWork_serve (h : Staffs hands n p) (hy : y ∈ p.taken)
    {e : Pool.Event Response}
    (hserve : p.release? y = some (e, q) ∨ p.deliver? y = some (e, q)) (hwork : p.HasWork) :
    q.HasWork := by
  rcases hserve with hserve | hserve
  · obtain ⟨outcome, hstage, -, rfl⟩ := Pool.release?_eq hserve
    refine hwork.imp_right fun ⟨z, hz, w, hrunning⟩ => ?_
    have hne := h.still_running hy (fun w heq => by rw [hstage] at heq; cases heq) hz hrunning
    refine ⟨z, List.mem_map.2 ⟨z, hz, if_neg hne⟩, w, hrunning⟩
  · obtain ⟨outcome, hstage, -, rfl⟩ := Pool.deliver?_eq hserve
    refine hwork.imp_right fun ⟨z, hz, w, hrunning⟩ => ?_
    have hne := h.still_running hy (fun w heq => by rw [hstage] at heq; cases heq) hz hrunning
    exact ⟨z, List.mem_filter.2 ⟨hz, decide_eq_true hne⟩, w, hrunning⟩

theorem hasWork_enqueue (item : Item Work) : (p.enqueue item).HasWork := by
  left
  exact List.append_ne_nil_of_right_ne_nil _ (List.cons_ne_nil _ _)

theorem hasWork_take (htake : p.take? = some q) : q.HasWork := by
  cases hqueue : p.queue with
  | nil =>
      unfold Pool.take? at htake
      rw [hqueue] at htake
      cases htake
  | cons item rest =>
      right
      rw [Pool.take?_eq hqueue htake]
      exact ⟨_, List.mem_append_right _ (List.mem_singleton.2 rfl), _, rfl⟩

theorem hasWork_resume (hy : y ∈ p.taken) (hticket : y.ticket = ticket) (w : Work) :
    (p.resume ticket w).HasWork := by
  right
  exact ⟨_, List.mem_map.2 ⟨y, hy, if_pos hticket⟩, w, rfl⟩

end

end Gateway

end CheckGateway
