/-
The account of a pool: what has been accepted is queued, taken or delivered,
in every state of every run.

# Flows

Acceptance, taking and delivery are counted off the log (`accepts`, `takes`,
`deliveries`). One equation for each party says what one step does to it:
what enters the queue leaves it in order (`Step.queue_flow`), what workers
take they hold or have delivered (`Step.taken_flow`), and what is still to
be done for the items in the pool goes down by one with every move of a
worker (`Step.load_flow`). Over a run the equations add up.

# Closing

A worker leaves only when nothing can come any more. So a worker that has
left is the sign that the pool is closed for good, and a job that dies
costs none. When the join that has the workers' handles returns, all have
left (`Joined`).
-/
import CheckGateway.Proofs.Pool.Lives

namespace CheckGateway.Pool

variable {Job Reply : Type}

-- ============================================================= counting

/-- The tickets of the accepted submissions, in order. -/
def accepts (log : List (Act Job Reply)) : List Nat :=
  log.filterMap fun
    | .accepted item => some item.ticket
    | _ => none

/-- The tickets of the items that workers have taken, in order. -/
def takes (log : List (Act Job Reply)) : List Nat :=
  log.filterMap fun
    | .did (.took ticket) => some ticket
    | _ => none

/-- The tickets of the items whose outcomes have been delivered. -/
def deliveries (log : List (Act Job Reply)) : List Nat :=
  log.filterMap fun
    | .did (.delivered ticket _) => some ticket
    | _ => none

/-- The act brings an item on its way through the pool. -/
def Act.advances : Act Job Reply → Bool
  | .ended .. => true
  | .did _ => true
  | _ => false

/-- How often a taken item has to be advanced. -/
def due : Stage Job Reply → Nat
  | .running _ => 3
  | .finished _ => 2
  | .released _ => 1

/-- How often the items that are taken have to be advanced. -/
def dueAll (taken : List (Taken Job Reply)) : Nat :=
  taken.foldr (fun t n => due t.stage + n) 0

/-- How often the items in a pool have to be advanced, once to be taken
included. -/
def Live.load (s : Live Job Reply) : Nat :=
  4 * s.pool.queue.length + dueAll s.pool.taken

theorem dueAll_append (ts us : List (Taken Job Reply)) :
    dueAll (ts ++ us) = dueAll ts + dueAll us := by
  induction ts with
  | nil => exact (Nat.zero_add _).symm
  | cons t ts ih =>
      show due t.stage + dueAll (ts ++ us) = due t.stage + dueAll ts + dueAll us
      rw [ih, Nat.add_assoc]

theorem dueAll_split (before after : List (Taken Job Reply)) (t : Taken Job Reply) :
    dueAll (before ++ t :: after) = dueAll (before ++ after) + due t.stage := by
  rw [dueAll_append, dueAll_append]
  show dueAll before + (due t.stage + dueAll after) = _
  omega

-- ================================================================ flows

section

variable {s s' : Live Job Reply} {a : Act Job Reply}

/-- Items leave the queue in the order in which they entered it. -/
theorem Step.queue_flow (h : Step s a s') :
    s.pool.queue.map Item.ticket ++ accepts [a]
      = takes [a] ++ s'.pool.queue.map Item.ticket := by
  cases h with
  | accept hwaiting hroom =>
      show _ = List.map Item.ticket (_ ++ [_])
      rw [List.map_append]
      rfl
  | take hqueue hidle htake =>
      obtain rfl := take?_eq hqueue htake
      rw [hqueue]
      exact List.append_nil _
  | release _ hrelease =>
      obtain ⟨_, _, rfl, rfl⟩ := release?_eq hrelease
      exact List.append_nil _
  | deliver _ hdeliver =>
      obtain ⟨_, _, rfl, rfl⟩ := deliver?_eq hdeliver
      exact List.append_nil _
  | _ => exact List.append_nil _

/-- An item that is changed keeps its ticket. -/
theorem map_ticket_update (p : Pool Job Reply) (ticket : Nat)
    {f : Taken Job Reply → Taken Job Reply} (hf : ∀ t, (f t).ticket = t.ticket) :
    (p.update ticket f).taken.map Taken.ticket = p.taken.map Taken.ticket := by
  show (p.taken.map _).map _ = _
  rw [List.map_map]
  refine List.map_congr_left fun t _ => ?_
  show (if t.ticket = ticket then f t else t).ticket = t.ticket
  split
  · exact hf t
  · rfl

/-- What workers take they hold until they have delivered its outcome. -/
theorem Step.taken_flow (h : Step s a s')
    (hnodup : (s.places.map Place.ticket).Nodup) :
    (s.pool.taken.map Taken.ticket ++ takes [a]).Perm
      (s'.pool.taken.map Taken.ticket ++ deliveries [a]) := by
  cases h with
  | take hqueue hidle htake =>
      obtain rfl := take?_eq hqueue htake
      rw [List.map_append]
      exact .of_eq (List.append_nil _).symm
  | work job' htaken hstage =>
      show (_ ++ []).Perm ((s.pool.update _ _).taken.map _ ++ [])
      rw [map_ticket_update]
      exact fun _ => rfl
  | finish outcome htaken hstage =>
      show (_ ++ []).Perm ((s.pool.update _ _).taken.map _ ++ [])
      rw [map_ticket_update]
      exact fun _ => rfl
  | release _ hrelease =>
      obtain ⟨_, _, rfl, rfl⟩ := release?_eq hrelease
      show (_ ++ []).Perm ((s.pool.update _ _).taken.map _ ++ [])
      rw [map_ticket_update]
      exact fun _ => rfl
  | @deliver t e p htaken hdeliver =>
      obtain ⟨_, _, rfl, rfl⟩ := deliver?_eq hdeliver
      obtain ⟨before, after, hsplit⟩ := List.append_of_mem htaken
      show (_ ++ []).Perm ((s.pool.taken.filter _).map _ ++ [t.ticket])
      rw [filter_taken hsplit (nodup_taken hnodup), hsplit, List.append_nil]
      exact (List.perm_middle.map Taken.ticket).trans
        (List.perm_append_singleton ..).symm
  | _ => exact .refl _

/-- What one item has before it changes with its stage. -/
theorem dueAll_update {p : Pool Job Reply} {t : Taken Job Reply}
    (htaken : t ∈ p.taken) (hnodup : (p.taken.map Taken.ticket).Nodup)
    (f : Taken Job Reply → Taken Job Reply) :
    dueAll (p.update t.ticket f).taken + due t.stage
      = dueAll p.taken + due (f t).stage := by
  obtain ⟨before, after, hsplit⟩ := List.append_of_mem htaken
  rw [taken_update hsplit hnodup f, hsplit, dueAll_split, dueAll_split]
  omega

/-- An item that has been delivered has nothing before it. -/
theorem dueAll_filter {p : Pool Job Reply} {t : Taken Job Reply}
    (htaken : t ∈ p.taken) (hnodup : (p.taken.map Taken.ticket).Nodup) :
    dueAll (p.taken.filter fun u => u.ticket ≠ t.ticket) + due t.stage
      = dueAll p.taken := by
  obtain ⟨before, after, hsplit⟩ := List.append_of_mem htaken
  rw [filter_taken hsplit hnodup, hsplit, dueAll_split]

/-- Every accepted item is advanced four times. -/
theorem Step.load_flow (h : Step s a s')
    (hnodup : (s.places.map Place.ticket).Nodup) :
    s'.load + [a].countP Act.advances = s.load + 4 * (accepts [a]).length := by
  have htickets := nodup_taken hnodup
  cases h with
  | accept hwaiting hroom =>
      show 4 * (s.pool.queue ++ [_]).length + dueAll s.pool.taken + 0
        = s.load + 4 * 1
      rw [List.length_append, List.length_singleton]
      unfold Live.load
      omega
  | @take p item rest hqueue hidle htake =>
      obtain rfl := take?_eq hqueue htake
      unfold Live.load
      rw [hqueue, List.length_cons, dueAll_append]
      show 4 * rest.length + (dueAll s.pool.taken + 3) + 1 = _ + 0
      omega
  | @work t job job' htaken hstage =>
      have hdue := dueAll_update htaken htickets
        fun u => { u with stage := .running job' }
      rw [hstage] at hdue
      change dueAll (s.pool.resume t.ticket job').taken + 3 = _ + 3 at hdue
      show 4 * s.pool.queue.length + dueAll (s.pool.resume _ _).taken + 0
        = s.load + 0
      unfold Live.load
      omega
  | @finish t job outcome htaken hstage =>
      have hdue := dueAll_update htaken htickets
        fun u => { u with stage := .finished outcome }
      rw [hstage] at hdue
      change dueAll (s.pool.finish t.ticket outcome).taken + 3 = _ + 2 at hdue
      show 4 * s.pool.queue.length + dueAll (s.pool.finish _ _).taken + 1
        = s.load + 0
      unfold Live.load
      omega
  | @release t e p htaken hrelease =>
      obtain ⟨outcome, hstage, rfl, rfl⟩ := release?_eq hrelease
      have hdue := dueAll_update htaken htickets
        fun u => { u with stage := .released outcome }
      rw [hstage] at hdue
      change _ + 2 = _ + 1 at hdue
      show 4 * s.pool.queue.length + dueAll (s.pool.update _ _).taken + 1
        = s.load + 0
      unfold Live.load
      omega
  | @deliver t e p htaken hdeliver =>
      obtain ⟨outcome, hstage, rfl, rfl⟩ := deliver?_eq hdeliver
      have hdue := dueAll_filter htaken htickets
      rw [hstage] at hdue
      change _ + 1 = _ at hdue
      show 4 * s.pool.queue.length + dueAll (s.pool.taken.filter _) + 1
        = s.load + 0
      unfold Live.load
      omega
  | _ => rfl

end

-- =============================================================== bounds

/-- The shape of a pool. -/
def SameShape (p q : Pool Job Reply) : Prop :=
  p.name = q.name ∧ p.workers = q.workers ∧ p.capacity = q.capacity
    ∧ p.timeout = q.timeout

/-- What bounds a pool, and when it is closed. -/
structure Bounded (start : Pool Job Reply) (s : Live Job Reply) : Prop where
  shape : SameShape s.pool start
  room : s.pool.queue.length ≤ s.pool.capacity
  hands : s.pool.taken.length + s.gone ≤ s.pool.workers
  /-- Workers leave when nothing can come any more. -/
  closed : 0 < s.gone →
    s.pool.isShutDown = true ∧ s.waiting = [] ∧ s.pool.queue = []

section

variable {start : Pool Job Reply} {s s' : Live Job Reply} {a : Act Job Reply}

theorem length_taken_update (p : Pool Job Reply) (ticket : Nat)
    (f : Taken Job Reply → Taken Job Reply) :
    (p.update ticket f).taken.length = p.taken.length :=
  List.length_map ..

theorem Bounded.step (h : Bounded start s) (hstep : Step s a s') :
    Bounded start s' := by
  obtain ⟨hshape, hroom, hhands, hclosed⟩ := h
  -- a queue into which somebody waits to put something is not closed
  have hopen : ∀ item front back, s.waiting = front ++ item :: back →
      s.gone = 0 := by
    intro item front back hwaiting
    refine Nat.eq_zero_of_not_pos fun hgone => ?_
    rw [(hclosed hgone).2.1] at hwaiting
    simp at hwaiting
  cases hstep with
  | ask => exact ⟨hshape, hroom, hhands, hclosed⟩
  | enter _ hshut =>
      refine ⟨hshape, hroom, hhands, fun hgone => ?_⟩
      rw [hshut] at hclosed
      cases (hclosed hgone).1
  | turnAway => exact ⟨hshape, hroom, hhands, hclosed⟩
  | hangUp => exact ⟨hshape, hroom, hhands, hclosed⟩
  | accept hwaiting hspace =>
      have hgone := hopen _ _ _ hwaiting
      refine ⟨hshape, ?_, hhands, fun h => ?_⟩
      · show (s.pool.queue ++ [_]).length ≤ s.pool.capacity
        rw [hasRoom, decide_eq_true_eq] at hspace
        rw [List.length_append, List.length_singleton]
        exact hspace
      · change 0 < s.gone at h
        omega
  | timeOut hwaiting | close hwaiting | giveUp hwaiting =>
      have hgone := hopen _ _ _ hwaiting
      refine ⟨hshape, hroom, hhands, fun h => ?_⟩
      change 0 < s.gone at h
      omega
  | @take p item rest hqueue hidle htake =>
      obtain rfl := take?_eq hqueue htake
      rw [hqueue, List.length_cons] at hroom
      refine ⟨hshape, ?_, ?_, fun hgone => ?_⟩
      · show rest.length ≤ s.pool.capacity
        omega
      · show (s.pool.taken ++ [_]).length + s.gone ≤ s.pool.workers
        rw [List.length_append, List.length_singleton]
        omega
      · have hempty := (hclosed hgone).2.2
        rw [hqueue] at hempty
        cases hempty
  | work | finish =>
      refine ⟨hshape, hroom, ?_, hclosed⟩
      show (s.pool.update _ _).taken.length + s.gone ≤ s.pool.workers
      rw [length_taken_update]
      exact hhands
  | release _ hrelease =>
      obtain ⟨_, _, rfl, rfl⟩ := release?_eq hrelease
      refine ⟨hshape, hroom, ?_, hclosed⟩
      show (s.pool.update _ _).taken.length + s.gone ≤ s.pool.workers
      rw [length_taken_update]
      exact hhands
  | @deliver t e p htaken hdeliver =>
      obtain ⟨_, _, rfl, rfl⟩ := deliver?_eq hdeliver
      refine ⟨hshape, hroom, ?_, hclosed⟩
      have hle := List.length_filter_le
        (fun u : Taken Job Reply => u.ticket ≠ t.ticket) s.pool.taken
      show (s.pool.taken.filter _).length + s.gone ≤ s.pool.workers
      omega
  | shutDown => exact ⟨hshape, hroom, hhands, fun hgone => ⟨rfl, (hclosed hgone).2⟩⟩
  | leave hshut hwaiting hqueue hidle =>
      refine ⟨hshape, hroom, ?_, fun _ => ⟨hshut, hwaiting, hqueue⟩⟩
      show s.pool.taken.length + (s.gone + 1) ≤ s.pool.workers
      omega
  | join => exact ⟨hshape, hroom, hhands, hclosed⟩
  | joined => exact ⟨hshape, hroom, hhands, hclosed⟩
  | pass => exact ⟨hshape, hroom, hhands, hclosed⟩

-- ============================================================= shutting

/-- A pool that has been shut down stays so. -/
theorem Step.isShutDown (h : Step s a s') :
    s'.pool.isShutDown = true ↔ s.pool.isShutDown = true ∨ a = .shutDown := by
  cases h with
  | take hqueue _ htake =>
      obtain rfl := take?_eq hqueue htake
      simp
  | release _ hrelease =>
      obtain ⟨_, _, rfl, rfl⟩ := release?_eq hrelease
      simp [update]
  | deliver _ hdeliver =>
      obtain ⟨_, _, rfl, rfl⟩ := deliver?_eq hdeliver
      simp
  | shutDown => simp [Pool.shutDown]
  | _ => simp [enqueue, resume, Pool.finish, update]

/-- Nobody enters a pool that is shut down. -/
theorem Step.entered {ticket : Nat} (h : Step s (.entered ticket) s') :
    s.pool.isShutDown = false := by
  generalize ha : (.entered ticket : Act Job Reply) = a at h
  cases h with
  | enter _ hopen => exact hopen
  | release _ hrelease =>
      obtain ⟨_, _, rfl, _⟩ := release?_eq hrelease
      cases ha
  | deliver _ hdeliver =>
      obtain ⟨_, _, rfl, _⟩ := deliver?_eq hdeliver
      cases ha
  | _ => cases ha

/-- A worker that has left does not come back. -/
theorem Step.gone_le (h : Step s a s') : s.gone ≤ s'.gone := by
  cases h with
  | leave => exact Nat.le_succ _
  | _ => exact Nat.le_refl _

end

-- ============================================================= the joins

/-- What the place of the handles says: as long as they are in the pool no join
has returned, and once they are used up every worker has left. -/
structure Joined (log : List (Act Job Reply)) (s : Live Job Reply) : Prop where
  kept : s.handles = .kept → ∀ b, .joined b ∉ log
  spent : .joined true ∈ log ↔ s.handles = .spent
  gone : s.handles = .spent → s.gone = s.pool.workers

section

variable {log : List (Act Job Reply)} {s s' : Live Job Reply} {a : Act Job Reply}

/-- A step that is none of a join leaves the handles where they are. -/
theorem Step.handles_eq (h : Step s a s') (hjoining : a ≠ .joining)
    (hjoined : ∀ b, a ≠ .joined b) : s'.handles = s.handles := by
  cases h with
  | join => exact absurd rfl hjoining
  | joined => exact absurd rfl (hjoined true)
  | _ => rfl

/-- The workers are as many as before, and no more have left than there are. -/
theorem Joined.step (h : Joined log s) (hstep : Step s a s')
    (hworkers : s'.pool.workers = s.pool.workers) (hhands : s'.gone ≤ s'.pool.workers) :
    Joined (log ++ [a]) s' := by
  have hmem {b : Bool} : .joined b ∈ log ++ [a] ↔ .joined b ∈ log ∨ a = .joined b := by
    rw [List.mem_append, List.mem_singleton, eq_comm (a := a)]
  by_cases hjoins : a = .joining ∨ ∃ b, a = .joined b
  · obtain rfl | ⟨b, rfl⟩ := hjoins
    · cases hstep with
      | join hshut hkept =>
          refine ⟨nofun, ?_, nofun⟩
          rw [hmem]
          exact iff_of_false (fun hold => hold.elim (h.kept hkept true) nofun) nofun
    · cases hstep with
      | joined hheld hgone =>
          exact ⟨nofun, iff_of_true (hmem.2 (.inr rfl)) rfl, fun _ => hgone⟩
      | pass hshut htaken =>
          refine ⟨fun hkept => absurd hkept htaken, ?_, h.gone⟩
          rw [hmem, h.spent]
          simp
  · have hother : ∀ b, a ≠ .joined b := fun b hb => hjoins (.inr ⟨b, hb⟩)
    have hsame := hstep.handles_eq (fun hj => hjoins (.inl hj)) hother
    have hleft := hstep.gone_le
    refine ⟨fun hkept b hb => ?_, ?_, fun hspent => ?_⟩
    · rw [hsame] at hkept
      exact (hmem.1 hb).elim (h.kept hkept b) (hother b)
    · rw [hmem, or_iff_left (hother true), hsame]
      exact h.spent
    · have hgone := h.gone (hsame ▸ hspent)
      omega

/-- When a join has returned and none waits, every worker has left. -/
theorem Joined.gone_of_joined (h : Joined log s) {b : Bool} (hjoined : .joined b ∈ log)
    (hwaits : s.handles ≠ .held) : s.gone = s.pool.workers := by
  cases hhandles : s.handles with
  | kept => exact absurd hjoined (h.kept hhandles b)
  | held => exact absurd hhandles hwaits
  | spent => exact h.gone hhandles

end

-- ============================================================ the books

/-- What holds of a pool after any run. -/
structure Books (start : Pool Job Reply) (log : List (Act Job Reply))
    (s : Live Job Reply) : Prop where
  placed : Placed log s
  bounded : Bounded start s
  fifo : accepts log = takes log ++ s.pool.queue.map Item.ticket
  held : (takes log).Perm (s.pool.taken.map Taken.ticket ++ deliveries log)
  steps : s.load + log.countP Act.advances = 4 * (accepts log).length
  shut : s.pool.isShutDown = true ↔ .shutDown ∈ log
  order : log.Pairwise fun a b => a = .shutDown → ∀ t, b ≠ .entered t
  joins : Joined log s

section

variable {start : Pool Job Reply} {log : List (Act Job Reply)}
  {s s' : Live Job Reply} {a : Act Job Reply}

theorem accepts_snoc : accepts (log ++ [a]) = accepts log ++ accepts [a] :=
  List.filterMap_append ..

theorem takes_snoc : takes (log ++ [a]) = takes log ++ takes [a] :=
  List.filterMap_append ..

theorem deliveries_snoc :
    deliveries (log ++ [a]) = deliveries log ++ deliveries [a] :=
  List.filterMap_append ..

theorem perm_append_right_comm {α : Type} (as bs cs : List α) :
    (as ++ bs ++ cs).Perm (as ++ cs ++ bs) := by
  rw [List.append_assoc, List.append_assoc]
  exact List.perm_append_comm.append_left _

/-- An account goes on: what has come in is still there or has gone out. -/
theorem perm_carry {α : Type} {came here gone new here' left : List α}
    (haccount : came.Perm (here ++ gone))
    (hflow : (here ++ new).Perm (here' ++ left)) :
    (came ++ new).Perm (here' ++ (gone ++ left)) := by
  have hcarry : (came ++ new).Perm (here' ++ left ++ gone) :=
    ((haccount.append_right _).trans (perm_append_right_comm ..)).trans
      (hflow.append_right _)
  refine hcarry.trans ?_
  rw [List.append_assoc]
  exact List.perm_append_comm.append_left _

theorem Books.step (h : Books start log s) (hstep : Step s a s') :
    Books start (log ++ [a]) s' := by
  have hnodup := h.placed.nodup
  have hbounded := h.bounded.step hstep
  refine ⟨h.placed.step hstep, hbounded, ?_, ?_, ?_, ?_, ?_, ?_⟩
  · rw [accepts_snoc, takes_snoc, h.fifo, List.append_assoc, List.append_assoc,
      hstep.queue_flow]
  · rw [takes_snoc, deliveries_snoc]
    exact perm_carry h.held (hstep.taken_flow hnodup)
  · have hflow := hstep.load_flow hnodup
    have hsteps := h.steps
    rw [List.countP_append, accepts_snoc, List.length_append]
    omega
  · rw [hstep.isShutDown, h.shut, List.mem_append, List.mem_singleton]
    exact or_congr_right eq_comm
  · refine List.pairwise_append.2 ⟨h.order, List.pairwise_singleton .., ?_⟩
    intro b hb c hc hshut t hentered
    rw [List.mem_singleton.1 hc] at hentered
    subst hshut hentered
    have hopen := hstep.entered
    rw [h.shut.2 hb] at hopen
    cases hopen
  · obtain ⟨-, hworkers, -, -⟩ := h.bounded.shape
    obtain ⟨-, hworkers', -, -⟩ := hbounded.shape
    exact h.joins.step hstep (hworkers'.trans hworkers.symm)
      (Nat.le_trans (Nat.le_add_left ..) hbounded.hands)

/-- A pool that has just been started. -/
structure Fresh (p : Pool Job Reply) : Prop where
  queue : p.queue = []
  taken : p.taken = []
  isOpen : p.isShutDown = false

theorem Run.books (hfresh : Fresh start) (h : Run start log s) :
    Books start log s := by
  induction h with
  | start =>
      have hload : ({ pool := start } : Live Job Reply).load = 0 := by
        unfold Live.load
        rw [hfresh.queue, hfresh.taken]
        rfl
      refine ⟨Run.placed hfresh.queue hfresh.taken .start, ⟨⟨rfl, rfl, rfl, rfl⟩, ?_,
        ?_, fun h => absurd h (Nat.lt_irrefl 0)⟩, ?_, ?_, ?_, ?_, .nil, ?_⟩
      · rw [hfresh.queue]
        exact Nat.zero_le _
      · rw [hfresh.taken]
        exact Nat.zero_le _
      · rw [hfresh.queue]
        rfl
      · rw [hfresh.taken]
        exact .refl _
      · rw [hload]
        rfl
      · rw [hfresh.isOpen]
        exact ⟨fun h => (by cases h), fun h => (by cases h)⟩
      · exact ⟨fun _ _ => nofun, iff_of_false nofun nofun, nofun⟩
  | step _ hstep ih => exact ih.step hstep

end

end CheckGateway.Pool
