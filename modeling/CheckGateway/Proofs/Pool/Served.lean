/-
Worker pools serve everything that they accept, once and in order, whatever
the order in which submitters, workers and those who shut a pool down come
to act.

# What is put together

The books of a run (`Run.books`) and the shape of lives (`Fits`, `Over`)
already say where every submission is. Three things are left to read off
them. A submission that was accepted has been let in first, and then has
nothing in its life but what workers do (`admitted_of_accepted`). A pool in
which something is left to do has a worker that can go on
(`Live.exists_step`), so the pool does not get stuck on a panic or on being
shut down; the log counts how far it has come. And when the last worker has
left, no accepted item can be anywhere but at its end (`Placed.served`).

# What a join says

The join that has the handles of the workers returns when they have left, so
everything has been served by then. Another join has nobody to wait for. While
the first one waits it returns at once, with items still in the queue and in
the hands of workers (`join_returns_before_the_work`).
-/
import CheckGateway.Proofs.Pool.Account

namespace CheckGateway.Pool

variable {Job Reply : Type}

-- ================================================== what follows acceptance

/-- The act is one of a worker on an item. -/
def Act.byWorker : Act Job Reply → Bool
  | .worked .. => true
  | .ended .. => true
  | .did _ => true
  | _ => false

/-- A life that has been let into the queue, and after that is in the hands
of workers. -/
def Admitted (item : Item Job) (ℓ : List (Act Job Reply)) : Prop :=
  ∃ rest, ℓ = admission item ++ rest ∧ ∀ a ∈ rest, a.byWorker = true

section

variable {ℓ : List (Act Job Reply)} {p : Place Job Reply} {item other : Item Job}

/-- In a life that has been let in there is one acceptance. -/
theorem Admitted.accepts (h : Admitted item ℓ) : accepts ℓ = [item.ticket] := by
  obtain ⟨rest, rfl, hrest⟩ := h
  have hnone : accepts rest = [] := by
    refine List.filterMap_eq_nil_iff.2 fun a ha => ?_
    have hworker := hrest a ha
    cases a with
    | accepted item => cases hworker
    | _ => rfl
  show item.ticket :: accepts rest = _
  rw [hnone]

theorem Admitted.eq (h : Admitted item ℓ) (hmem : .accepted other ∈ ℓ) :
    other = item := by
  obtain ⟨rest, rfl, hrest⟩ := h
  rcases List.mem_append.1 hmem with hmem | hmem
  · simpa [admission] using hmem
  · cases hrest _ hmem

theorem admitted_execution (item : Item Job) (n : Nat)
    {rest : List (Act Job Reply)} (hrest : ∀ a ∈ rest, a.byWorker = true) :
    Admitted item (execution item n ++ rest) := by
  refine ⟨.did (.took item.ticket)
    :: (List.replicate n (.worked item.ticket) ++ rest), ?_, fun a ha => ?_⟩
  · unfold execution
    rw [List.append_assoc]
    rfl
  · rcases List.mem_cons.1 ha with rfl | ha
    · rfl
    rcases List.mem_append.1 ha with ha | ha
    · rw [(List.mem_replicate.1 ha).2]
      rfl
    · exact hrest a ha

/-- A submission that has been accepted is queued or taken. -/
theorem Fits.admitted (h : Fits p ℓ) (hmem : .accepted other ∈ ℓ) :
    Admitted other ℓ := by
  have hsome : ∃ item, Admitted item ℓ := by
    cases h with
    | calling item => simp at hmem
    | waiting item => simp at hmem
    | queued item => exact ⟨item, [], rfl, by simp⟩
    | running item n job =>
        have h : Admitted item (execution item n ++ [] : List (Act Job Reply)) :=
          admitted_execution item n (by simp)
        rw [List.append_nil] at h
        exact ⟨item, h⟩
    | finished item n outcome =>
        exact ⟨item, admitted_execution item n (by simp [Act.byWorker])⟩
    | released item n outcome =>
        exact ⟨item, admitted_execution item n (by simp [Act.byWorker])⟩
  obtain ⟨item, h⟩ := hsome
  rw [h.eq hmem]
  exact h

/-- A submission that had been accepted has been served. -/
theorem Over.served_of_accepted (h : Over ℓ) (hmem : .accepted other ∈ ℓ) :
    ∃ n outcome, ℓ = service other n outcome := by
  cases h with
  | served item n outcome =>
      have h : Admitted item (service item n outcome) :=
        admitted_execution item n (by simp [Act.byWorker])
      obtain rfl := h.eq hmem
      exact ⟨n, outcome, rfl⟩
  | turnedAway | refused | hungUp | gaveUp => simp at hmem

end

section

variable {log : List (Act Job Reply)} {s : Live Job Reply} {t : Nat}

theorem mem_accepts :
    t ∈ accepts log ↔ ∃ item, .accepted item ∈ log ∧ item.ticket = t := by
  unfold accepts
  rw [List.mem_filterMap]
  constructor
  · rintro ⟨a, ha, heq⟩
    cases a with
    | accepted item => exact ⟨item, ha, Option.some.inj heq⟩
    | _ => cases heq
  · rintro ⟨item, hitem, rfl⟩
    exact ⟨_, hitem, rfl⟩

/-- A submission with a ticket that was accepted has been let in. -/
theorem Placed.admitted (h : Placed log s) {item : Item Job}
    (hmem : .accepted item ∈ log) : Admitted item (life item.ticket log) := by
  have hlife := mem_life.2 ⟨hmem, rfl⟩
  by_cases hknown : item.ticket ∈ s.tickets
  · rcases h.ended _ hknown with ⟨p, hp, heq⟩ | hover
    · have hfits := h.fits p hp
      rw [heq] at hfits
      exact hfits.admitted hlife
    · obtain ⟨n, outcome, hserved⟩ := hover.served_of_accepted hlife
      rw [hserved]
      exact admitted_execution item n (by simp [Act.byWorker])
  · rw [h.unknown _ hknown] at hlife
    cases hlife

/-- The acceptances of a ticket are those in its life. -/
theorem accepts_life : accepts (life t log) = (accepts log).filter (· == t) := by
  unfold accepts life
  rw [List.filterMap_filter, List.filter_filterMap]
  refine congrArg (List.filterMap · log) (funext fun a => ?_)
  cases a with
  | accepted item => simp [Act.ticket?, Option.filter]
  | _ => simp

/-- No ticket is accepted twice. -/
theorem Placed.nodup_accepts (h : Placed log s) : (accepts log).Nodup := by
  refine List.nodup_iff_count.2 fun t => ?_
  rw [List.count_eq_length_filter, ← accepts_life]
  by_cases hmem : t ∈ accepts log
  · obtain ⟨item, hitem, rfl⟩ := mem_accepts.1 hmem
    rw [(h.admitted hitem).accepts]
    exact Nat.le_refl 1
  · rw [accepts_life, List.filter_eq_nil_iff.2 fun u hu => ?_]
    · exact Nat.zero_le 1
    · rw [beq_iff_eq]
      exact fun heq => hmem (heq ▸ hu)

end

-- ========================================================== going on

section

variable {start : Pool Job Reply} {log : List (Act Job Reply)}
  {s : Live Job Reply}

/-- While something is queued and a worker has nothing in hand, it can take
the first item. -/
theorem Bounded.exists_take (h : Bounded start s) {item : Item Job}
    {rest : List (Item Job)} (hqueue : s.pool.queue = item :: rest)
    (hidle : s.pool.taken.length < start.workers) :
    ∃ s', Step s (.did (.took item.ticket)) s' := by
  have hstay : s.gone = 0 := by
    refine Nat.eq_zero_of_not_pos fun hgone => ?_
    rw [(h.closed hgone).2.2] at hqueue
    cases hqueue
  obtain ⟨-, hworkers, -, -⟩ := h.shape
  rw [← hworkers] at hidle
  have htake : s.pool.take? = some
      { s.pool with
        queue := rest
        taken := s.pool.taken
          ++ [⟨item.ticket, item.fingerprint, .running item.job⟩] } := by
    unfold take?
    rw [hqueue]
    exact if_pos hidle
  exact ⟨_, .take hqueue (by rw [hstay]; exact hidle) htake⟩

/-- An item in the hands of a worker can be brought on its way. -/
theorem exists_step_of_taken {t : Taken Job Reply} (ht : t ∈ s.pool.taken) :
    ∃ a s', Step s a s' ∧ a.advances = true := by
  cases hstage : t.stage with
  | running job => exact ⟨_, _, .finish none ht hstage, rfl⟩
  | finished outcome =>
      obtain ⟨p, hrelease⟩ : ∃ p, s.pool.release? t
          = some (.released t.ticket t.fingerprint, p) := by
        unfold release?
        rw [hstage]
        exact ⟨_, rfl⟩
      exact ⟨_, _, .release ht hrelease, rfl⟩
  | released outcome =>
      obtain ⟨p, hdeliver⟩ : ∃ p, s.pool.deliver? t
          = some (.delivered t.ticket outcome, p) := by
        unfold deliver?
        rw [hstage]
        exact ⟨_, rfl⟩
      exact ⟨_, _, .deliver ht hdeliver, rfl⟩

/-- While anything is left to do, a worker can go on. -/
theorem Bounded.exists_step (h : Bounded start s) (hworkers : 0 < start.workers)
    (hload : 0 < s.load) : ∃ a s', Step s a s' ∧ a.advances = true := by
  cases htaken : s.pool.taken with
  | cons t rest =>
      refine exists_step_of_taken (t := t) ?_
      rw [htaken]
      exact List.mem_cons_self ..
  | nil =>
      cases hqueue : s.pool.queue with
      | nil =>
          unfold Live.load at hload
          rw [hqueue, htaken] at hload
          exact absurd hload (Nat.lt_irrefl 0)
      | cons item rest =>
          have hidle : s.pool.taken.length < start.workers := by
            rw [htaken]
            exact hworkers
          obtain ⟨s', hstep⟩ := h.exists_take hqueue hidle
          exact ⟨_, s', hstep, rfl⟩

-- ======================================================= after the end

theorem mem_places {p : Place Job Reply} (hp : p ∈ s.places)
    (hqueue : s.pool.queue = []) (htaken : s.pool.taken = []) :
    ∃ item, p = .calling item ∨ p = .waiting item := by
  unfold Live.places placesOf at hp
  rw [hqueue, htaken, List.map_nil, List.map_nil, List.append_nil,
    List.append_nil] at hp
  rcases List.mem_append.1 hp with hp | hp
  · obtain ⟨item, -, rfl⟩ := List.mem_map.1 hp
    exact ⟨item, .inl rfl⟩
  · obtain ⟨item, -, rfl⟩ := List.mem_map.1 hp
    exact ⟨item, .inr rfl⟩

/-- In a pool with nothing in it everything that was accepted has been
served. -/
theorem Placed.served (h : Placed log s) (hqueue : s.pool.queue = [])
    (htaken : s.pool.taken = []) {item : Item Job} (hmem : .accepted item ∈ log) :
    ∃ n outcome, life item.ticket log = service item n outcome := by
  have hlife := mem_life.2 ⟨hmem, rfl⟩
  have hknown : item.ticket ∈ s.tickets := by
    refine Decidable.byContradiction fun hnot => ?_
    rw [h.unknown _ hnot] at hlife
    cases hlife
  rcases h.ended _ hknown with ⟨p, hp, heq⟩ | hover
  · have hfits := h.fits p hp
    rw [heq] at hfits
    generalize life item.ticket log = ℓ at hfits hlife
    obtain ⟨other, rfl | rfl⟩ := mem_places hp hqueue htaken
    · cases hfits
      simp at hlife
    · cases hfits
      simp at hlife
  · exact hover.served_of_accepted hlife

/-- Once all workers have left there is nothing in the pool. -/
theorem Bounded.empty_of_gone (h : Bounded start s) (hworkers : 0 < start.workers)
    (hgone : s.gone = s.pool.workers) :
    s.pool.queue = [] ∧ s.pool.taken = [] := by
  obtain ⟨-, hshape, -, -⟩ := h.shape
  have hhands := h.hands
  obtain ⟨-, -, hqueue⟩ := h.closed (by omega)
  exact ⟨hqueue, List.eq_nil_of_length_eq_zero (by omega)⟩

theorem empty_of_load (h : s.load = 0) :
    s.pool.queue = [] ∧ s.pool.taken = [] := by
  unfold Live.load at h
  refine ⟨List.eq_nil_of_length_eq_zero (by omega), ?_⟩
  cases htaken : s.pool.taken with
  | nil => rfl
  | cons t rest =>
      rw [htaken] at h
      have hdue : 0 < due t.stage := by
        cases t.stage <;> exact Nat.succ_pos _
      change _ + (due t.stage + dueAll rest) = 0 at h
      omega

/-- Workers alone bring every accepted item to its end. -/
theorem Books.drains (h : Books start log s) (hrun : Run start log s)
    (hworkers : 0 < start.workers) :
    ∃ more s', Run start (log ++ more) s' ∧ more.length = s.load
      ∧ (∀ a ∈ more, a.advances = true) ∧ s'.load = 0 := by
  generalize hload : s.load = n
  induction n generalizing log s with
  | zero =>
      refine ⟨[], s, ?_, rfl, fun a ha => (by cases ha), hload⟩
      rw [List.append_nil]
      exact hrun
  | succ n ih =>
      obtain ⟨a, s₁, hstep, ha⟩ := h.bounded.exists_step hworkers (by omega)
      have hflow := hstep.load_flow h.placed.nodup
      have hnone : accepts [a] = [] := by
        cases a with
        | accepted item => cases ha
        | _ => rfl
      rw [hnone, List.countP_singleton, if_pos ha, List.length_nil] at hflow
      obtain ⟨more, s', hrun', hlength, hadvances, hload'⟩ :=
        ih (h.step hstep) (hrun.step hstep) (by omega)
      refine ⟨a :: more, s', ?_, ?_, ?_, hload'⟩
      · rw [List.append_assoc] at hrun'
        exact hrun'
      · rw [List.length_cons, hlength]
      · intro b hb
        rcases List.mem_cons.1 hb with rfl | hb
        · exact ha
        · exact hadvances b hb

theorem eq_append_of_append_eq {α : Type} {as bs zs : List α} {x y : α}
    (h : as ++ bs = x :: y :: zs) (hy : y ∉ bs) : ∃ cs, zs = cs ++ bs := by
  cases as with
  | nil =>
      rw [List.nil_append] at h
      rw [h] at hy
      exact absurd (List.mem_cons_of_mem _ (List.mem_cons_self ..)) hy
  | cons a as =>
      have htail : as ++ bs = y :: zs := (List.cons.inj h).2
      cases as with
      | nil =>
          rw [List.nil_append] at htail
          rw [htail] at hy
          exact absurd (List.mem_cons_self ..) hy
      | cons b as => exact ⟨as, (List.cons.inj htail).2.symm⟩

/-- What starts after a pool has been shut down is not accepted. -/
theorem Books.not_accepted_of_late (h : Books start log s)
    {before after : List (Act Job Reply)} {item : Item Job}
    (hlog : log = before ++ .shutDown :: after) (hasked : .asked item ∈ after) :
    item.ticket ∉ accepts log := by
  intro hmem
  obtain ⟨other, hother, heq⟩ := mem_accepts.1 hmem
  obtain ⟨rest, hlife, hrest⟩ := h.placed.admitted hother
  rw [heq] at hlife
  -- nobody enters after the shutdown
  have hlate : ∀ t, .entered t ∉ after := by
    have horder := h.order
    rw [hlog] at horder
    have hpair := (List.pairwise_cons.1 (List.pairwise_append.1 horder).2.1).1
    exact fun t ht => hpair _ ht rfl t rfl
  have hsplit : life item.ticket log
      = life item.ticket before ++ life item.ticket after := by
    unfold life
    rw [hlog, List.filter_append, List.filter_cons]
    rfl
  have hnot : .entered item.ticket ∉ life item.ticket after := fun ht =>
    hlate _ (mem_life.1 ht).1
  rw [hsplit, admission, heq] at hlife
  -- so the submission entered before it, and nobody starts twice
  obtain ⟨cs, hrest'⟩ := eq_append_of_append_eq hlife hnot
  have hagain : .asked item ∈ .accepted other :: rest := by
    have hmem : .asked item ∈ cs ++ life item.ticket after :=
      List.mem_append_right _ (mem_life.2 ⟨hasked, rfl⟩)
    rw [← hrest'] at hmem
    exact hmem
  rcases List.mem_cons.1 hagain with heq | hmem
  · cases heq
  · cases hrest _ hmem

end

-- ========================================================= refusals

section

variable {ℓ : List (Act Job Reply)} {p : Place Job Reply} {t : Nat}
  {e : GatewayError}

/-- A submission that is somewhere has not been refused. -/
theorem Fits.not_refused (h : Fits p ℓ) : .refused t e ∉ ℓ := by
  cases h <;> simp [execution, admission, List.mem_replicate]

/-- No worker has anything to do with a submission that is refused. -/
theorem Over.not_byWorker_of_refused (h : Over ℓ) (hmem : .refused t e ∈ ℓ) :
    ∀ a ∈ ℓ, a.byWorker = false := by
  cases h with
  | served => simp [service, execution, admission, List.mem_replicate] at hmem
  | turnedAway => simp [Act.byWorker]
  | refused => simp [Act.byWorker]
  | hungUp => simp at hmem
  | gaveUp => simp at hmem

end

-- ============================================================= the whole

/-- What is true of a pool of some shape at every point of every run. -/
structure Accounted (spec : PoolSpec) (start : Pool Job Reply)
    (log : List (Act Job Reply)) (s : Live Job Reply) : Prop where
  /-- No submission is in two places. -/
  apart : (s.places.map Place.ticket).Nodup
  /-- A submission has not started, or has the life that belongs to its
  place, or is in no place and has lived one of the whole lives. -/
  lives : ∀ t, life t log = []
    ∨ (∃ p ∈ s.places, p.ticket = t ∧ Fits p (life t log))
    ∨ ((∀ p ∈ s.places, p.ticket ≠ t) ∧ Over (life t log))
  /-- No ticket is accepted twice, and each that was accepted is queued,
  taken or delivered. -/
  once : (accepts log).Nodup
  account : (accepts log).Perm (s.pool.queue.map Item.ticket
    ++ (s.pool.taken.map Taken.ticket ++ deliveries log))
  /-- Items are taken in the order in which they were accepted. -/
  inOrder : takes log <+: accepts log
  room : s.pool.queue.length ≤ spec.capacity.max 1
  hands : s.pool.taken.length ≤ spec.workers.max 1
  /-- Each worker that has nothing in hand can take the next item, whatever
  became of the jobs before. -/
  idle : ∀ item rest, s.pool.queue = item :: rest →
    s.pool.taken.length < spec.workers.max 1 →
    ∃ s', Step s (.did (.took item.ticket)) s'
  refused : ∀ t e, .refused t e ∈ log → ∀ a ∈ life t log, a.byWorker = false
  /-- What starts after the shutdown is not accepted. -/
  late : ∀ before after item, log = before ++ .shutDown :: after →
    .asked item ∈ after → item.ticket ∉ accepts log
  /-- Every accepted item is advanced four times, and while that has not
  happened a worker can go on. -/
  steps : s.load + log.countP Act.advances = 4 * (accepts log).length
  goesOn : 0 < s.load → ∃ a s', Step s a s' ∧ a.advances = true
  /-- Left to its workers, a pool serves everything that it has accepted. -/
  drains : ∃ more s', Run start (log ++ more) s' ∧ more.length = s.load
    ∧ (∀ a ∈ more, a.advances = true)
    ∧ ∀ item, .accepted item ∈ log →
      ∃ n outcome, life item.ticket (log ++ more) = service item n outcome
  /-- The queue that a pool shows is the one that it has, until it is shut down:
  from then on it shows none, whatever still waits. -/
  shown : (.shutDown ∉ log → s.pool.queued = s.pool.queue.length)
    ∧ (.shutDown ∈ log → s.pool.queued = 0)
  /-- When a join has returned, everything that was accepted has been served,
  unless another join has the workers' handles and still waits. -/
  joined : ∀ b, .joined b ∈ log → s.handles ≠ .held → ∀ item, .accepted item ∈ log →
    ∃ n outcome, life item.ticket log = service item n outcome
  /-- The join that has the handles is not waited for when it has returned. -/
  waited : .joined true ∈ log → s.handles = .spent

section

variable {spec : PoolSpec} {n : Nat} {start : Pool Job Reply}
  {log : List (Act Job Reply)} {s : Live Job Reply}

/-- What a pool is like when it is started. -/
theorem start?_eq (h : start? spec n = some start) :
    Fresh start ∧ start.workers = spec.workers.max 1
      ∧ start.capacity = spec.capacity.max 1 := by
  unfold start? at h
  dsimp only at h
  split at h
  · cases h
  · obtain rfl := Option.some.inj h
    exact ⟨⟨rfl, rfl, rfl⟩, rfl, rfl⟩

/-- A worker pool loses nothing, does nothing twice, releases before it
replies, and closes only when it is done. -/
theorem accounted_of_run (hstart : start? spec n = some start)
    (hrun : Run start log s) : Accounted spec start log s := by
  obtain ⟨hfresh, hworkers, hcapacity⟩ := start?_eq hstart
  have hpos : 0 < start.workers := by
    rw [hworkers]
    exact Nat.le_max_right ..
  have h := hrun.books hfresh
  obtain ⟨-, hsame, hsame', -⟩ := h.bounded.shape
  refine ⟨h.placed.nodup, ?_, h.placed.nodup_accepts, ?_, ?_, ?_, ?_, ?_, ?_, ?_,
    h.steps, h.bounded.exists_step hpos, ?_, ⟨?_, ?_⟩, ?_, h.joins.spent.1⟩
  · intro t
    by_cases hknown : t ∈ s.tickets
    · by_cases hplace : ∃ p ∈ s.places, p.ticket = t
      · obtain ⟨p, hp, rfl⟩ := hplace
        exact .inr (.inl ⟨p, hp, rfl, h.placed.fits p hp⟩)
      · refine .inr (.inr ⟨fun p hp heq => hplace ⟨p, hp, heq⟩, ?_⟩)
        exact (h.placed.ended t hknown).resolve_left hplace
    · exact .inl (h.placed.unknown t hknown)
  · rw [h.fifo]
    exact List.perm_append_comm.trans (h.held.append_left _)
  · rw [h.fifo]
    exact List.prefix_append ..
  · rw [← hcapacity, ← hsame']
    exact h.bounded.room
  · rw [← hworkers, ← hsame]
    exact Nat.le_trans (Nat.le_add_right ..) h.bounded.hands
  · rw [← hworkers]
    exact fun item rest => h.bounded.exists_take
  · intro t e hmem
    have hlife := mem_life.2 ⟨hmem, rfl⟩
    by_cases hknown : t ∈ s.tickets
    · rcases h.placed.ended t hknown with ⟨p, hp, rfl⟩ | hover
      · exact absurd hlife (h.placed.fits p hp).not_refused
      · exact hover.not_byWorker_of_refused hlife
    · rw [h.placed.unknown t hknown] at hlife
      cases hlife
  · exact fun before after item => h.not_accepted_of_late
  · obtain ⟨more, s', hrun', hlength, hadvances, hload⟩ := h.drains hrun hpos
    refine ⟨more, s', hrun', hlength, hadvances, fun item hmem => ?_⟩
    obtain ⟨hqueue, htaken⟩ := empty_of_load hload
    exact (hrun'.books hfresh).placed.served hqueue htaken
      (List.mem_append_left _ hmem)
  · intro hopen
    exact if_neg fun hshut => hopen (h.shut.1 hshut)
  · intro hshut
    exact if_pos (h.shut.2 hshut)
  · intro b hjoined hwaits item hmem
    obtain ⟨hqueue, htaken⟩ := h.bounded.empty_of_gone hpos (h.joins.gone_of_joined hjoined hwaits)
    exact h.placed.served hqueue htaken hmem

/-- The shape of a pool of one worker, with room for one item. -/
def smallest : PoolSpec := ⟨"host", .global, 0, 0, 0⟩

/-- A job dies while the pool is shut down and joined, which turns somebody
away. -/
def panicLog : List (Act Unit Unit) :=
  [.asked ⟨0, "fp", ()⟩, .entered 0, .accepted ⟨0, "fp", ()⟩, .did (.took 0),
    .shutDown, .joining, .ended 0 none, .did (.released 0 "fp"),
    .did (.delivered 0 none), .left, .asked ⟨1, "fp", ()⟩,
    .refused 1 (.poolShutDown (smallest.name 0)), .joined true]

/-- A job that dies is released and answered as any other, and the pool can
be joined. -/
theorem accounted_of_run_with_panic :
    ∃ start s, start? smallest 0 = some start ∧ Run start panicLog s
      ∧ Accounted smallest start panicLog s := by
  have hstart : start? smallest 0
      = some (⟨smallest.name 0, 1, 1, 0, [], [], false⟩ : Pool Unit Unit) := rfl
  have hrun : Run (⟨smallest.name 0, 1, 1, 0, [], [], false⟩ : Pool Unit Unit)
      [] _ := .start
  have hrun := hrun.step (.ask ⟨0, "fp", ()⟩ (by decide))
  have hrun := hrun.step (.enter (show _ = [] ++ _ :: [] from rfl) rfl)
  have hrun := hrun.step (.accept (show _ = [] ++ _ :: [] from rfl) rfl)
  have hrun := hrun.step (.take rfl (by decide) rfl)
  have hrun := hrun.step .shutDown
  have hrun := hrun.step (.join rfl rfl)
  have hrun := hrun.step (.finish none (List.mem_cons_self ..) rfl)
  have hrun := hrun.step (.release (List.mem_cons_self ..) rfl)
  have hrun := hrun.step (.deliver (List.mem_cons_self ..) rfl)
  have hrun := hrun.step (.leave rfl rfl rfl (by decide))
  have hrun := hrun.step (.ask ⟨1, "fp", ()⟩ (by decide))
  have hrun := hrun.step (.turnAway (show _ = [] ++ _ :: [] from rfl) rfl)
  have hrun := hrun.step (.joined rfl rfl)
  exact ⟨_, _, hstart, hrun, accounted_of_run hstart hrun⟩

/-- One item is run and another one waits when the pool is shut down and
joined, and somebody else joins it too. -/
def overtakenLog : List (Act Unit Unit) :=
  [.asked ⟨0, "first", ()⟩, .entered 0, .accepted ⟨0, "first", ()⟩, .did (.took 0),
    .asked ⟨1, "second", ()⟩, .entered 1, .accepted ⟨1, "second", ()⟩,
    .shutDown, .joining, .shutDown, .joined false]

/-- The second join returns although neither item has been served, and the pool
shows an empty queue although an item waits in it. -/
theorem join_returns_before_the_work :
    ∃ start s, start? smallest 0 = some start ∧ Run start overtakenLog s
      ∧ .joined false ∈ overtakenLog ∧ accepts overtakenLog = [0, 1]
      ∧ (∀ item, .accepted item ∈ overtakenLog →
        ¬ ∃ n outcome, life item.ticket overtakenLog = service item n outcome)
      ∧ s.pool.active = 1 ∧ s.pool.queue.length = 1 ∧ s.pool.queued = 0 := by
  have hstart : start? smallest 0
      = some (⟨smallest.name 0, 1, 1, 0, [], [], false⟩ : Pool Unit Unit) := rfl
  have hrun : Run (⟨smallest.name 0, 1, 1, 0, [], [], false⟩ : Pool Unit Unit)
      [] _ := .start
  have hrun := hrun.step (.ask ⟨0, "first", ()⟩ (by decide))
  have hrun := hrun.step (.enter (show _ = [] ++ _ :: [] from rfl) rfl)
  have hrun := hrun.step (.accept (show _ = [] ++ _ :: [] from rfl) rfl)
  have hrun := hrun.step (.take rfl (by decide) rfl)
  have hrun := hrun.step (.ask ⟨1, "second", ()⟩ (by decide))
  have hrun := hrun.step (.enter (show _ = [] ++ _ :: [] from rfl) rfl)
  have hrun := hrun.step (.accept (show _ = [] ++ _ :: [] from rfl) rfl)
  have hrun := hrun.step .shutDown
  have hrun := hrun.step (.join rfl rfl)
  have hrun := hrun.step .shutDown
  have hrun := hrun.step (.pass rfl nofun)
  refine ⟨_, _, hstart, hrun, by simp [overtakenLog], rfl, ?_, rfl, rfl, rfl⟩
  -- a service ends with a delivery, and nothing has been delivered
  rintro item - ⟨n, outcome, hlife⟩
  have hdelivered : .did (.delivered item.ticket outcome) ∈ life item.ticket overtakenLog := by
    rw [hlife]
    simp [service]
  simpa [overtakenLog] using (mem_life.1 hdelivered).1

end

end CheckGateway.Pool
