/-
Worker pools as step relations: what submitters, workers and those who shut
a pool down can do to it, one step at a time and in any order.

# The parties

A submission starts (`asked`), takes hold of the queue unless the pool is
shut down (`entered`), and then waits for room until it is accepted, times
out or is abandoned. A worker takes the first item that waits, works on its
job, and when the job is over releases the fingerprint and delivers the
outcome. It leaves once the queue is empty and nobody can put anything into
it any more: a submission that has entered keeps the queue open.

The steps are built from the operations of `Pool`, so what is proved about
them is proved about those. They are free wherever the outside decides:
which submission is accepted next, how long any of them waits, how a job
goes on, and what it ends with.

# Joins

A join shuts the pool down, takes the workers' handles and returns when
each of those workers has left. The handles can be taken only once. A join
that comes later finds none and returns at once, also while the one that has
them still waits. So the first one says that the workers have left, and
another says nothing as long as the first has not returned.

# One submission at a time

`Place` is where a submission is, and `Move` how one step may move it.
`Step.moves` is the only lemma that looks into every step: a step that
concerns a submission moves it along `Move` and leaves the others where
they are.
-/
import CheckGateway.Pool.Basic

namespace CheckGateway.Pool

-- ============================================================ the steps

/-- What can happen to a pool. -/
inductive Act (Job Reply : Type) where
  /-- A submission has started. -/
  | asked (item : Item Job)
  /-- It has taken hold of the queue. -/
  | entered (ticket : Nat)
  | accepted (item : Item Job)
  | refused (ticket : Nat) (e : GatewayError)
  /-- Its submitter has given up. -/
  | abandoned (ticket : Nat)
  /-- The job has gone on. -/
  | worked (ticket : Nat)
  /-- The job has returned, or died. -/
  | ended (ticket : Nat) (outcome : Option Reply)
  | did (event : Event Reply)
  | shutDown
  /-- A worker has left. -/
  | left
  /-- A join has taken the handles of the workers. -/
  | joining
  /-- A join has returned, either the one with the handles or another. -/
  | joined (withHandles : Bool)
  deriving Repr

/-- The submission that an act concerns. -/
def Act.ticket? {Job Reply : Type} : Act Job Reply → Option Nat
  | .asked item => some item.ticket
  | .entered ticket => some ticket
  | .accepted item => some item.ticket
  | .refused ticket _ => some ticket
  | .abandoned ticket => some ticket
  | .worked ticket => some ticket
  | .ended ticket _ => some ticket
  | .did (.took ticket) => some ticket
  | .did (.released ticket _) => some ticket
  | .did (.delivered ticket _) => some ticket
  | .shutDown => none
  | .left => none
  | .joining => none
  | .joined _ => none

/-- Where the handles of the workers are: in the pool, with a join that waits
for the workers, or used up. -/
inductive Handles where
  | kept
  | held
  | spent
  deriving DecidableEq, Repr

/-- A pool with its submitters. -/
structure Live (Job Reply : Type) where
  pool : Pool Job Reply
  /-- Submissions that have started and not entered yet. -/
  calling : List (Item Job) := []
  /-- Submissions that wait for room. -/
  waiting : List (Item Job) := []
  /-- The tickets that have been used. -/
  tickets : List Nat := []
  /-- How many workers have left. -/
  gone : Nat := 0
  handles : Handles := .kept
  deriving Repr

variable {Job Reply : Type}

/-- One step. -/
inductive Step : Live Job Reply → Act Job Reply → Live Job Reply → Prop where
  | ask {s : Live Job Reply} (item : Item Job)
      (hfresh : item.ticket ∉ s.tickets) :
      Step s (.asked item)
        { s with
          calling := s.calling ++ [item]
          tickets := item.ticket :: s.tickets }
  | enter {s : Live Job Reply} {item : Item Job} {front back : List (Item Job)}
      (hcalling : s.calling = front ++ item :: back)
      (hopen : s.pool.isShutDown = false) :
      Step s (.entered item.ticket)
        { s with calling := front ++ back, waiting := s.waiting ++ [item] }
  | turnAway {s : Live Job Reply} {item : Item Job}
      {front back : List (Item Job)}
      (hcalling : s.calling = front ++ item :: back)
      (hshut : s.pool.isShutDown = true) :
      Step s (.refused item.ticket s.pool.refusal)
        { s with calling := front ++ back }
  | accept {s : Live Job Reply} {item : Item Job} {front back : List (Item Job)}
      (hwaiting : s.waiting = front ++ item :: back)
      (hroom : s.pool.hasRoom = true) :
      Step s (.accepted item)
        { s with pool := s.pool.enqueue item, waiting := front ++ back }
  | timeOut {s : Live Job Reply} {item : Item Job}
      {front back : List (Item Job)}
      (hwaiting : s.waiting = front ++ item :: back) :
      Step s (.refused item.ticket s.pool.timedOut)
        { s with waiting := front ++ back }
  /-- With the last worker the receiving end of the queue is gone. -/
  | close {s : Live Job Reply} {item : Item Job} {front back : List (Item Job)}
      (hwaiting : s.waiting = front ++ item :: back)
      (hgone : s.gone = s.pool.workers) :
      Step s (.refused item.ticket s.pool.refusal)
        { s with waiting := front ++ back }
  | hangUp {s : Live Job Reply} {item : Item Job} {front back : List (Item Job)}
      (hcalling : s.calling = front ++ item :: back) :
      Step s (.abandoned item.ticket) { s with calling := front ++ back }
  | giveUp {s : Live Job Reply} {item : Item Job} {front back : List (Item Job)}
      (hwaiting : s.waiting = front ++ item :: back) :
      Step s (.abandoned item.ticket) { s with waiting := front ++ back }
  | take {s : Live Job Reply} {p : Pool Job Reply} {item : Item Job}
      {rest : List (Item Job)} (hqueue : s.pool.queue = item :: rest)
      (hidle : s.pool.taken.length + s.gone < s.pool.workers)
      (htake : s.pool.take? = some p) :
      Step s (.did (.took item.ticket)) { s with pool := p }
  | work {s : Live Job Reply} {t : Taken Job Reply} {job : Job} (job' : Job)
      (htaken : t ∈ s.pool.taken) (hstage : t.stage = .running job) :
      Step s (.worked t.ticket) { s with pool := s.pool.resume t.ticket job' }
  | finish {s : Live Job Reply} {t : Taken Job Reply} {job : Job}
      (outcome : Option Reply)
      (htaken : t ∈ s.pool.taken) (hstage : t.stage = .running job) :
      Step s (.ended t.ticket outcome)
        { s with pool := s.pool.finish t.ticket outcome }
  | release {s : Live Job Reply} {t : Taken Job Reply} {e : Event Reply}
      {p : Pool Job Reply} (htaken : t ∈ s.pool.taken)
      (hrelease : s.pool.release? t = some (e, p)) :
      Step s (.did e) { s with pool := p }
  | deliver {s : Live Job Reply} {t : Taken Job Reply} {e : Event Reply}
      {p : Pool Job Reply} (htaken : t ∈ s.pool.taken)
      (hdeliver : s.pool.deliver? t = some (e, p)) :
      Step s (.did e) { s with pool := p }
  | shutDown {s : Live Job Reply} :
      Step s .shutDown { s with pool := s.pool.shutDown }
  | leave {s : Live Job Reply} (hshut : s.pool.isShutDown = true)
      (hwaiting : s.waiting = []) (hqueue : s.pool.queue = [])
      (hidle : s.pool.taken.length + s.gone < s.pool.workers) :
      Step s .left { s with gone := s.gone + 1 }
  | join {s : Live Job Reply} (hshut : s.pool.isShutDown = true)
      (hkept : s.handles = .kept) :
      Step s .joining { s with handles := .held }
  | joined {s : Live Job Reply} (hheld : s.handles = .held)
      (hgone : s.gone = s.pool.workers) :
      Step s (.joined true) { s with handles := .spent }
  /-- A join that finds no handles has nobody to wait for. -/
  | pass {s : Live Job Reply} (hshut : s.pool.isShutDown = true)
      (htaken : s.handles ≠ .kept) :
      Step s (.joined false) s

/-- What can happen to a pool from its start on, first to last. -/
inductive Run (p : Pool Job Reply) :
    List (Act Job Reply) → Live Job Reply → Prop where
  | start : Run p [] { pool := p }
  | step {log : List (Act Job Reply)} {s s' : Live Job Reply}
      {a : Act Job Reply} (h : Run p log s) (hstep : Step s a s') :
      Run p (log ++ [a]) s'

-- =========================================================== the places

/-- Where a submission is that is not over. -/
inductive Place (Job Reply : Type) where
  | calling (item : Item Job)
  | waiting (item : Item Job)
  | queued (item : Item Job)
  | taken (t : Taken Job Reply)

def Place.ticket : Place Job Reply → Nat
  | .calling item => item.ticket
  | .waiting item => item.ticket
  | .queued item => item.ticket
  | .taken t => t.ticket

/-- The places of submissions, party by party. -/
def placesOf (calling waiting queue : List (Item Job))
    (taken : List (Taken Job Reply)) : List (Place Job Reply) :=
  calling.map .calling
    ++ (waiting.map .waiting ++ (queue.map .queued ++ taken.map .taken))

/-- The places of all submissions that are not over. -/
def Live.places (s : Live Job Reply) : List (Place Job Reply) :=
  placesOf s.calling s.waiting s.pool.queue s.pool.taken

/-- How a step moves the submission that it concerns. -/
inductive Move : Option (Place Job Reply) → Act Job Reply →
    Option (Place Job Reply) → Prop where
  | ask (item : Item Job) : Move none (.asked item) (some (.calling item))
  | enter (item : Item Job) :
      Move (some (.calling item)) (.entered item.ticket) (some (.waiting item))
  | turnAway (item : Item Job) (e : GatewayError) :
      Move (some (.calling item)) (.refused item.ticket e) none
  | hangUp (item : Item Job) :
      Move (some (.calling item)) (.abandoned item.ticket) none
  | accept (item : Item Job) :
      Move (some (.waiting item)) (.accepted item) (some (.queued item))
  | refuse (item : Item Job) (e : GatewayError) :
      Move (some (.waiting item)) (.refused item.ticket e) none
  | giveUp (item : Item Job) :
      Move (some (.waiting item)) (.abandoned item.ticket) none
  | take (item : Item Job) :
      Move (some (.queued item)) (.did (.took item.ticket))
        (some (.taken ⟨item.ticket, item.fingerprint, .running item.job⟩))
  | work (ticket : Nat) (fp : String) (job job' : Job) :
      Move (some (.taken ⟨ticket, fp, .running job⟩)) (.worked ticket)
        (some (.taken ⟨ticket, fp, .running job'⟩))
  | finish (ticket : Nat) (fp : String) (job : Job) (outcome : Option Reply) :
      Move (some (.taken ⟨ticket, fp, .running job⟩)) (.ended ticket outcome)
        (some (.taken ⟨ticket, fp, .finished outcome⟩))
  | release (ticket : Nat) (fp : String) (outcome : Option Reply) :
      Move (some (.taken ⟨ticket, fp, .finished outcome⟩))
        (.did (.released ticket fp))
        (some (.taken ⟨ticket, fp, .released outcome⟩))
  | deliver (ticket : Nat) (fp : String) (outcome : Option Reply) :
      Move (some (.taken ⟨ticket, fp, .released outcome⟩))
        (.did (.delivered ticket outcome)) none

/-- One submission is moved, and the others stay where they are. -/
def Moved (s s' : Live Job Reply) (a : Act Job Reply) : Prop :=
  ∃ p p' rest, s.places.Perm (p.toList ++ rest)
    ∧ s'.places.Perm (p'.toList ++ rest) ∧ Move p a p'

-- ============================================ what a step moves, and where

section

variable {calling waiting queue front back : List (Item Job)}
  {taken before after : List (Taken Job Reply)} {item : Item Job}
  {t : Taken Job Reply}

/-- What comes first in the rest of a list may come first in the whole. -/
theorem perm_front {α : Type} {a : α} {l rest : List α} (first : List α)
    (h : l.Perm (a :: rest)) : (first ++ l).Perm (a :: (first ++ rest)) :=
  (h.append_left first).trans List.perm_middle

theorem perm_calling :
    (placesOf (front ++ item :: back) waiting queue taken).Perm
      (.calling item :: placesOf (front ++ back) waiting queue taken) := by
  unfold placesOf
  simp only [List.map_append, List.map_cons, List.append_assoc, List.cons_append]
  exact List.perm_middle

theorem perm_waiting :
    (placesOf calling (front ++ item :: back) queue taken).Perm
      (.waiting item :: placesOf calling (front ++ back) queue taken) := by
  unfold placesOf
  refine perm_front _ ?_
  simp only [List.map_append, List.map_cons, List.append_assoc, List.cons_append]
  exact List.perm_middle

theorem perm_queued :
    (placesOf calling waiting (front ++ item :: back) taken).Perm
      (.queued item :: placesOf calling waiting (front ++ back) taken) := by
  unfold placesOf
  refine perm_front _ (perm_front _ ?_)
  simp only [List.map_append, List.map_cons, List.append_assoc, List.cons_append]
  exact List.perm_middle

theorem perm_taken :
    (placesOf calling waiting queue (before ++ t :: after)).Perm
      (.taken t :: placesOf calling waiting queue (before ++ after)) := by
  unfold placesOf
  refine perm_front _ (perm_front _ (perm_front _ ?_))
  simp only [List.map_append, List.map_cons]
  exact List.perm_middle

theorem perm_calling_snoc :
    (placesOf (calling ++ [item]) waiting queue taken).Perm
      (.calling item :: placesOf calling waiting queue taken) := by
  have h : (placesOf (calling ++ item :: []) waiting queue taken).Perm _ :=
    perm_calling
  rw [List.append_nil] at h
  exact h

theorem perm_waiting_snoc :
    (placesOf calling (waiting ++ [item]) queue taken).Perm
      (.waiting item :: placesOf calling waiting queue taken) := by
  have h : (placesOf calling (waiting ++ item :: []) queue taken).Perm _ :=
    perm_waiting
  rw [List.append_nil] at h
  exact h

theorem perm_queued_snoc :
    (placesOf calling waiting (queue ++ [item]) taken).Perm
      (.queued item :: placesOf calling waiting queue taken) := by
  have h : (placesOf calling waiting (queue ++ item :: []) taken).Perm _ :=
    perm_queued
  rw [List.append_nil] at h
  exact h

theorem perm_taken_snoc :
    (placesOf calling waiting queue (taken ++ [t])).Perm
      (.taken t :: placesOf calling waiting queue taken) := by
  have h : (placesOf calling waiting queue (taken ++ t :: [])).Perm _ :=
    perm_taken
  rw [List.append_nil] at h
  exact h

end

section

variable {p : Pool Job Reply} {t : Taken Job Reply}
  {before after : List (Taken Job Reply)}

/-- Where tickets differ, the other items have other tickets. -/
theorem ticket_ne_of_split
    (hnodup : ((before ++ t :: after).map Taken.ticket).Nodup) :
    ∀ u ∈ before ++ after, u.ticket ≠ t.ticket := by
  have hperm : ((before ++ t :: after).map Taken.ticket).Perm
      (t.ticket :: (before ++ after).map Taken.ticket) :=
    List.perm_middle.map Taken.ticket
  have hnot := (List.nodup_cons.1 (hperm.nodup hnodup)).1
  intro u hu heq
  exact hnot (heq ▸ List.mem_map_of_mem hu)

/-- Changing the item with a ticket changes one item. -/
theorem taken_update (hsplit : p.taken = before ++ t :: after)
    (hnodup : (p.taken.map Taken.ticket).Nodup)
    (f : Taken Job Reply → Taken Job Reply) :
    (p.update t.ticket f).taken = before ++ f t :: after := by
  rw [hsplit] at hnodup
  have hother := ticket_ne_of_split hnodup
  have hkeep : ∀ l : List (Taken Job Reply), (∀ u ∈ l, u ∈ before ++ after) →
      l.map (fun u => if u.ticket = t.ticket then f u else u) = l := by
    intro l hl
    refine (List.map_congr_left fun u hu => ?_).trans (List.map_id' l)
    exact if_neg (hother u (hl u hu))
  show p.taken.map _ = _
  rw [hsplit, List.map_append, List.map_cons, if_pos rfl,
    hkeep before fun u hu => List.mem_append_left _ hu,
    hkeep after fun u hu => List.mem_append_right _ hu]

/-- Without the item with a ticket one item is gone. -/
theorem filter_taken (hsplit : p.taken = before ++ t :: after)
    (hnodup : (p.taken.map Taken.ticket).Nodup) :
    (p.taken.filter fun u => u.ticket ≠ t.ticket) = before ++ after := by
  rw [hsplit] at hnodup
  have hother := ticket_ne_of_split hnodup
  rw [hsplit, List.filter_append, List.filter_cons]
  rw [if_neg (by simp), ← List.filter_append]
  exact List.filter_eq_self.2 fun u hu => decide_eq_true (hother u hu)

theorem nodup_taken {s : Live Job Reply}
    (h : (s.places.map Place.ticket).Nodup) :
    (s.pool.taken.map Taken.ticket).Nodup := by
  have hsub : (s.pool.taken.map Place.taken).Sublist s.places :=
    ((List.sublist_append_right ..).trans (List.sublist_append_right ..)).trans
      (List.sublist_append_right ..)
  have hnodup := (hsub.map Place.ticket).nodup h
  rw [List.map_map] at hnodup
  exact hnodup

end

section

variable {s s' : Live Job Reply} {a : Act Job Reply} {t : Taken Job Reply}

/-- What `take?` does. -/
theorem take?_eq {p q : Pool Job Reply} {item : Item Job}
    {rest : List (Item Job)} (hqueue : p.queue = item :: rest)
    (h : p.take? = some q) :
    q = { p with
      queue := rest
      taken := p.taken ++ [⟨item.ticket, item.fingerprint, .running item.job⟩] } := by
  unfold take? at h
  rw [hqueue] at h
  change (if _ then _ else _) = _ at h
  split at h
  · exact (Option.some.inj h).symm
  · cases h

/-- What `release?` does, and to which items. -/
theorem release?_eq {p q : Pool Job Reply} {e : Event Reply}
    (h : p.release? t = some (e, q)) :
    ∃ outcome, t.stage = .finished outcome
      ∧ e = .released t.ticket t.fingerprint
      ∧ q = p.update t.ticket fun t => { t with stage := .released outcome } := by
  unfold release? at h
  split at h
  next outcome hstage =>
    obtain ⟨rfl, rfl⟩ := Prod.mk.inj (Option.some.inj h)
    exact ⟨outcome, hstage, rfl, rfl⟩
  next => cases h

/-- What `deliver?` does, and to which items. -/
theorem deliver?_eq {p q : Pool Job Reply} {e : Event Reply}
    (h : p.deliver? t = some (e, q)) :
    ∃ outcome, t.stage = .released outcome
      ∧ e = .delivered t.ticket outcome
      ∧ q = { p with taken := p.taken.filter fun u => u.ticket ≠ t.ticket } := by
  unfold deliver? at h
  split at h
  next outcome hstage =>
    obtain ⟨rfl, rfl⟩ := Prod.mk.inj (Option.some.inj h)
    exact ⟨outcome, hstage, rfl, rfl⟩
  next => cases h

/-- A worker's step on its item changes that item in place. -/
theorem moves_taken {f : Taken Job Reply → Taken Job Reply}
    (hnodup : (s.places.map Place.ticket).Nodup) (htaken : t ∈ s.pool.taken)
    (hmove : Move (some (.taken t)) a (some (.taken (f t)))) :
    Moved s { s with pool := s.pool.update t.ticket f } a := by
  obtain ⟨before, after, hsplit⟩ := List.append_of_mem htaken
  have hupdate := taken_update hsplit (nodup_taken hnodup) f
  refine ⟨_, _, placesOf s.calling s.waiting s.pool.queue (before ++ after),
    ?_, ?_, hmove⟩
  · unfold Live.places
    rw [hsplit]
    exact perm_taken
  · show (placesOf s.calling s.waiting s.pool.queue
      (s.pool.update t.ticket f).taken).Perm _
    rw [hupdate]
    exact perm_taken

theorem moves_calling {item : Item Job} {front back : List (Item Job)}
    (hcalling : s.calling = front ++ item :: back)
    (hmove : Move (some (.calling item)) a none) :
    Moved s { s with calling := front ++ back } a := by
  refine ⟨some (.calling item), none,
    placesOf (front ++ back) s.waiting s.pool.queue s.pool.taken, ?_, .refl _,
    hmove⟩
  unfold Live.places
  rw [hcalling]
  exact perm_calling

theorem moves_waiting {item : Item Job} {front back : List (Item Job)}
    (hwaiting : s.waiting = front ++ item :: back)
    (hmove : Move (some (.waiting item)) a none) :
    Moved s { s with waiting := front ++ back } a := by
  refine ⟨some (.waiting item), none,
    placesOf s.calling (front ++ back) s.pool.queue s.pool.taken, ?_, .refl _,
    hmove⟩
  unfold Live.places
  rw [hwaiting]
  exact perm_waiting

/-- What a step does to the submissions. -/
theorem Step.moves (h : Step s a s')
    (hnodup : (s.places.map Place.ticket).Nodup) :
    Moved s s' a ∨ (a.ticket? = none ∧ s'.places = s.places) := by
  cases h with
  | @ask item hfresh =>
      exact .inl ⟨none, some (.calling item), s.places, .refl _,
        perm_calling_snoc, .ask item⟩
  | @enter item front back hcalling hopen =>
      refine .inl ⟨some (.calling item), some (.waiting item),
        placesOf (front ++ back) s.waiting s.pool.queue s.pool.taken, ?_,
        perm_waiting_snoc, .enter item⟩
      unfold Live.places
      rw [hcalling]
      exact perm_calling
  | turnAway hcalling => exact .inl (moves_calling hcalling (.turnAway ..))
  | hangUp hcalling => exact .inl (moves_calling hcalling (.hangUp _))
  | @accept item front back hwaiting hroom =>
      refine .inl ⟨some (.waiting item), some (.queued item),
        placesOf s.calling (front ++ back) s.pool.queue s.pool.taken, ?_,
        perm_queued_snoc, .accept item⟩
      unfold Live.places
      rw [hwaiting]
      exact perm_waiting
  | timeOut hwaiting => exact .inl (moves_waiting hwaiting (.refuse ..))
  | close hwaiting => exact .inl (moves_waiting hwaiting (.refuse ..))
  | giveUp hwaiting => exact .inl (moves_waiting hwaiting (.giveUp _))
  | @take p item rest hqueue hidle htake =>
      obtain rfl := take?_eq hqueue htake
      refine .inl ⟨some (.queued item), some (.taken _),
        placesOf s.calling s.waiting rest s.pool.taken, ?_, perm_taken_snoc,
        .take item⟩
      have hperm : (placesOf s.calling s.waiting ([] ++ item :: rest)
        s.pool.taken).Perm _ := perm_queued
      unfold Live.places
      rw [hqueue]
      exact hperm
  | @work t job job' htaken hstage =>
      refine .inl (moves_taken hnodup htaken ?_)
      obtain ⟨ticket, fp, stage⟩ := t
      subst hstage
      exact .work ticket fp job job'
  | @finish t job outcome htaken hstage =>
      refine .inl (moves_taken hnodup htaken ?_)
      obtain ⟨ticket, fp, stage⟩ := t
      subst hstage
      exact .finish ticket fp job outcome
  | @release t e p htaken hrelease =>
      obtain ⟨outcome, hstage, rfl, rfl⟩ := release?_eq hrelease
      refine .inl (moves_taken hnodup htaken ?_)
      obtain ⟨ticket, fp, stage⟩ := t
      subst hstage
      exact .release ticket fp outcome
  | @deliver t e p htaken hdeliver =>
      obtain ⟨outcome, hstage, rfl, rfl⟩ := deliver?_eq hdeliver
      obtain ⟨before, after, hsplit⟩ := List.append_of_mem htaken
      have hfilter := filter_taken hsplit (nodup_taken hnodup)
      obtain ⟨ticket, fp, stage⟩ := t
      subst hstage
      refine .inl ⟨some (.taken _), none,
        placesOf s.calling s.waiting s.pool.queue (before ++ after), ?_, ?_,
        .deliver ticket fp outcome⟩
      · unfold Live.places
        rw [hsplit]
        exact perm_taken
      · show (placesOf s.calling s.waiting s.pool.queue
          (s.pool.taken.filter fun u => u.ticket ≠ ticket)).Perm _
        rw [hfilter]
        exact .refl _
  | shutDown => exact .inr ⟨rfl, rfl⟩
  | leave => exact .inr ⟨rfl, rfl⟩
  | join => exact .inr ⟨rfl, rfl⟩
  | joined => exact .inr ⟨rfl, rfl⟩
  | pass => exact .inr ⟨rfl, rfl⟩

end

-- ====================================== pools that are left to themselves

section

variable {s : Live Job Reply} {p : Pool Job Reply}

/-- What is due next in a pool is one of its steps. -/
theorem step_of_next? {e : Event Reply} (hstay : s.gone = 0)
    (h : s.pool.next? = some (e, p)) :
    Step s (.did e) { s with pool := p } := by
  unfold next? at h
  rcases Option.or_eq_some_iff.1 h with h | ⟨-, h⟩
  · obtain ⟨t, ht, h⟩ := List.exists_of_findSome?_eq_some h
    rcases Option.or_eq_some_iff.1 h with h | ⟨-, h⟩
    · exact .release ht h
    · exact .deliver ht h
  · obtain ⟨q, htake, heq⟩ := Option.map_eq_some_iff.1 h
    obtain ⟨rfl, rfl⟩ := Prod.mk.inj heq
    cases hqueue : s.pool.queue with
    | nil =>
        unfold take? at htake
        rw [hqueue] at htake
        cases htake
    | cons item rest =>
        have hidle : s.pool.taken.length + s.gone < s.pool.workers := by
          have hbound := length_taken_of_take? htake
          rw [take?_eq hqueue htake, List.length_append] at hbound
          rw [hstay]
          exact hbound
        exact .take hqueue hidle htake

/-- A submission to a pool in which nothing else moves starts, enters and
is accepted. -/
theorem steps_of_submit_ok {item : Item Job} (hcalling : s.calling = [])
    (hwaiting : s.waiting = []) (hfresh : item.ticket ∉ s.tickets)
    (h : s.pool.submit item = .ok p) :
    ∃ s₁ s₂, Step s (.asked item) s₁ ∧ Step s₁ (.entered item.ticket) s₂
      ∧ Step s₂ (.accepted item)
        { s with pool := p, tickets := item.ticket :: s.tickets } := by
  obtain ⟨pool, calling, waiting, tickets, gone, handles⟩ := s
  subst hcalling hwaiting
  unfold submit at h
  split at h
  · cases h
  next hshut =>
    split at h
    next hroom =>
      cases h
      exact ⟨_, _, .ask item hfresh,
        .enter (show _ = [] ++ _ :: [] from rfl) (Bool.eq_false_iff.2 hshut),
        .accept (show _ = [] ++ _ :: [] from rfl) hroom⟩
    · cases h

end

end CheckGateway.Pool
