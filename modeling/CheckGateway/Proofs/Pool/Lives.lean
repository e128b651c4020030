/-
The life of a submission: everything that concerns one ticket, in order, in
any run of a pool.

# The shape of a life

A life that comes to a job is `service`: the submission is asked, enters
and is accepted; the item is taken, its job goes on any number of times and
is over; its own fingerprint is released, and then the outcome that the job
had is delivered. Every other life ends before it is accepted.

# The invariant

`Placed` ties lives to places: no ticket is in two places, and where a
submission is says what its life has been (`Fits`). A submission that is in
no place has a complete life (`Over`). Each step moves one submission along
`Move`, and `Move.fits` and `Move.over` are all that has to be known of
it.
-/
import CheckGateway.Proofs.Pool.Steps

namespace CheckGateway.Pool

variable {Job Reply : Type}

-- ============================================================== lives

/-- What has happened to a submission. -/
def life (ticket : Nat) (log : List (Act Job Reply)) : List (Act Job Reply) :=
  log.filter fun a => decide (a.ticket? = some ticket)

/-- The way into the queue. -/
def admission (item : Item Job) : List (Act Job Reply) :=
  [.asked item, .entered item.ticket, .accepted item]

/-- The way into the queue and to a worker, who has worked on the job. -/
def execution (item : Item Job) (n : Nat) : List (Act Job Reply) :=
  admission item
    ++ .did (.took item.ticket) :: List.replicate n (.worked item.ticket)

/-- The whole life of an item whose job ends with an outcome. -/
def service (item : Item Job) (n : Nat) (outcome : Option Reply) :
    List (Act Job Reply) :=
  execution item n
    ++ [.ended item.ticket outcome,
      .did (.released item.ticket item.fingerprint),
      .did (.delivered item.ticket outcome)]

/-- The life so far of a submission in a place. -/
inductive Fits : Place Job Reply → List (Act Job Reply) → Prop where
  | calling (item : Item Job) : Fits (.calling item) [.asked item]
  | waiting (item : Item Job) :
      Fits (.waiting item) [.asked item, .entered item.ticket]
  | queued (item : Item Job) : Fits (.queued item) (admission item)
  | running (item : Item Job) (n : Nat) (job : Job) :
      Fits (.taken ⟨item.ticket, item.fingerprint, .running job⟩)
        (execution item n)
  | finished (item : Item Job) (n : Nat) (outcome : Option Reply) :
      Fits (.taken ⟨item.ticket, item.fingerprint, .finished outcome⟩)
        (execution item n ++ [.ended item.ticket outcome])
  | released (item : Item Job) (n : Nat) (outcome : Option Reply) :
      Fits (.taken ⟨item.ticket, item.fingerprint, .released outcome⟩)
        (execution item n
          ++ [.ended item.ticket outcome,
            .did (.released item.ticket item.fingerprint)])

/-- The lives that are over. -/
inductive Over : List (Act Job Reply) → Prop where
  | served (item : Item Job) (n : Nat) (outcome : Option Reply) :
      Over (service item n outcome)
  | turnedAway (item : Item Job) (e : GatewayError) :
      Over [.asked item, .refused item.ticket e]
  | refused (item : Item Job) (e : GatewayError) :
      Over [.asked item, .entered item.ticket, .refused item.ticket e]
  | hungUp (item : Item Job) : Over [.asked item, .abandoned item.ticket]
  | gaveUp (item : Item Job) :
      Over [.asked item, .entered item.ticket, .abandoned item.ticket]

section

variable {log : List (Act Job Reply)} {a : Act Job Reply} {t : Nat}

theorem life_snoc_self (h : a.ticket? = some t) :
    life t (log ++ [a]) = life t log ++ [a] := by
  unfold life
  rw [List.filter_append, List.filter_cons, if_pos (decide_eq_true h),
    List.filter_nil]

theorem life_snoc_other (h : a.ticket? ≠ some t) :
    life t (log ++ [a]) = life t log := by
  unfold life
  rw [List.filter_append, List.filter_cons,
    if_neg (ne_true_of_eq_false (decide_eq_false h)), List.filter_nil,
    List.append_nil]

theorem mem_life : a ∈ life t log ↔ a ∈ log ∧ a.ticket? = some t := by
  unfold life
  rw [List.mem_filter, decide_eq_true_eq]

end

-- =============================================================== moves

section

variable {a : Act Job Reply} {ℓ : List (Act Job Reply)} {p p' : Place Job Reply}

/-- A move starts and ends with the ticket that it concerns. -/
theorem Move.ticket {p p' : Option (Place Job Reply)} (h : Move p a p') :
    ∃ t, a.ticket? = some t ∧ (∀ x ∈ p, x.ticket = t) ∧ ∀ x ∈ p', x.ticket = t := by
  cases h <;> exact ⟨_, rfl, by simp [Place.ticket], by simp [Place.ticket]⟩

/-- The first move of a submission. -/
theorem Move.asked (h : Move none a (some p)) :
    ∃ item, a = .asked item ∧ Fits p [a] := by
  cases h with
  | ask item => exact ⟨item, rfl, .calling item⟩

/-- A move from place to place goes on with a life. -/
theorem Move.fits (h : Move (some p) a (some p')) (hp : Fits p ℓ) :
    Fits p' (ℓ ++ [a]) := by
  cases h with
  | enter item =>
      cases hp
      exact .waiting item
  | accept item =>
      cases hp
      exact .queued item
  | take item =>
      cases hp
      exact .running item 0 item.job
  | work ticket fp job job' =>
      cases hp with
      | running item n job =>
          have hnext : (execution item n ++ [.worked item.ticket] :
              List (Act Job Reply)) = execution item (n + 1) := by
            unfold execution
            rw [List.replicate_succ', List.append_assoc]
            rfl
          rw [hnext]
          exact .running item (n + 1) job'
  | finish ticket fp job outcome =>
      cases hp with
      | running item n job => exact .finished item n outcome
  | release ticket fp outcome =>
      cases hp with
      | finished item n outcome =>
          rw [List.append_assoc]
          exact .released item n outcome

/-- A move out of the pool ends a life. -/
theorem Move.over (h : Move (some p) a none) (hp : Fits p ℓ) :
    Over (ℓ ++ [a]) := by
  cases h with
  | turnAway item e =>
      cases hp
      exact .turnedAway item e
  | hangUp item =>
      cases hp
      exact .hungUp item
  | refuse item e =>
      cases hp
      exact .refused item e
  | giveUp item =>
      cases hp
      exact .gaveUp item
  | deliver ticket fp outcome =>
      cases hp with
      | released item n outcome =>
          rw [List.append_assoc]
          exact .served item n outcome

/-- Tickets are used up when submissions start. -/
theorem Step.tickets {s s' : Live Job Reply} (h : Step s a s') :
    (∃ item, a = .asked item ∧ item.ticket ∉ s.tickets
        ∧ s'.tickets = item.ticket :: s.tickets)
      ∨ ((∀ item, a ≠ .asked item) ∧ s'.tickets = s.tickets) := by
  cases h with
  | @ask item hfresh => exact .inl ⟨item, rfl, hfresh, rfl⟩
  | release _ hrelease =>
      obtain ⟨_, _, rfl, _⟩ := release?_eq hrelease
      exact .inr ⟨fun _ h => (by cases h), rfl⟩
  | deliver _ hdeliver =>
      obtain ⟨_, _, rfl, _⟩ := deliver?_eq hdeliver
      exact .inr ⟨fun _ h => (by cases h), rfl⟩
  | _ => exact .inr ⟨fun _ h => (by cases h), rfl⟩

end

-- ======================================================= the invariant

/-- Where every submission is, and what its life has been. -/
structure Placed (log : List (Act Job Reply)) (s : Live Job Reply) : Prop where
  nodup : (s.places.map Place.ticket).Nodup
  fits : ∀ p ∈ s.places, Fits p (life p.ticket log)
  known : ∀ p ∈ s.places, p.ticket ∈ s.tickets
  ended : ∀ t ∈ s.tickets, (∃ p ∈ s.places, p.ticket = t) ∨ Over (life t log)
  unknown : ∀ t, t ∉ s.tickets → life t log = []

section

variable {log : List (Act Job Reply)} {s s' : Live Job Reply}
  {a : Act Job Reply} {p p' : Place Job Reply} {rest : List (Place Job Reply)}
  {t : Nat}

/-- The other submissions have other tickets. -/
theorem Placed.ticket_ne (h : Placed log s) (hs : s.places.Perm (p :: rest)) :
    ∀ q ∈ rest, q.ticket ≠ p.ticket := by
  have hnot := (List.nodup_cons.1 ((hs.map Place.ticket).nodup h.nodup)).1
  intro q hq heq
  exact hnot (heq ▸ List.mem_map_of_mem hq)

/-- A step that concerns nobody leaves every submission as it is. -/
theorem Placed.idle (h : Placed log s) (ha : a.ticket? = none)
    (hplaces : s'.places = s.places) (htickets : s'.tickets = s.tickets) :
    Placed (log ++ [a]) s' := by
  have hlife : ∀ t, life t (log ++ [a]) = life t log := by
    intro t
    refine life_snoc_other ?_
    rw [ha]
    exact fun h => by cases h
  refine ⟨?_, ?_, ?_, ?_, ?_⟩
  · rw [hplaces]
    exact h.nodup
  · rw [hplaces]
    intro p hp
    rw [hlife]
    exact h.fits p hp
  · rw [hplaces, htickets]
    exact h.known
  · rw [hplaces, htickets]
    intro t ht
    rw [hlife]
    exact h.ended t ht
  · rw [htickets]
    intro t ht
    rw [hlife]
    exact h.unknown t ht

/-- A new submission has a ticket of its own. -/
theorem Placed.ask (h : Placed log s) (ha : a.ticket? = some p.ticket)
    (hs' : s'.places.Perm (p :: s.places)) (hfits : Fits p [a])
    (hfresh : p.ticket ∉ s.tickets)
    (htickets : s'.tickets = p.ticket :: s.tickets) :
    Placed (log ++ [a]) s' := by
  have hself : life p.ticket (log ++ [a]) = [a] := by
    rw [life_snoc_self ha, h.unknown _ hfresh]
    rfl
  have hother : ∀ t, t ≠ p.ticket → life t (log ++ [a]) = life t log := by
    intro t ht
    refine life_snoc_other ?_
    rw [ha]
    exact fun heq => ht (Option.some.inj heq).symm
  have hold : ∀ q ∈ s.places, q.ticket ≠ p.ticket := fun q hq heq =>
    hfresh (heq ▸ h.known q hq)
  have hmem : ∀ q, q ∈ s'.places ↔ q = p ∨ q ∈ s.places := fun q =>
    hs'.mem_iff.trans List.mem_cons
  refine ⟨?_, ?_, ?_, ?_, ?_⟩
  · refine (hs'.map Place.ticket).nodup_iff.2 (List.nodup_cons.2 ⟨?_, h.nodup⟩)
    intro hp
    obtain ⟨q, hq, heq⟩ := List.mem_map.1 hp
    exact hold q hq heq
  · intro q hq
    rcases (hmem q).1 hq with rfl | hq
    · rw [hself]
      exact hfits
    · rw [hother _ (hold q hq)]
      exact h.fits q hq
  · intro q hq
    rw [htickets]
    rcases (hmem q).1 hq with rfl | hq
    · exact List.mem_cons_self ..
    · exact List.mem_cons_of_mem _ (h.known q hq)
  · intro t ht
    rw [htickets] at ht
    rcases List.mem_cons.1 ht with rfl | ht
    · exact .inl ⟨p, (hmem p).2 (.inl rfl), rfl⟩
    · rcases h.ended t ht with ⟨q, hq, hqt⟩ | hover
      · exact .inl ⟨q, (hmem q).2 (.inr hq), hqt⟩
      · rw [hother t fun heq => hfresh (heq ▸ ht)]
        exact .inr hover
  · intro t ht
    rw [htickets, List.mem_cons, not_or] at ht
    rw [hother t ht.1]
    exact h.unknown t ht.2

/-- A submission that is moved goes on with its life, or ends it. -/
theorem Placed.move (h : Placed log s) {p' : Option (Place Job Reply)}
    (hs : s.places.Perm (p :: rest)) (hs' : s'.places.Perm (p'.toList ++ rest))
    (hmove : Move (some p) a p') (htickets : s'.tickets = s.tickets) :
    Placed (log ++ [a]) s' := by
  obtain ⟨t, ha, hp, hp'⟩ := hmove.ticket
  obtain rfl : p.ticket = t := hp p rfl
  have hplace : p ∈ s.places := hs.mem_iff.2 (List.mem_cons_self ..)
  have hself : life p.ticket (log ++ [a]) = life p.ticket log ++ [a] :=
    life_snoc_self ha
  have hother : ∀ t, t ≠ p.ticket → life t (log ++ [a]) = life t log := by
    intro t ht
    refine life_snoc_other ?_
    rw [ha]
    exact fun heq => ht (Option.some.inj heq).symm
  have hold := h.ticket_ne hs
  have hrest : ∀ q ∈ rest, q ∈ s.places := fun q hq =>
    hs.mem_iff.2 (List.mem_cons_of_mem _ hq)
  have hmem : ∀ q, q ∈ s'.places ↔ q ∈ p' ∨ q ∈ rest := by
    intro q
    rw [hs'.mem_iff, List.mem_append, Option.mem_toList]
    exact Iff.rfl
  refine ⟨?_, ?_, ?_, ?_, ?_⟩
  · have hnodup := (hs.map Place.ticket).nodup h.nodup
    refine (hs'.map Place.ticket).nodup_iff.2 ?_
    cases p' with
    | none => exact (List.nodup_cons.1 hnodup).2
    | some q =>
        show (q.ticket :: rest.map Place.ticket).Nodup
        rw [hp' q rfl]
        exact hnodup
  · intro q hq
    rcases (hmem q).1 hq with hq | hq
    · obtain rfl : p' = some q := hq
      rw [hp' q rfl, hself]
      exact hmove.fits (h.fits p hplace)
    · rw [hother _ (hold q hq)]
      exact h.fits q (hrest q hq)
  · intro q hq
    rw [htickets]
    rcases (hmem q).1 hq with hq | hq
    · rw [hp' q hq]
      exact h.known p hplace
    · exact h.known q (hrest q hq)
  · intro t ht
    rw [htickets] at ht
    by_cases htp : t = p.ticket
    · subst htp
      cases p' with
      | none =>
          rw [hself]
          exact .inr (hmove.over (h.fits p hplace))
      | some q => exact .inl ⟨q, (hmem q).2 (.inl rfl), hp' q rfl⟩
    · rcases h.ended t ht with ⟨q, hq, hqt⟩ | hover
      · rcases List.mem_cons.1 (hs.mem_iff.1 hq) with rfl | hq
        · exact absurd hqt.symm htp
        · exact .inl ⟨q, (hmem q).2 (.inr hq), hqt⟩
      · rw [hother t htp]
        exact .inr hover
  · rw [htickets]
    intro t ht
    rw [hother t fun heq => ht (heq ▸ h.known p hplace)]
    exact h.unknown t ht

/-- Every step keeps each submission in its place, with its life. -/
theorem Placed.step (h : Placed log s) (hstep : Step s a s') :
    Placed (log ++ [a]) s' := by
  rcases hstep.moves h.nodup with ⟨p, p', rest, hs, hs', hmove⟩ | ⟨ha, hplaces⟩
  · cases p with
    | none =>
        cases p' with
        | none => cases hmove
        | some p =>
            obtain ⟨item, rfl, hfits⟩ := hmove.asked
            obtain ⟨t, ha, -, hp⟩ := hmove.ticket
            obtain rfl : p.ticket = t := hp p rfl
            rcases hstep.tickets with ⟨other, hask, hfresh, htickets⟩ | ⟨hno, -⟩
            · cases hask
              obtain heq : item.ticket = p.ticket := Option.some.inj ha
              rw [heq] at hfresh htickets
              exact h.ask ha (hs'.trans (hs.symm.cons p)) hfits hfresh htickets
            · exact absurd rfl (hno item)
    | some p =>
        rcases hstep.tickets with ⟨item, rfl, -, -⟩ | ⟨-, htickets⟩
        · cases hmove
        · exact h.move hs hs' hmove htickets
  · rcases hstep.tickets with ⟨item, rfl, -, -⟩ | ⟨-, htickets⟩
    · cases ha
    · exact h.idle ha hplaces htickets

theorem Run.placed {pool : Pool Job Reply} (hqueue : pool.queue = [])
    (htaken : pool.taken = []) (h : Run pool log s) : Placed log s := by
  induction h with
  | start =>
      have hnil : ({ pool := pool } : Live Job Reply).places = [] := by
        unfold Live.places placesOf
        rw [hqueue, htaken]
        rfl
      refine ⟨?_, ?_, ?_, fun t ht => (by cases ht), fun _ _ => rfl⟩
      · rw [hnil]
        exact List.nodup_nil
      · rw [hnil]
        exact fun p hp => (by cases hp)
      · rw [hnil]
        exact fun p hp => (by cases hp)
  | step _ hstep ih => exact ih.step hstep

end

end CheckGateway.Pool
