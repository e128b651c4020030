/-
What a poll reports of a queue that grows while it is read.

# Shifted pages

Offsets count from the newest entry, so every entry that is appended
between two reads shifts all later pages towards the older end of what has
been read already. A poll then reads some entries again, and reports them
again if they are new. And it stops at the length that it asked for before
it read anything: where the appended entries push the rest of the queue
past that length, new entries are never read. The poll still makes the
newest entry it saw the watermark, so no later poll reports them.

# The exact condition

`growing_poll` says when a poll repeats nothing and when it loses nothing,
in terms of `lengthAt`, the length of the queue when a page is read. In a
queue that does not grow it does neither.
-/
import CheckGateway.Proofs.Tail.ExactlyOnce

namespace CheckGateway.Tail

-- ========================================================= growing queues

/-- A queue that grows while it is read. -/
structure Growing where
  queue : List QueuedMessage
  /-- What is appended before each of the pages that are still to be
  read. -/
  arrivals : List (List QueuedMessage)
  watermarks : Watermarks

namespace Growing

/-- The queue with the entries that are appended before the next page. -/
def grow (g : Growing) : Growing :=
  { g with
    queue := g.queue ++ g.arrivals.head?.getD []
    arrivals := g.arrivals.tail }

/-- The queue after a number of pages have been read. -/
def after (g : Growing) (pages : Nat) : Growing :=
  { g with
    queue := g.queue ++ (g.arrivals.take pages).flatten
    arrivals := g.arrivals.drop pages }

/-- The answers of a reader that answers each call from the queue as it is
then. -/
def perform {ε : Type} : (c : Call) → Growing → Answer ε c × Growing
  | .watermark key, g => (g.watermarks.get? key, g)
  | .length _, g => (.ok g.queue.length, g)
  | .page _ offset count, g =>
      (.ok ((g.grow.queue.reverse.drop offset).take count), g.grow)
  | .note key entry, g =>
      ((), { g with watermarks := g.watermarks.insert key entry })

/-- All that the queue comes to hold. -/
def whole (g : Growing) : List QueuedMessage := g.queue ++ g.arrivals.flatten

/-- The length of the queue when a page is read, the first page being page
zero. -/
def lengthAt (g : Growing) (page : Nat) : Nat := (g.after (page + 1)).queue.length

/-- A page, where all before it were full. -/
def pageAt (g : Growing) (size page : Nat) : List QueuedMessage :=
  ((g.after (page + 1)).queue.reverse.drop (page * size)).take size

theorem grow_after (g : Growing) (pages : Nat) :
    (g.after pages).grow = g.after (pages + 1) := by
  have hqueue : (g.arrivals.take (pages + 1)).flatten
      = (g.arrivals.take pages).flatten ++ (g.arrivals.drop pages).head?.getD [] := by
    rw [List.take_add_one, List.flatten_append, List.head?_drop]
    cases g.arrivals[pages]? with
    | none => rfl
    | some batch => exact congrArg _ (List.append_nil _)
  unfold grow after
  dsimp only
  rw [hqueue, List.append_assoc, List.tail_drop]

/-- The queue is a part of the whole from its start on. -/
theorem queue_after (g : Growing) (pages : Nat) :
    (g.after pages).queue = g.whole.take (g.after pages).queue.length := by
  have hwhole : g.whole = (g.after pages).queue ++ (g.arrivals.drop pages).flatten := by
    unfold whole after
    dsimp only
    rw [List.append_assoc, ← List.flatten_append, List.take_append_drop]
  rw [hwhole, List.take_left]

theorem lengthAt_le_whole (g : Growing) (page : Nat) :
    g.lengthAt page ≤ g.whole.length := by
  have h := congrArg List.length (g.queue_after (page + 1))
  rw [List.length_take] at h
  unfold lengthAt
  omega

/-- The queue only grows. -/
theorem lengthAt_mono (g : Growing) (page : Nat) :
    g.lengthAt page ≤ g.lengthAt (page + 1) := by
  unfold lengthAt
  rw [← grow_after g (page + 1)]
  show _ ≤ (_ ++ _ : List QueuedMessage).length
  rw [List.length_append]
  exact Nat.le_add_right ..

theorem length_le_lengthAt (g : Growing) (page : Nat) :
    g.queue.length ≤ g.lengthAt page := by
  show _ ≤ (g.queue ++ _).length
  rw [List.length_append]
  exact Nat.le_add_right ..

end Growing

-- ================================================================ positions

section

variable {queue : List QueuedMessage} {x y : QueuedMessage} {offset count : Nat}

/-- The entries of a page by their positions from the oldest on. -/
theorem mem_page : x ∈ (queue.reverse.drop offset).take count ↔
    ∃ p, queue[p]? = some x ∧ p + offset < queue.length
      ∧ queue.length ≤ p + offset + count := by
  rw [List.mem_iff_getElem?]
  constructor
  · rintro ⟨q, hq⟩
    rw [List.getElem?_take] at hq
    split at hq
    next hlt =>
      rw [List.getElem?_drop] at hq
      obtain ⟨hbound, -⟩ := List.getElem?_eq_some_iff.1 hq
      rw [List.length_reverse] at hbound
      rw [List.getElem?_reverse hbound] at hq
      exact ⟨_, hq, by omega, by omega⟩
    · cases hq
  · rintro ⟨p, hp, hoffset, hcount⟩
    refine ⟨queue.length - 1 - offset - p, ?_⟩
    rw [List.getElem?_take_of_lt (by omega), List.getElem?_drop,
      List.getElem?_reverse (by omega), ← hp]
    congr 1
    omega

/-- Later positions have later dates. -/
theorem date_lt_of_getElem? (h : Increasing queue) {p q : Nat} (hlt : p < q)
    (hx : queue[p]? = some x) (hy : queue[q]? = some y) : x.date < y.date := by
  obtain ⟨hp, rfl⟩ := List.getElem?_eq_some_iff.1 hx
  obtain ⟨hq, rfl⟩ := List.getElem?_eq_some_iff.1 hy
  exact List.pairwise_iff_getElem.1 h p q hp hq hlt

/-- An entry has one position. -/
theorem position_unique (h : Increasing queue) {p q : Nat}
    (hp : queue[p]? = some x) (hq : queue[q]? = some x) : p = q := by
  rcases Nat.lt_trichotomy p q with hlt | heq | hgt
  · exact absurd (date_lt_of_getElem? h hlt hp hq) (Timestamp.lt_irrefl _)
  · exact heq
  · exact absurd (date_lt_of_getElem? h hgt hq hp) (Timestamp.lt_irrefl _)

/-- What stops a scan is the entry of the watermark and what is before
it. -/
theorem stops_iff_le (h : Increasing queue) {mark entry : QueuedMessage} {w p : Nat}
    (hentry : queue[w]? = some entry) (hsame : entry.sameEntry mark = true)
    (hx : queue[p]? = some x) : stops mark x = true ↔ p ≤ w := by
  have hdate := date_eq_of_sameEntry hsame
  constructor
  · intro hstop
    refine Nat.le_of_not_lt fun hlt => ?_
    have hlate := date_lt_of_getElem? h hlt hentry hx
    rw [hdate] at hlate
    rw [not_stops_of_lt hlate] at hstop
    cases hstop
  · intro hle
    rw [stops_iff]
    rcases Nat.lt_or_eq_of_le hle with hlt | rfl
    · exact .inr (hdate ▸ date_lt_of_getElem? h hlt hx hentry)
    · rw [hentry] at hx
      exact .inl (Option.some.inj hx ▸ hsame)

end

-- =============================================================== the pages

namespace Growing

/-- A poll reads a page if there seemed to be entries left for it, and no
page before it reached down to the watermark at position `w`. -/
def Visits (g : Growing) (size w page : Nat) : Prop :=
  page * size < g.queue.length
    ∧ ∀ before < page, w + (before + 1) * size < g.lengthAt before

/-- The pages that a scan reads, from a page on. -/
def visited (g : Growing) (size w : Nat) : Nat → Nat → List Nat
  | 0, _ => []
  | rounds + 1, page =>
      if g.queue.length ≤ page * size then []
      else if g.lengthAt page ≤ w + (page + 1) * size then [page]
      else page :: g.visited size w rounds (page + 1)

theorem le_of_mem_visited {g : Growing} {size w rounds page i : Nat}
    (h : i ∈ g.visited size w rounds page) : page ≤ i := by
  induction rounds generalizing page with
  | zero => cases h
  | succ rounds ih =>
      unfold visited at h
      split at h
      · cases h
      · split at h
        · exact Nat.le_of_eq (List.mem_singleton.1 h).symm
        · rcases List.mem_cons.1 h with rfl | h
          · exact Nat.le_refl _
          · exact Nat.le_of_succ_le (ih h)

/-- No page is read twice, and each after those before it. -/
theorem pairwise_visited (g : Growing) (size w rounds page : Nat) :
    (g.visited size w rounds page).Pairwise (· < ·) := by
  induction rounds generalizing page with
  | zero => exact .nil
  | succ rounds ih =>
      unfold visited
      split
      · exact .nil
      · split
        · exact List.pairwise_singleton ..
        · exact .cons (fun i hi => le_of_mem_visited hi) (ih (page + 1))

theorem mem_visited {g : Growing} {size w rounds page i : Nat}
    (hrounds : g.queue.length ≤ (page + rounds) * size) :
    i ∈ g.visited size w rounds page ↔
      page ≤ i ∧ i * size < g.queue.length
        ∧ ∀ before < i, page ≤ before →
          w + (before + 1) * size < g.lengthAt before := by
  induction rounds generalizing page with
  | zero =>
      refine iff_of_false List.not_mem_nil ?_
      rintro ⟨hpage, hlt, -⟩
      have := Nat.mul_le_mul_right size hpage
      rw [Nat.add_zero] at hrounds
      omega
  | succ rounds ih =>
      unfold visited
      split
      next hdone =>
        refine iff_of_false List.not_mem_nil ?_
        rintro ⟨hpage, hlt, -⟩
        have := Nat.mul_le_mul_right size hpage
        omega
      next hmore =>
        split
        next hstop =>
          rw [List.mem_singleton]
          constructor
          · rintro rfl
            exact ⟨Nat.le_refl _, by omega, fun b hb hpage => by omega⟩
          · rintro ⟨hpage, -, hbefore⟩
            -- the page at which the scan stops is not passed
            refine Nat.le_antisymm (Nat.le_of_not_lt fun hlt => ?_) hpage
            have := hbefore page hlt (Nat.le_refl _)
            omega
        next hgo =>
          rw [List.mem_cons, ih (by rwa [Nat.add_right_comm, Nat.add_assoc])]
          constructor
          · rintro (rfl | ⟨hpage, hlt, hbefore⟩)
            · exact ⟨Nat.le_refl _, by omega, fun b hb hpage => by omega⟩
            · refine ⟨Nat.le_of_succ_le hpage, hlt, fun b hb hle => ?_⟩
              rcases Nat.eq_or_lt_of_le hle with rfl | hle
              · omega
              · exact hbefore b hb hle
          · rintro ⟨hpage, hlt, hbefore⟩
            rcases Nat.eq_or_lt_of_le hpage with rfl | hpage
            · exact .inl rfl
            · exact .inr ⟨hpage, hlt, fun b hb hle =>
                hbefore b hb (Nat.le_of_succ_le hle)⟩

/-- A poll reads the pages that it visits. -/
theorem mem_visited_of_start {g : Growing} {size w i : Nat} (hsize : 0 < size) :
    i ∈ g.visited size w g.queue.length 0 ↔ g.Visits size w i := by
  rw [mem_visited (by
    rw [Nat.zero_add]
    exact Nat.le_mul_of_pos_right _ hsize)]
  unfold Visits
  constructor
  · rintro ⟨-, hlt, hbefore⟩
    exact ⟨hlt, fun b hb => hbefore b hb (Nat.zero_le _)⟩
  · rintro ⟨hlt, hbefore⟩
    exact ⟨Nat.zero_le _, hlt, fun b hb _ => hbefore b hb⟩

/-- A page shows a position. -/
def Shows (g : Growing) (size page p : Nat) : Prop :=
  p + page * size < g.lengthAt page ∧ g.lengthAt page ≤ p + (page + 1) * size

theorem getElem?_after {g : Growing} {page p : Nat} (hp : p < g.lengthAt page) :
    (g.after (page + 1)).queue[p]? = g.whole[p]? :=
  (congrArg (·[p]?) (g.queue_after (page + 1))).trans (List.getElem?_take_of_lt hp)

theorem mem_pageAt {g : Growing} {size page : Nat} {x : QueuedMessage} :
    x ∈ g.pageAt size page ↔ ∃ p, g.whole[p]? = some x ∧ g.Shows size page p := by
  unfold pageAt Shows
  rw [mem_page, Nat.succ_mul]
  constructor
  · rintro ⟨p, hp, hoffset, hcount⟩
    have hlt : p < g.lengthAt page := Nat.lt_of_le_of_lt (Nat.le_add_right ..) hoffset
    rw [getElem?_after hlt] at hp
    exact ⟨p, hp, hoffset, Nat.le_trans hcount (Nat.le_of_eq (Nat.add_assoc ..))⟩
  · rintro ⟨p, hp, hoffset, hcount⟩
    have hlt : p < g.lengthAt page := Nat.lt_of_le_of_lt (Nat.le_add_right ..) hoffset
    rw [← getElem?_after hlt] at hp
    exact ⟨p, hp, hoffset, Nat.le_trans hcount (Nat.le_of_eq (Nat.add_assoc ..).symm)⟩

theorem length_pageAt (g : Growing) (size page : Nat) :
    (g.pageAt size page).length = min size (g.lengthAt page - page * size) := by
  unfold pageAt
  rw [List.length_take, List.length_drop, List.length_reverse]
  rfl

/-- A page shows the newest entries first. -/
theorem decreasing_pageAt {g : Growing} (h : Increasing g.whole) (size page : Nat) :
    (g.pageAt size page).Pairwise fun a b => b.date < a.date := by
  have hqueue : Increasing (g.after (page + 1)).queue := by
    rw [queue_after]
    exact h.sublist (List.take_sublist ..)
  refine (List.pairwise_reverse.2 hqueue).sublist ?_
  exact (List.take_sublist ..).trans (List.drop_sublist ..)

section

variable {g : Growing} {mark entry : QueuedMessage} {w size page : Nat}

/-- What a page brings to the report. -/
theorem mem_newer_pageAt (hinc : Increasing g.whole)
    (hentry : g.whole[w]? = some entry) (hsame : entry.sameEntry mark = true)
    {x : QueuedMessage} :
    x ∈ newer mark (g.pageAt size page) ↔
      ∃ p, g.whole[p]? = some x ∧ w < p ∧ g.Shows size page p := by
  rw [newer_eq_filter_of_decreasing (decreasing_pageAt hinc size page),
    List.mem_filter, mem_pageAt, Bool.not_eq_true', ← Bool.not_eq_true]
  constructor
  · rintro ⟨⟨p, hp, hshows⟩, hstop⟩
    rw [stops_iff_le hinc hentry hsame hp] at hstop
    exact ⟨p, hp, Nat.lt_of_not_le hstop, hshows⟩
  · rintro ⟨p, hp, hlt, hshows⟩
    rw [stops_iff_le hinc hentry hsame hp]
    exact ⟨⟨p, hp, hshows⟩, Nat.not_le_of_lt hlt⟩

/-- A scan stops at a page that reaches down to the watermark. -/
theorem any_stops_pageAt (hinc : Increasing g.whole)
    (hentry : g.whole[w]? = some entry) (hsame : entry.sameEntry mark = true)
    (hw : w < g.lengthAt page) (hmore : page * size < g.lengthAt page)
    (hsize : 0 < size) :
    (g.pageAt size page).any (stops mark) = true ↔
      g.lengthAt page ≤ w + (page + 1) * size := by
  rw [List.any_eq_true]
  constructor
  · rintro ⟨x, hx, hstop⟩
    obtain ⟨p, hp, -, hreach⟩ := mem_pageAt.1 hx
    rw [stops_iff_le hinc hentry hsame hp] at hstop
    omega
  · intro hreach
    -- the oldest position of the page, or the watermark if that is on it
    have hwhole := g.lengthAt_le_whole page
    obtain ⟨p, hle, hshows⟩ : ∃ p, p ≤ w ∧ g.Shows size page p := by
      refine ⟨min w (g.lengthAt page - 1 - page * size), Nat.min_le_left .., ?_⟩
      unfold Shows
      rw [Nat.succ_mul] at hreach ⊢
      omega
    have hp : p < g.whole.length := by omega
    have hget := List.getElem?_eq_getElem hp
    exact ⟨_, mem_pageAt.2 ⟨p, hget, hshows⟩,
      (stops_iff_le hinc hentry hsame hget).2 hle⟩

end

end Growing

-- ================================================================ the scan

section

variable {ε : Type} {g : Growing} {mark entry : QueuedMessage} {path : String}
  {key : WatermarkKey} {w size : Nat}

theorem run_page {α : Type} (page : Nat)
    (next : Answer ε (.page path (page * size) size) → Poll ε α) :
    (Routine.call (.page path (page * size) size) next).run
        Growing.perform (g.after page)
      = (next (Except.ok (g.pageAt size page) : Except ε _)).run Growing.perform
          (g.after (page + 1)) := by
  rw [← Growing.grow_after]
  unfold Growing.pageAt
  rw [← Growing.grow_after]
  rfl

/-- From any page on, a scan finds what is new on the pages that it
visits. -/
theorem scan_run (path : String) (hinc : Increasing g.whole)
    (hentry : g.whole[w]? = some entry) (hsame : entry.sameEntry mark = true)
    (hw : w < g.queue.length) (hsize : 0 < size) (rounds page : Nat)
    (found : Found) :
    ∃ newest g', (scan size path mark g.queue.length rounds (page * size) found :
        Poll ε (Except ε Found)).run Growing.perform (g.after page)
      = (.ok ⟨newest, found.fresh ++ (g.visited size w rounds page).flatMap
            fun i => newer mark (g.pageAt size i)⟩, g') := by
  induction rounds generalizing page found with
  | zero =>
      refine ⟨found.newest, g.after page, ?_⟩
      rw [Growing.visited, List.flatMap_nil, List.append_nil]
      rfl
  | succ rounds ih =>
      rw [scan_succ, Growing.visited]
      by_cases hdone : g.queue.length ≤ page * size
      · refine ⟨found.newest, g.after page, ?_⟩
        rw [if_pos hdone, if_pos hdone, List.flatMap_nil, List.append_nil]
        rfl
      · have hgrown := g.length_le_lengthAt page
        have hlength := g.length_pageAt size page
        have hstops := Growing.any_stops_pageAt hinc hentry hsame
          (Nat.lt_of_lt_of_le hw hgrown) (by omega : page * size < g.lengthAt page) hsize
        rw [if_neg hdone, if_neg hdone, run_page]
        generalize hpage : g.pageAt size page = entries at hlength hstops
        cases entries with
        | nil =>
            rw [List.length_nil] at hlength
            omega
        | cons m rest =>
            dsimp only
            by_cases hstop : g.lengthAt page ≤ w + (page + 1) * size
            · rw [if_pos (hstops.2 hstop), if_pos hstop]
              refine ⟨(found.add mark (m :: rest)).newest, g.after (page + 1), ?_⟩
              rw [List.flatMap_singleton, hpage]
              rfl
            · have hfull : page * size + (m :: rest).length = (page + 1) * size := by
                rw [Nat.succ_mul] at hstop ⊢
                omega
              rw [if_neg (mt hstops.1 hstop), if_neg hstop, hfull]
              obtain ⟨newest, g', hrun⟩ := ih (page + 1) (found.add mark (m :: rest))
              refine ⟨newest, g', hrun.trans ?_⟩
              rw [List.flatMap_cons, hpage, ← List.append_assoc]
              rfl

/-- What a poll reports of the queue. -/
def Growing.report (g : Growing) (mark : QueuedMessage) (size w : Nat) :
    List QueuedMessage :=
  (g.visited size w g.queue.length 0).flatMap fun i => newer mark (g.pageAt size i)

theorem poll_run (size : Nat) (path : String)
    (hmark : g.watermarks.get? key = some mark)
    (hinc : Increasing g.whole) (hentry : g.whole[w]? = some entry)
    (hsame : entry.sameEntry mark = true) (hw : w < g.queue.length) :
    ∃ g', (poll size key path : Poll ε (Except ε Report)).run Growing.perform g
      = (.ok (.new (g.report mark (size.max 1) w)), g') := by
  have hstart : g.after 0 = g := by
    unfold Growing.after
    rw [List.take_zero, List.flatten_nil, List.append_nil, List.drop_zero]
  have hsize : 0 < size.max 1 := Nat.le_max_right size 1
  obtain ⟨newest, g', hrun⟩ :=
    scan_run (ε := ε) path hinc hentry hsame hw hsize g.queue.length 0 {}
  rw [hstart, Nat.zero_mul] at hrun
  have hlook : (watermark key : Poll ε _).run Growing.perform g = (some mark, g) :=
    congrArg (·, g) hmark
  have hpoll : (poll size key path : Poll ε (Except ε Report)).run Growing.perform g
      = (advance (size.max 1) key path mark).run Growing.perform g := by
    show Routine.run _ ((watermark key).bind _) g = _
    rw [Routine.run_bind, hlook]
  rw [hpoll]
  show ∃ g', Routine.run _ ((scan _ path mark _ _ 0 {}).bind _) g = _
  rw [Routine.run_bind, hrun]
  cases newest with
  | none => exact ⟨g', rfl⟩
  | some newest =>
      exact ⟨{ g' with watermarks := g'.watermarks.insert key newest }, rfl⟩

-- ============================================================== the report

theorem mem_report (hinc : Increasing g.whole)
    (hentry : g.whole[w]? = some entry) (hsame : entry.sameEntry mark = true)
    (hsize : 0 < size) {x : QueuedMessage} :
    x ∈ g.report mark size w ↔
      ∃ i, g.Visits size w i ∧ ∃ p, g.whole[p]? = some x ∧ w < p ∧ g.Shows size i p := by
  unfold Growing.report
  rw [List.mem_flatMap]
  constructor
  · rintro ⟨i, hi, hx⟩
    exact ⟨i, (Growing.mem_visited_of_start hsize).1 hi,
      (Growing.mem_newer_pageAt hinc hentry hsame).1 hx⟩
  · rintro ⟨i, hi, hx⟩
    exact ⟨i, (Growing.mem_visited_of_start hsize).2 hi,
      (Growing.mem_newer_pageAt hinc hentry hsame).2 hx⟩

/-- What comes before a page that is read is read. -/
theorem Growing.Visits.of_le {i j : Nat} (h : g.Visits size w j) (hle : i ≤ j) :
    g.Visits size w i := by
  obtain ⟨hmore, hbefore⟩ := h
  refine ⟨Nat.lt_of_le_of_lt (Nat.mul_le_mul_right size hle) hmore, fun b hb => ?_⟩
  exact hbefore b (Nat.lt_of_lt_of_le hb hle)

/-- Two pages bring no entry in common if all of the later page is older
than the earlier one, or, after many arrivals, all of it is newer. -/
theorem newer_apart_iff (hinc : Increasing g.whole)
    (hentry : g.whole[w]? = some entry) (hsame : entry.sameEntry mark = true)
    (hsize : 0 < size) {i j : Nat} (hij : i < j) (hj : g.Visits size w j) :
    (∀ x ∈ newer mark (g.pageAt size i), ∀ y ∈ newer mark (g.pageAt size j), x ≠ y) ↔
      g.lengthAt j + (i + 1) * size ≤ g.lengthAt i + j * size
        ∨ g.lengthAt i + (j + 1) * size ≤ g.lengthAt j + i * size := by
  constructor
  · intro hapart
    refine Decidable.byContradiction fun hnot => ?_
    -- the older of the newest positions that follow the two pages
    obtain ⟨p, hlt, hi, hj⟩ :
        ∃ p, w < p ∧ g.Shows size i p ∧ g.Shows size j p := by
      refine ⟨max (g.lengthAt i - (i + 1) * size) (g.lengthAt j - (j + 1) * size), ?_⟩
      have hpassed := hj.2 i hij
      unfold Growing.Shows
      rw [Nat.succ_mul] at hpassed hnot ⊢
      rw [Nat.succ_mul] at hnot ⊢
      omega
    have hp : p < g.whole.length := by
      have := g.lengthAt_le_whole i
      have := hi.1
      omega
    have hget := List.getElem?_eq_getElem hp
    exact hapart _ ((Growing.mem_newer_pageAt hinc hentry hsame).2 ⟨p, hget, hlt, hi⟩)
      _ ((Growing.mem_newer_pageAt hinc hentry hsame).2 ⟨p, hget, hlt, hj⟩) rfl
  · rintro hcut x hx _ hy rfl
    obtain ⟨p, hp, -, hi⟩ := (Growing.mem_newer_pageAt hinc hentry hsame).1 hx
    obtain ⟨q, hq, -, hj⟩ := (Growing.mem_newer_pageAt hinc hentry hsame).1 hy
    obtain rfl := position_unique hinc hp hq
    unfold Growing.Shows at hi hj
    omega

/-- In an ascending list, a relation between each element and those after
it is one between each number and the greater ones. -/
theorem pairwise_iff_of_ascending {R : Nat → Nat → Prop} {l : List Nat}
    (h : l.Pairwise (· < ·)) :
    l.Pairwise R ↔ ∀ i ∈ l, ∀ j ∈ l, i < j → R i j := by
  induction h with
  | nil => exact iff_of_true .nil fun i hi => by cases hi
  | @cons a l ha _ ih =>
      rw [List.pairwise_cons, ih]
      constructor
      · rintro ⟨hhead, htail⟩ i hi j hj hij
        rcases List.mem_cons.1 hi with rfl | hil
        · rcases List.mem_cons.1 hj with rfl | hjl
          · exact absurd hij (Nat.lt_irrefl _)
          · exact hhead j hjl
        · rcases List.mem_cons.1 hj with rfl | hjl
          · exact absurd (ha i hil) (Nat.lt_asymm hij)
          · exact htail i hil j hjl hij
      · intro hall
        exact ⟨fun j hj => hall a (.head _) j (.tail _ hj) (ha j hj),
          fun i hi j hj => hall i (.tail _ hi) j (.tail _ hj)⟩

/-- A report repeats nothing if no two of its pages have an entry in
common. -/
theorem nodup_report_iff (hinc : Increasing g.whole)
    (hentry : g.whole[w]? = some entry) (hsame : entry.sameEntry mark = true)
    (hsize : 0 < size) :
    (g.report mark size w).Nodup ↔
      ∀ i j, i < j → g.Visits size w j →
        g.lengthAt j + (i + 1) * size ≤ g.lengthAt i + j * size
          ∨ g.lengthAt i + (j + 1) * size ≤ g.lengthAt j + i * size := by
  have hpage : ∀ i, (newer mark (g.pageAt size i)).Nodup := by
    intro i
    have hnewer := (Growing.decreasing_pageAt hinc size i).sublist
      (List.takeWhile_sublist fun m => !stops mark m)
    refine List.nodup_iff_pairwise_ne.2 (hnewer.imp fun {a b} hdate heq => ?_)
    rw [heq] at hdate
    exact Timestamp.lt_irrefl _ hdate
  unfold Growing.report List.Nodup
  rw [List.pairwise_flatMap,
    pairwise_iff_of_ascending (g.pairwise_visited size w g.queue.length 0)]
  constructor
  · rintro ⟨-, hapart⟩ i j hij hj
    refine (newer_apart_iff hinc hentry hsame hsize hij hj).1 ?_
    exact hapart i ((Growing.mem_visited_of_start hsize).2 (hj.of_le (Nat.le_of_lt hij)))
      j ((Growing.mem_visited_of_start hsize).2 hj) hij
  · intro hcut
    refine ⟨fun i _ => hpage i, fun i _ j hj hij => ?_⟩
    have hj := (Growing.mem_visited_of_start hsize).1 hj
    exact (newer_apart_iff hinc hentry hsame hsize hij hj).2 (hcut i j hij hj)

/-- Pages that follow each other leave no position between them out. -/
theorem Growing.exists_shows {i p : Nat} (hp : p < g.queue.length)
    (hreach : g.lengthAt i ≤ p + (i + 1) * size) :
    ∃ j, j ≤ i ∧ g.Shows size j p := by
  induction i with
  | zero =>
      refine ⟨0, Nat.le_refl _, ?_, hreach⟩
      rw [Nat.zero_mul]
      exact Nat.lt_of_lt_of_le hp (g.length_le_lengthAt 0)
  | succ i ih =>
      by_cases hearlier : g.lengthAt i ≤ p + (i + 1) * size
      · obtain ⟨j, hle, hshows⟩ := ih hearlier
        exact ⟨j, Nat.le_succ_of_le hle, hshows⟩
      · refine ⟨i + 1, Nat.le_refl _, ?_, hreach⟩
        exact Nat.lt_of_lt_of_le (Nat.lt_of_not_le hearlier) (g.lengthAt_mono i)

/-- A page that reaches down to the entry after the watermark is read,
unless one before it does. -/
theorem Growing.exists_visits {i : Nat} (hmore : i * size < g.queue.length)
    (hreach : g.lengthAt i ≤ w + 1 + (i + 1) * size) :
    ∃ j, g.Visits size w j ∧ g.lengthAt j ≤ w + 1 + (j + 1) * size := by
  induction i using Nat.strongRecOn with
  | ind i ih =>
      by_cases hearlier : ∃ b, b < i ∧ g.lengthAt b ≤ w + (b + 1) * size
      · obtain ⟨b, hb, hstop⟩ := hearlier
        have hle := Nat.mul_le_mul_right size (Nat.le_of_lt hb)
        exact ih b hb (by omega) (by omega)
      · refine ⟨i, ⟨hmore, fun b hb => Nat.lt_of_not_le fun hstop => ?_⟩, hreach⟩
        exact hearlier ⟨b, hb, hstop⟩

/-- Where the watermark's entry and those after it stand. -/
theorem Growing.getElem?_whole {older fresh : List QueuedMessage}
    (hqueue : g.queue = older ++ entry :: fresh) :
    g.whole[older.length]? = some entry
      ∧ ∀ n, n < fresh.length → g.whole[older.length + 1 + n]? = fresh[n]? := by
  have hwhole : g.whole = older ++ entry :: (fresh ++ g.arrivals.flatten) := by
    unfold Growing.whole
    rw [hqueue, List.append_assoc, List.cons_append]
  constructor
  · rw [hwhole, List.getElem?_append_right (Nat.le_refl _), Nat.sub_self]
    rfl
  · intro n hn
    have hpast : older.length + 1 + n - older.length = n + 1 := by omega
    rw [hwhole, List.getElem?_append_right (by omega), ← List.getElem?_append_left hn,
      hpast, List.getElem?_cons_succ]

/-- A report has all that was new when the poll began if one of the pages
that the poll had to expect reaches down to the entry after the
watermark. -/
theorem forall_mem_report_iff {older fresh : List QueuedMessage}
    (hqueue : g.queue = older ++ entry :: fresh) (hinc : Increasing g.whole)
    (hsame : entry.sameEntry mark = true) (hsize : 0 < size) :
    (∀ x ∈ fresh, x ∈ g.report mark size older.length) ↔
      fresh = [] ∨ ∃ i, i * size < g.queue.length
        ∧ g.lengthAt i ≤ older.length + 1 + (i + 1) * size := by
  have hlength : g.queue.length = older.length + 1 + fresh.length := by
    rw [hqueue, List.length_append, List.length_cons]
    omega
  obtain ⟨hentry, hfresh⟩ := Growing.getElem?_whole hqueue
  constructor
  · intro hall
    cases hcons : fresh with
    | nil => exact .inl rfl
    | cons m rest =>
        -- the oldest of the new entries is on a page
        have hm : fresh[0]? = some m := by rw [hcons]; rfl
        have hget := hfresh 0 (by rw [hcons]; exact Nat.succ_pos _)
        rw [hm] at hget
        obtain ⟨i, hvisits, p, hp, -, hshows⟩ :=
          (mem_report hinc hentry hsame hsize).1 (hall m (List.mem_of_getElem? hm))
        obtain rfl := position_unique hinc hp hget
        exact .inr ⟨i, hvisits.1, hshows.2⟩
  · rintro (rfl | ⟨i, hmore, hreach⟩) x hx
    · cases hx
    obtain ⟨j, hvisits, hreach⟩ := Growing.exists_visits hmore hreach
    obtain ⟨n, hn, rfl⟩ := List.mem_iff_getElem.1 hx
    have hget := hfresh n hn
    rw [List.getElem?_eq_getElem hn] at hget
    have hp : older.length + 1 + n < g.queue.length := by omega
    have hdown : g.lengthAt j ≤ older.length + 1 + n + (j + 1) * size := by omega
    obtain ⟨i, hle, hshows⟩ := Growing.exists_shows hp hdown
    exact (mem_report hinc hentry hsame hsize).2
      ⟨i, hvisits.of_le hle, _, hget, by omega, hshows⟩

/-- A poll of a growing queue repeats nothing exactly if no page that it
reads overlaps one before it: it goes on where that one ended, or so much
has arrived that it shows newer entries only. And the poll reports all that
was new when it began exactly if one of the pages that it had to expect
reaches down to the entry after the watermark. -/
theorem growing_poll (size : Nat) (path : String)
    {older fresh : List QueuedMessage}
    (hmark : g.watermarks.get? key = some mark)
    (hqueue : g.queue = older ++ entry :: fresh)
    (hsame : entry.sameEntry mark = true) (hinc : Increasing g.whole) :
    ∃ entries g', (poll size key path : Poll ε (Except ε Report)).run
        Growing.perform g = (.ok (.new entries), g')
      ∧ (entries.Nodup ↔
          ∀ i j, i < j → g.Visits (size.max 1) older.length j →
            g.lengthAt j + (i + 1) * size.max 1 ≤ g.lengthAt i + j * size.max 1
              ∨ g.lengthAt i + (j + 1) * size.max 1 ≤ g.lengthAt j + i * size.max 1)
      ∧ ((∀ x ∈ fresh, x ∈ entries) ↔
          fresh = [] ∨ ∃ i, i * size.max 1 < g.queue.length
            ∧ g.lengthAt i ≤ older.length + 1 + (i + 1) * size.max 1) := by
  have hsize : 0 < size.max 1 := Nat.le_max_right size 1
  have hw : older.length < g.queue.length := by
    rw [hqueue, List.length_append, List.length_cons]
    omega
  have hentry := (Growing.getElem?_whole hqueue).1
  obtain ⟨g', hrun⟩ := poll_run (ε := ε) size path hmark hinc hentry hsame hw
  exact ⟨_, g', hrun, nodup_report_iff hinc hentry hsame hsize,
    forall_mem_report_iff hqueue hinc hsame hsize⟩

end

-- ======================================================== two of the ways

/-- An entry that is appended once the first page has been read: the second
page shows the entry of the first again. -/
def shifting : Growing :=
  { queue := [entryAt 1, entryAt 2, entryAt 3]
    arrivals := [[], [entryAt 4]]
    watermarks := Table.empty.insert ⟨[]⟩ (entryAt 1) }

/-- Two entries that are appended once the length is known: the poll reads
as many entries as it had to expect, and none of them is the entry that was
new when it began. -/
def outgrown : Growing :=
  { queue := [entryAt 1, entryAt 2]
    arrivals := [[entryAt 3, entryAt 4]]
    watermarks := Table.empty.insert ⟨[]⟩ (entryAt 1) }

/-- Pages that shift by one entry show one entry twice, and leave none
out. -/
theorem growing_poll_of_shifting :
    (shifting.watermarks.get? ⟨[]⟩ = some (entryAt 1)
      ∧ (entryAt 1).sameEntry (entryAt 1) = true ∧ Increasing shifting.whole)
      ∧ ∃ entries g', (poll 1 ⟨[]⟩ "" : Poll Unit (Except Unit Report)).run
          Growing.perform shifting = (.ok (.new entries), g')
        ∧ ¬ entries.Nodup ∧ ∀ x ∈ [entryAt 2, entryAt 3], x ∈ entries := by
  have hmark : shifting.watermarks.get? ⟨[]⟩ = some (entryAt 1) := rfl
  have hsame : (entryAt 1).sameEntry (entryAt 1) = true := rfl
  have hqueue : shifting.queue = [] ++ entryAt 1 :: [entryAt 2, entryAt 3] := rfl
  have hinc : Increasing shifting.whole := by
    unfold Increasing
    decide
  obtain ⟨entries, g', hrun, honce, hall⟩ :=
    growing_poll (ε := Unit) 1 "" hmark hqueue hsame hinc
  refine ⟨⟨hmark, hsame, hinc⟩, entries, g', hrun, fun hnodup => ?_, hall.2 ?_⟩
  · have hvisits : shifting.Visits 1 0 1 := ⟨by decide, by decide⟩
    exact absurd (honce.1 hnodup 0 1 (by decide) hvisits) (by decide)
  · exact .inr ⟨2, by decide, by decide⟩

/-- A poll of a growing queue can report an entry twice, and it can leave
out an entry that was new when it began and make a later one the
watermark. -/
theorem growing_poll_repeats_and_loses :
    (∃ g', (poll 1 ⟨[]⟩ "" : Poll Unit (Except Unit Report)).run Growing.perform
        shifting = (.ok (.new [entryAt 3, entryAt 3, entryAt 2]), g'))
      ∧ ∃ g', (poll 1 ⟨[]⟩ "" : Poll Unit (Except Unit Report)).run Growing.perform
          outgrown = (.ok (.new [entryAt 4, entryAt 3]), g')
        ∧ g'.watermarks.get? ⟨[]⟩ = some (entryAt 4) :=
  ⟨⟨_, rfl⟩, _, rfl, rfl⟩

end CheckGateway.Tail
