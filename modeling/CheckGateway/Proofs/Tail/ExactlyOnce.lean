/-
Every entry that is appended to a tailed queue is reported exactly once, if
it is still there when a poll looks: the watermark of a key divides the
queue into what has been reported and what has not.

# Histories

`History` is any sequence of appends, deletions, answers and polls after a
key was established, the polls one after the other. Nothing is asked of the
reader beyond `Reads`: it may cut its pages anywhere and may fail at every
read, and each poll may come with a page size of its own.

# The invariant

`Tracked` says where the watermark stands: an entry in the queue stops a
scan exactly if it was there at the last successful poll (or when the key
was established). The watermark entry may be deleted, answered, or replaced
by an older one after a purge. None of that matters, because dates only
grow: whatever is appended is later than everything the queue ever held,
the watermark included, and whatever stayed is no later than the newest
entry at the last poll, which is what the watermark was set to.
-/
import CheckGateway.Proofs.Tail.Scan

namespace CheckGateway.Tail

-- ========================================================== histories

/-- What can happen to a queue and to a key that tails it. -/
inductive Event where
  | appended (m : QueuedMessage)
  | deleted
  /-- Reply statuses have changed. -/
  | answered
  | polled (r : Report)
  | failed
  deriving Repr

/-- Later entries have later dates. -/
def Increasing (queue : List QueuedMessage) : Prop :=
  queue.Pairwise fun a b => a.date < b.date

/-- Every entry that a queue has ever held. Events are listed latest
first. -/
def everHeld (queue : List QueuedMessage) : List Event → List QueuedMessage
  | [] => queue
  | .appended m :: es => m :: everHeld queue es
  | _ :: es => everHeld queue es

/-- The entries that were appended after the last successful poll. -/
def sincePoll : List Event → List QueuedMessage
  | [] => []
  | .appended m :: es => m :: sincePoll es
  | .polled _ :: _ => []
  | _ :: es => sincePoll es

/-- The reports of the successful polls. -/
def reports : List Event → List (List QueuedMessage)
  | [] => []
  | .polled (.new entries) :: es => entries :: reports es
  | _ :: es => reports es

/-- The histories of a key, and the worlds they lead to. -/
inductive History (ε : Type) (key : WatermarkKey) (path : String)
    (start : World) : List Event → World → Prop where
  | start : History ε key path start [] start
  | append {es : List Event} {w : World} (m : QueuedMessage)
      (h : History ε key path start es w)
      (hlater : ∀ x ∈ everHeld start.queue es, x.date < m.date) :
      History ε key path start (.appended m :: es)
        { w with queue := w.queue ++ [m] }
  | delete {es : List Event} {w : World} (kept : List QueuedMessage)
      (h : History ε key path start es w) (hkept : kept.Sublist w.queue) :
      History ε key path start (.deleted :: es) { w with queue := kept }
  | answer {es : List Event} {w : World} (queue : List QueuedMessage)
      (h : History ε key path start es w)
      (hsame : queue.map QueuedMessage.unanswered
        = w.queue.map QueuedMessage.unanswered) :
      History ε key path start (.answered :: es) { w with queue := queue }
  | poll {es : List Event} {w w' : World} {r : Report} (size : Nat)
      (h : History ε key path start es w)
      (hpoll : Routine.Ends Reads
        (poll size key path : Poll ε (Except ε Report)) w (.ok r) w') :
      History ε key path start (.polled r :: es) w'
  | fail {es : List Event} {w w' : World} {e : ε} (size : Nat)
      (h : History ε key path start es w)
      (hpoll : Routine.Ends Reads
        (poll size key path : Poll ε (Except ε Report)) w (.error e) w') :
      History ε key path start (.failed :: es) w'

/-- Two lists of entries have no entry in common, answered or not. -/
def Apart (as bs : List QueuedMessage) : Prop :=
  ∀ x ∈ as, ∀ y ∈ bs, x.sameEntry y = false

-- ==================================================== dates and stops

theorem date_eq_of_unanswered {a b : QueuedMessage}
    (h : a.unanswered = b.unanswered) : a.date = b.date := by
  have hdate : a.unanswered.date = b.unanswered.date := congrArg _ h
  exact hdate

theorem date_eq_of_sameEntry {a b : QueuedMessage} (h : a.sameEntry b = true) :
    a.date = b.date :=
  date_eq_of_unanswered ((QueuedMessage.sameEntry_iff a b).1 h)

/-- Entries of different dates are different entries. -/
theorem not_sameEntry_of_lt {a b : QueuedMessage} (h : a.date < b.date) :
    a.sameEntry b = false ∧ b.sameEntry a = false := by
  constructor
  · rw [← Bool.not_eq_true]
    exact fun hsame => Timestamp.ne_of_lt h (date_eq_of_sameEntry hsame)
  · rw [← Bool.not_eq_true]
    exact fun hsame => Timestamp.ne_of_lt h (date_eq_of_sameEntry hsame).symm

theorem stops_iff (mark m : QueuedMessage) :
    stops mark m = true ↔ m.sameEntry mark = true ∨ m.date < mark.date := by
  unfold stops
  rw [Bool.or_eq_true, decide_eq_true_eq]

theorem sameEntry_self (m : QueuedMessage) : m.sameEntry m = true :=
  (QueuedMessage.sameEntry_iff m m).2 rfl

/-- A scan comes as far as the watermark if nothing before that stops it. -/
theorem newer_before_mark {mark : QueuedMessage} {fresh older : List QueuedMessage}
    (h : fresh.any (stops mark) = false) : newer mark (fresh ++ mark :: older) = fresh := by
  have hstop : stops mark mark = true := (stops_iff mark mark).2 (.inl (sameEntry_self mark))
  rw [newer_append_of_not_stop h]
  simp [newer, hstop]

/-- Other entries that are no older than the watermark stop no scan. -/
theorem not_any_stops {mark : QueuedMessage} {fresh : List QueuedMessage}
    (h : ∀ x ∈ fresh, mark.date ≤ x.date ∧ x.sameEntry mark = false) :
    fresh.any (stops mark) = false := by
  rw [List.any_eq_false]
  intro x hx
  obtain ⟨hdate, hother⟩ := h x hx
  rw [stops_iff, hother]
  exact fun hstop => hstop.elim nofun hdate

/-- An entry that is later than the watermark does not stop a scan. -/
theorem not_stops_of_lt {mark m : QueuedMessage} (h : mark.date < m.date) :
    stops mark m = false := by
  rw [← Bool.not_eq_true, stops_iff]
  rintro (hsame | hlt)
  · exact Timestamp.ne_of_lt h (date_eq_of_sameEntry hsame).symm
  · exact Timestamp.lt_asymm h hlt

/-- What is older than an entry that stops a scan would stop it too. -/
theorem stops_of_older {mark a b : QueuedMessage} (hb : stops mark b = true)
    (h : a.date < b.date) : stops mark a = true := by
  rw [stops_iff] at hb ⊢
  rcases hb with hsame | hlt
  · exact .inr (date_eq_of_sameEntry hsame ▸ h)
  · exact .inr (Timestamp.lt_trans h hlt)

/-- Changing reply statuses changes nothing that a scan looks at. -/
theorem stops_congr {mark a b : QueuedMessage} (h : a.unanswered = b.unanswered) :
    stops mark a = stops mark b := by
  rw [Bool.eq_iff_iff, stops_iff, stops_iff, QueuedMessage.sameEntry_iff,
    QueuedMessage.sameEntry_iff, h, date_eq_of_unanswered h]

/-- Where each element lets pass what it is preceded by, the longest
passing prefix is all that passes. -/
theorem takeWhile_eq_filter {α : Type} {p : α → Bool} {l : List α}
    (h : l.Pairwise fun a b => p b = true → p a = true) :
    l.takeWhile p = l.filter p := by
  induction l with
  | nil => rfl
  | cons a l ih =>
      obtain ⟨ha, hl⟩ := List.pairwise_cons.1 h
      cases hp : p a with
      | true => rw [List.takeWhile_cons, List.filter_cons, hp, ih hl]; rfl
      | false =>
          rw [List.takeWhile_cons, List.filter_cons, hp]
          refine (List.filter_eq_nil_iff.2 fun b hb hpb => ?_).symm
          rw [ha b hb hpb] at hp
          cases hp

/-- Where dates go down, a scan reports every entry that does not stop
it. -/
theorem newer_eq_filter_of_decreasing {mark : QueuedMessage}
    {entries : List QueuedMessage} (h : entries.Pairwise fun a b => b.date < a.date) :
    newer mark entries = entries.filter fun m => !stops mark m := by
  unfold newer
  refine takeWhile_eq_filter (h.imp fun {a b} hab hp => ?_)
  rw [Bool.not_eq_true'] at hp ⊢
  rw [← Bool.not_eq_true] at hp ⊢
  exact fun hb => hp (stops_of_older hb hab)

/-- With increasing dates a scan reports every entry that does not stop
it. -/
theorem newer_eq_filter {mark : QueuedMessage} {queue : List QueuedMessage}
    (h : Increasing queue) :
    newer mark queue.reverse = queue.reverse.filter fun m => !stops mark m :=
  newer_eq_filter_of_decreasing (List.pairwise_reverse.2 h)

-- ======================================================= the invariant

/-- What the watermark of a key knows after a history. -/
structure Tracked (key : WatermarkKey) (start : World) (es : List Event)
    (w : World) (mark : QueuedMessage) : Prop where
  stored : w.watermarks.get? key = some mark
  increasing : Increasing w.queue
  /-- The watermark and the queue's entries have dates that it has held. -/
  held : ∀ x ∈ mark :: w.queue, ∃ y ∈ everHeld start.queue es, y.date = x.date
  /-- What stops a scan is what was there at the last successful poll. -/
  fresh : ∀ x ∈ w.queue,
    stops mark x = false ↔ ∃ a ∈ sincePoll es, x.sameEntry a = true
  /-- What has been told, or was there at the start, is older than what has
  been appended since the last successful poll. -/
  told : ∀ entries ∈ reports es ++ [start.queue], ∀ x ∈ entries,
    (∃ y ∈ everHeld start.queue es, y.date = x.date)
      ∧ ∀ a ∈ sincePoll es, x.date < a.date
  once : (reports es ++ [start.queue]).Pairwise Apart

section

variable {ε : Type} {key : WatermarkKey} {path : String} {start w w' : World}
  {es : List Event} {mark : QueuedMessage}

/-- What a poll notes is the newest entry, which every entry of an
increasing queue stops at. -/
theorem noted_stops (hinc : Increasing w.queue) (hsome : w.queue ≠ []) :
    ∃ mark ∈ w.queue, (w.noted key).watermarks.get? key = some mark
      ∧ ∀ x ∈ w.queue, stops mark x = true := by
  have hdec := List.pairwise_reverse.2 hinc
  unfold World.noted
  cases hqueue : w.queue.reverse with
  | nil => exact absurd (List.reverse_eq_nil_iff.1 hqueue) hsome
  | cons newest older =>
      have hmem : ∀ x, x ∈ w.queue ↔ x ∈ newest :: older := by
        intro x
        rw [← hqueue, List.mem_reverse]
      refine ⟨newest, (hmem newest).2 (List.mem_cons_self ..), ?_, fun x hx => ?_⟩
      · show (w.watermarks.insert key newest).get? key = some newest
        rw [Table.get?_insert, if_pos rfl]
      · rw [stops_iff]
        rcases List.mem_cons.1 ((hmem x).1 hx) with rfl | hold
        · exact .inl (sameEntry_self x)
        · rw [hqueue] at hdec
          exact .inr ((List.pairwise_cons.1 hdec).1 x hold)

/-- Where a key is established, nothing is new and nothing has been
told. -/
theorem tracked_start (hinc : Increasing w.queue) (hsome : w.queue ≠ []) :
    ∃ mark, Tracked key (w.noted key) [] (w.noted key) mark := by
  obtain ⟨mark, hmem, hstored, hstops⟩ := noted_stops hinc hsome
  refine ⟨mark, hstored, ?_, ?_, ?_, ?_, List.pairwise_singleton ..⟩
  · rw [World.queue_noted]
    exact hinc
  · rw [World.queue_noted]
    intro x hx
    rcases List.mem_cons.1 hx with rfl | hx
    · exact ⟨x, hmem, rfl⟩
    · exact ⟨x, hx, rfl⟩
  · rw [World.queue_noted]
    intro x hx
    refine iff_of_false ?_ ?_
    · rw [hstops x hx]
      exact Bool.noConfusion
    · rintro ⟨a, ha, -⟩
      cases ha
  · intro entries hentries x hx
    rw [List.mem_singleton.1 hentries] at hx
    exact ⟨⟨x, hx, rfl⟩, fun a ha => by cases ha⟩

/-- An appended entry is later than the watermark and than everything that
has been told. -/
theorem Tracked.append (h : Tracked key start es w mark) {m : QueuedMessage}
    (hlater : ∀ x ∈ everHeld start.queue es, x.date < m.date) :
    Tracked key start (.appended m :: es) { w with queue := w.queue ++ [m] }
      mark := by
  have hlate : ∀ x ∈ mark :: w.queue, x.date < m.date := by
    intro x hx
    obtain ⟨y, hy, hdate⟩ := h.held x hx
    exact hdate ▸ hlater y hy
  refine ⟨h.stored, ?_, ?_, ?_, ?_, h.once⟩
  · refine List.pairwise_append.2 ⟨h.increasing, List.pairwise_singleton .., ?_⟩
    intro x hx y hy
    rw [List.mem_singleton.1 hy]
    exact hlate x (List.mem_cons_of_mem _ hx)
  · intro x hx
    rw [← List.cons_append, List.mem_append, List.mem_singleton] at hx
    rcases hx with hx | rfl
    · obtain ⟨y, hy, hdate⟩ := h.held x hx
      exact ⟨y, List.mem_cons_of_mem _ hy, hdate⟩
    · exact ⟨x, List.mem_cons_self .., rfl⟩
  · intro x hx
    rw [List.mem_append, List.mem_singleton] at hx
    rcases hx with hx | rfl
    · rw [h.fresh x hx]
      have hne := (not_sameEntry_of_lt (hlate x (List.mem_cons_of_mem _ hx))).1
      constructor
      · rintro ⟨a, ha, hsame⟩
        exact ⟨a, List.mem_cons_of_mem _ ha, hsame⟩
      · rintro ⟨a, ha, hsame⟩
        rcases List.mem_cons.1 ha with rfl | ha
        · rw [hne] at hsame
          cases hsame
        · exact ⟨a, ha, hsame⟩
    · refine iff_of_true (not_stops_of_lt (hlate mark (List.mem_cons_self ..))) ?_
      exact ⟨x, List.mem_cons_self .., sameEntry_self x⟩
  · intro entries hentries x hx
    obtain ⟨⟨y, hy, hdate⟩, holder⟩ := h.told entries hentries x hx
    refine ⟨⟨y, List.mem_cons_of_mem _ hy, hdate⟩, fun a ha => ?_⟩
    rcases List.mem_cons.1 ha with rfl | ha
    · exact hdate ▸ hlater y hy
    · exact holder a ha

/-- Deletions leave the rest of the queue where it was. -/
theorem Tracked.delete (h : Tracked key start es w mark)
    {kept : List QueuedMessage} (hkept : kept.Sublist w.queue) :
    Tracked key start (.deleted :: es) { w with queue := kept } mark := by
  refine ⟨h.stored, h.increasing.sublist hkept, ?_, ?_, h.told, h.once⟩
  · intro x hx
    exact h.held x ((hkept.cons_cons mark).subset hx)
  · intro x hx
    exact h.fresh x (hkept.subset hx)

/-- Answers change no date and no identity. -/
theorem Tracked.answer (h : Tracked key start es w mark)
    {queue : List QueuedMessage}
    (hsame : queue.map QueuedMessage.unanswered
      = w.queue.map QueuedMessage.unanswered) :
    Tracked key start (.answered :: es) { w with queue := queue } mark := by
  have htwin : ∀ x ∈ queue, ∃ y ∈ w.queue, y.unanswered = x.unanswered := by
    intro x hx
    have hmem := List.mem_map_of_mem (f := QueuedMessage.unanswered) hx
    rw [hsame] at hmem
    exact List.mem_map.1 hmem
  refine ⟨h.stored, ?_, ?_, ?_, h.told, h.once⟩
  · have hdates : queue.map QueuedMessage.date = w.queue.map QueuedMessage.date := by
      have := congrArg (List.map QueuedMessage.date) hsame
      rw [List.map_map, List.map_map] at this
      exact this
    have hinc := List.pairwise_map.2 h.increasing
    rw [← hdates] at hinc
    exact List.pairwise_map.1 hinc
  · intro x hx
    rcases List.mem_cons.1 hx with rfl | hx
    · exact h.held x (List.mem_cons_self ..)
    · obtain ⟨y, hy, hun⟩ := htwin x hx
      rw [← date_eq_of_unanswered hun]
      exact h.held y (List.mem_cons_of_mem _ hy)
  · intro x hx
    obtain ⟨y, hy, hun⟩ := htwin x hx
    have hfresh := h.fresh y hy
    rw [stops_congr hun] at hfresh
    simp only [QueuedMessage.sameEntry_iff, hun] at hfresh ⊢
    exact hfresh

/-- What a scan of the queue reports is what was appended since the last
successful poll. -/
theorem Tracked.newer_eq (h : Tracked key start es w mark) :
    newer mark w.queue.reverse
      = w.queue.reverse.filter fun x => (sincePoll es).any x.sameEntry := by
  rw [newer_eq_filter h.increasing]
  refine List.filter_congr fun x hx => ?_
  rw [Bool.eq_iff_iff, Bool.not_eq_true', h.fresh x (List.mem_reverse.1 hx),
    List.any_eq_true]

/-- A poll moves the watermark to the newest entry. Where the queue is
empty, it stays where it was. -/
theorem Tracked.noted (h : Tracked key start es w mark) :
    ∃ mark', (w.noted key).watermarks.get? key = some mark'
      ∧ mark' ∈ mark :: w.queue ∧ ∀ x ∈ w.queue, stops mark' x = true := by
  cases hqueue : w.queue with
  | nil =>
      refine ⟨mark, ?_, List.mem_cons_self .., fun x hx => by cases hx⟩
      unfold World.noted
      rw [hqueue]
      exact h.stored
  | cons m rest =>
      obtain ⟨mark', hmem, hstored, hstops⟩ :=
        noted_stops h.increasing (by rw [hqueue]; exact List.cons_ne_nil m rest)
      rw [← hqueue]
      exact ⟨mark', hstored, List.mem_cons_of_mem _ hmem, hstops⟩

/-- A poll that succeeds tells what is new, and nothing twice. -/
theorem Tracked.poll (h : Tracked key start es w mark) :
    ∃ mark', Tracked key start
      (.polled (.new (newer mark w.queue.reverse)) :: es) (w.noted key) mark' := by
  obtain ⟨mark', hstored, hmem, hstops⟩ := h.noted
  -- what is reported is in the queue, and was appended since the last report
  have hnew : ∀ x ∈ newer mark w.queue.reverse,
      x ∈ w.queue ∧ ∃ a ∈ sincePoll es, x.sameEntry a = true := by
    intro x hx
    rw [h.newer_eq, List.mem_filter, List.mem_reverse, List.any_eq_true] at hx
    exact hx
  refine ⟨mark', hstored, ?_, ?_, ?_, ?_, ?_⟩
  · rw [World.queue_noted]
    exact h.increasing
  · rw [World.queue_noted]
    intro x hx
    rcases List.mem_cons.1 hx with rfl | hx
    · exact h.held x hmem
    · exact h.held x (List.mem_cons_of_mem _ hx)
  · rw [World.queue_noted]
    intro x hx
    refine iff_of_false ?_ ?_
    · rw [hstops x hx]
      exact Bool.noConfusion
    · rintro ⟨a, ha, -⟩
      cases ha
  · intro entries hentries x hx
    refine ⟨?_, fun a ha => by cases ha⟩
    rcases List.mem_cons.1 hentries with rfl | hentries
    · exact h.held x (List.mem_cons_of_mem _ (hnew x hx).1)
    · exact (h.told entries hentries x hx).1
  · refine List.pairwise_cons.2 ⟨fun entries hentries x hx y hy => ?_, h.once⟩
    obtain ⟨-, a, ha, hsame⟩ := hnew x hx
    have holder := (h.told entries hentries y hy).2 a ha
    rw [← date_eq_of_sameEntry hsame] at holder
    exact (not_sameEntry_of_lt holder).2

/-- Every event of a history keeps track. -/
theorem History.tracked (hstart : ∃ mark, Tracked key start [] start mark)
    (h : History ε key path start es w) :
    ∃ mark, Tracked key start es w mark := by
  induction h with
  | start => exact hstart
  | append m _ hlater ih =>
      obtain ⟨mark, ih⟩ := ih
      exact ⟨mark, ih.append hlater⟩
  | delete kept _ hkept ih =>
      obtain ⟨mark, ih⟩ := ih
      exact ⟨mark, ih.delete hkept⟩
  | answer queue _ hsame ih =>
      obtain ⟨mark, ih⟩ := ih
      exact ⟨mark, ih.answer hsame⟩
  | poll size _ hpoll ih =>
      obtain ⟨mark, ih⟩ := ih
      rcases poll_ends_of_mark ih.stored hpoll with ⟨⟨e, he⟩, -⟩ | ⟨hr, rfl⟩
      · cases he
      · cases hr
        exact ih.poll
  | fail size _ hpoll ih =>
      obtain ⟨mark, ih⟩ := ih
      rcases poll_ends_of_mark ih.stored hpoll with ⟨-, rfl⟩ | ⟨hr, -⟩
      -- nothing is noted before the last read has succeeded
      · exact ⟨mark, ih.stored, ih.increasing, ih.held, ih.fresh, ih.told, ih.once⟩
      · cases hr

/-- Each entry is reported once. After any history of a key, a poll that
succeeds reports what the queue now holds of the entries appended since the
last successful poll, newest first; no two polls have reported an entry in
common; and none has reported what was there when the key was
established. -/
theorem polls_report_exactly_once {before : World} {size : Nat} {r : Report}
    (hfirst : before.watermarks.get? key = none) (hsome : before.queue ≠ [])
    (hinc : Increasing before.queue)
    (hestablished : Routine.Ends Reads
      (poll size key path : Poll ε (Except ε Report)) before (.ok r) start)
    (hist : History ε key path start es w) :
    (∀ size r w', Routine.Ends Reads
        (poll size key path : Poll ε (Except ε Report)) w (.ok r) w' →
      r = .new (w.queue.reverse.filter fun x => (sincePoll es).any x.sameEntry))
      ∧ (reports es).Pairwise Apart
      ∧ ∀ entries ∈ reports es, Apart entries before.queue := by
  obtain ⟨⟨e, he⟩, -⟩ | ⟨-, rfl⟩ := poll_ends_of_no_mark hfirst hestablished
  · cases he
  obtain ⟨mark, h⟩ := hist.tracked (tracked_start hinc hsome)
  obtain ⟨honce, -, hapart⟩ := List.pairwise_append.1 h.once
  refine ⟨fun size r w' hpoll => ?_, honce, fun entries hentries => ?_⟩
  · rcases poll_ends_of_mark h.stored hpoll with ⟨⟨e, he⟩, -⟩ | ⟨hr, -⟩
    · cases he
    · cases hr
      rw [h.newer_eq]
  · have hstart := hapart entries hentries _ (List.mem_singleton.2 rfl)
    rw [World.queue_noted] at hstart
    exact hstart

end

-- ============================================================= a purge

/-- An entry of a given second. -/
def entryAt (second : Int) : QueuedMessage :=
  { date := ⟨second, 0⟩, severity := 0 }

/-- A queue of two entries that nobody has polled. -/
def twoEntries : World := ⟨[entryAt 1, entryAt 2], .empty⟩

/-- One entry is purged before it is reported; another is reported, and
answered later. -/
def purgeEvents : List Event :=
  [.appended (entryAt 5), .answered, .polled (.new [entryAt 4]),
    .appended (entryAt 4), .deleted, .failed, .appended (entryAt 3)]

/-- What these events leave. -/
def afterPurge : World :=
  ⟨[{ entryAt 4 with replyStatus := some "A" }, entryAt 5],
    (Table.empty.insert ⟨[]⟩ (entryAt 2)).insert ⟨[]⟩ (entryAt 4)⟩

/-- After a purge that takes the watermark with it, and a failed poll, each
poll still reports what is new and no more. -/
theorem polls_report_exactly_once_after_purge :
    (Routine.Ends Reads (poll 1 ⟨[]⟩ "" : Poll Unit (Except Unit Report))
        twoEntries (.ok .initialized) (twoEntries.noted ⟨[]⟩)
      ∧ History Unit ⟨[]⟩ "" (twoEntries.noted ⟨[]⟩) purgeEvents afterPurge)
      ∧ (∀ size r w', Routine.Ends Reads
          (poll size ⟨[]⟩ "" : Poll Unit (Except Unit Report)) afterPurge (.ok r)
          w' → r = .new [entryAt 5])
      ∧ ∀ entries ∈ reports purgeEvents, Apart entries twoEntries.queue := by
  have hfirst : Routine.Ends Reads
      (poll 1 ⟨[]⟩ "" : Poll Unit (Except Unit Report)) twoEntries
      (.ok .initialized) (twoEntries.noted ⟨[]⟩) :=
    Routine.ends_run reads_perform _ _
  have hstart : History Unit ⟨[]⟩ "" (twoEntries.noted ⟨[]⟩) [] _ := .start
  have hadd := hstart.append (entryAt 3) (by decide)
  have hfail := hadd.fail 1
    (.call ⟨rfl, rfl⟩ (.call ⟨.inr ⟨(), rfl⟩, rfl⟩ (.done _ _)))
  have hpurge := hfail.delete [] (List.nil_sublist _)
  have hadd := hpurge.append (entryAt 4) (by decide)
  have hpoll := hadd.poll (r := .new [entryAt 4]) 1
    (Routine.ends_run reads_perform _ _)
  have hanswer := hpoll.answer [{ entryAt 4 with replyStatus := some "A" }] rfl
  have hlast := hanswer.append (entryAt 5) (by decide)
  have hinc : Increasing twoEntries.queue := by
    unfold Increasing
    decide
  obtain ⟨hreports, -, hapart⟩ :=
    polls_report_exactly_once rfl (by decide) hinc hfirst hlast
  exact ⟨⟨hfirst, hlast⟩, hreports, hapart⟩

end CheckGateway.Tail
