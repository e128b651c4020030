/-
Polls of a queue that is purged, where entries may share a date.

The watermark of a key tells what has been reported from what has not, as long
as it is there to stop the scan. Once it has been deleted, a scan stops at the
first entry that is older. Entries of its very date are not older: those that
were there at the last poll are taken for new ones.

# The argument

`Divided` follows the queue through appends, deletions and polls. What was
there at the last poll comes first, and the watermark is the last of it, if it
is still there; what has been appended since comes after, and none of it stops
a scan. So a poll reports all that has been appended and then, once the
watermark has gone, the entries of its date (`Divided.newer_eq`).
-/
import CheckGateway.Proofs.Tail.Paging
import CheckGateway.Proofs.Tail.ExactlyOnce
import CheckGateway.Proofs.Time.Scale

namespace CheckGateway.Tail

/-- Later entries have no earlier dates. -/
def Ordered (queue : List QueuedMessage) : Prop :=
  queue.Pairwise fun a b => a.date ≤ b.date

/-- No two entries are the same entry. -/
def Distinct (queue : List QueuedMessage) : Prop :=
  queue.Pairwise fun a b => a.sameEntry b = false

instance (queue : List QueuedMessage) : Decidable (Ordered queue) :=
  inferInstanceAs (Decidable (List.Pairwise ..))

instance (queue : List QueuedMessage) : Decidable (Distinct queue) :=
  inferInstanceAs (Decidable (List.Pairwise ..))

/-- The runs of an established key over a queue whose dates do not go back:
all that the queue has held, what it held at the last poll, and the world that
the run leads to. -/
inductive Purging (ε : Type) (key : WatermarkKey) (path : String) :
    List QueuedMessage → List QueuedMessage → World → Prop where
  | established {w : World} (hsome : w.queue ≠ []) (hordered : Ordered w.queue)
      (hdistinct : Distinct w.queue) : Purging ε key path w.queue w.queue (w.noted key)
  | append {held seen : List QueuedMessage} {w : World} (m : QueuedMessage)
      (h : Purging ε key path held seen w)
      (hnew : ∀ x ∈ held, x.date ≤ m.date ∧ x.sameEntry m = false) :
      Purging ε key path (m :: held) seen { w with queue := w.queue ++ [m] }
  | delete {held seen : List QueuedMessage} {w : World} (kept : List QueuedMessage)
      (h : Purging ε key path held seen w) (hkept : kept.Sublist w.queue) :
      Purging ε key path held seen { w with queue := kept }
  | poll {held seen : List QueuedMessage} {w w' : World} {r : Report} (size : Nat)
      (h : Purging ε key path held seen w)
      (hpoll : Routine.Ends Reads
        (poll size key path : Poll ε (Except ε Report)) w (.ok r) w') :
      Purging ε key path held w.queue w'

-- ========================================================= the invariant

/-- What a queue is made of after a run. -/
structure Divided (key : WatermarkKey) (held seen : List QueuedMessage) (w : World)
    (mark : QueuedMessage) (stayed fresh : List QueuedMessage) : Prop where
  stored : w.watermarks.get? key = some mark
  queue : w.queue = stayed ++ fresh
  ordered : Ordered w.queue
  distinct : Distinct w.queue
  held : ∀ x, x = mark ∨ x ∈ w.queue ∨ x ∈ seen → x ∈ held
  /-- Of what was there at the last poll, the watermark was the last. -/
  old : ∃ before, stayed.Sublist (before ++ [mark])
    ∧ ∀ x ∈ before, x.date ≤ mark.date ∧ x.sameEntry mark = false
  told : ∀ x ∈ stayed, x ∈ seen
  new : ∀ x ∈ fresh, mark.date ≤ x.date ∧ mark.sameEntry x = false ∧ x ∉ seen

theorem sameEntry_comm (a b : QueuedMessage) : a.sameEntry b = b.sameEntry a := by
  rw [Bool.eq_iff_iff, QueuedMessage.sameEntry_iff, QueuedMessage.sameEntry_iff]
  exact eq_comm

section

variable {ε : Type} {key : WatermarkKey} {path : String} {w w' : World}
  {held seen stayed fresh : List QueuedMessage} {mark m : QueuedMessage}

/-- After a poll the queue is what was there at the last poll, and its newest
entry is the watermark. -/
theorem divided_noted (key : WatermarkKey) (hordered : Ordered w.queue)
    (hdistinct : Distinct w.queue)
    (hheld : ∀ x ∈ w.queue, x ∈ held) (hsome : w.queue ≠ []) :
    ∃ mark, Divided key held w.queue (w.noted key) mark w.queue [] := by
  obtain ⟨before, mark, hqueue⟩ := List.eq_nil_or_concat w.queue |>.resolve_left hsome
  rw [List.concat_eq_append] at hqueue
  have hstored : (w.noted key).watermarks.get? key = some mark := by
    simp [World.noted, hqueue, Table.get?_insert]
  have hmark : mark ∈ w.queue := by simp [hqueue]
  refine ⟨mark, hstored, ?_, ?_, ?_, ?_, ⟨before, ?_, ?_⟩, fun x hx => hx,
    List.forall_mem_nil _⟩
  · rw [World.queue_noted, List.append_nil]
  · rwa [World.queue_noted]
  · rwa [World.queue_noted]
  · rw [World.queue_noted]
    rintro x (rfl | hx | hx)
    · exact hheld x hmark
    · exact hheld x hx
    · exact hheld x hx
  · rw [hqueue]
  · rw [Ordered, hqueue] at hordered
    rw [Distinct, hqueue] at hdistinct
    intro x hx
    exact ⟨(List.pairwise_append.1 hordered).2.2 x hx mark (List.mem_singleton_self _),
      (List.pairwise_append.1 hdistinct).2.2 x hx mark (List.mem_singleton_self _)⟩

/-- An appended entry is none that the queue has held, and no older than any
of them. -/
theorem Divided.append (h : Divided key held seen w mark stayed fresh)
    (hnew : ∀ x ∈ held, x.date ≤ m.date ∧ x.sameEntry m = false) :
    Divided key (m :: held) seen { w with queue := w.queue ++ [m] } mark stayed
      (fresh ++ [m]) := by
  have hqueue : ∀ x ∈ w.queue, ∀ y ∈ [m], x.date ≤ y.date ∧ x.sameEntry y = false := by
    intro x hx y hy
    rw [List.mem_singleton.1 hy]
    exact hnew x (h.held x (.inr (.inl hx)))
  refine ⟨h.stored, ?_, ?_, ?_, ?_, h.old, h.told, ?_⟩
  · show w.queue ++ [m] = _
    rw [h.queue, List.append_assoc]
  · exact List.pairwise_append.2
      ⟨h.ordered, List.pairwise_singleton .., fun x hx y hy => (hqueue x hx y hy).1⟩
  · exact List.pairwise_append.2
      ⟨h.distinct, List.pairwise_singleton .., fun x hx y hy => (hqueue x hx y hy).2⟩
  · intro x hx
    rw [List.mem_append, List.mem_singleton] at hx
    by_cases hxm : x = m
    · exact hxm ▸ List.mem_cons_self ..
    · exact List.mem_cons_of_mem _ (h.held x (by tauto))
  · intro x hx
    rcases List.mem_append.1 hx with hx | hx
    · exact h.new x hx
    · obtain rfl := List.mem_singleton.1 hx
      obtain ⟨hdate, hother⟩ := hnew mark (h.held mark (.inl rfl))
      refine ⟨hdate, hother, fun hseen => ?_⟩
      have hself := (hnew x (h.held x (.inr (.inr hseen)))).2
      rw [sameEntry_self] at hself
      cases hself

/-- What is deleted may come from either part. -/
theorem Divided.delete (h : Divided key held seen w mark stayed fresh)
    {kept : List QueuedMessage} (hkept : kept.Sublist w.queue) :
    ∃ stayed' fresh',
      Divided key held seen { w with queue := kept } mark stayed' fresh' := by
  have hparts := hkept
  rw [h.queue] at hparts
  obtain ⟨stayed', fresh', hsplit, hstayed, hfresh⟩ := List.sublist_append_iff.1 hparts
  obtain ⟨before, hbefore, hmark⟩ := h.old
  refine ⟨stayed', fresh', h.stored, hsplit, h.ordered.sublist hkept,
    h.distinct.sublist hkept, fun x hx => h.held x ?_, ⟨before, hstayed.trans hbefore, hmark⟩,
    fun x hx => h.told x (hstayed.subset hx), fun x hx => h.new x (hfresh.subset hx)⟩
  exact hx.imp_right (Or.imp_left fun hx => hkept.subset hx)

/-- A poll divides the queue anew. One of an empty queue leaves the watermark
that there was. -/
theorem Divided.poll (h : Divided key held seen w mark stayed fresh) :
    ∃ mark' stayed' fresh', Divided key held w.queue (w.noted key) mark' stayed' fresh' := by
  by_cases hsome : w.queue = []
  · have hsame : w.noted key = w := by simp [World.noted, hsome]
    rw [hsame]
    refine ⟨mark, [], [], h.stored, hsome, h.ordered, h.distinct, fun x hx => h.held x ?_,
      ⟨[], List.nil_sublist _, List.forall_mem_nil _⟩, List.forall_mem_nil _,
      List.forall_mem_nil _⟩
    exact hx.imp_right fun hx => .inl (hx.elim id id)
  · obtain ⟨mark', hmark'⟩ := divided_noted key h.ordered h.distinct
      (fun x hx => h.held x (.inr (.inl hx))) hsome
    exact ⟨mark', _, _, hmark'⟩

/-- The queue of every run is divided. -/
theorem Purging.divided (h : Purging ε key path held seen w) :
    ∃ mark stayed fresh, Divided key held seen w mark stayed fresh := by
  induction h with
  | established hsome hordered hdistinct =>
      obtain ⟨mark, hmark⟩ := divided_noted key hordered hdistinct
        (fun x hx => hx) hsome
      exact ⟨mark, _, _, hmark⟩
  | append m _ hnew ih =>
      obtain ⟨mark, stayed, fresh, h⟩ := ih
      exact ⟨mark, stayed, _, h.append hnew⟩
  | delete kept _ hkept ih =>
      obtain ⟨mark, stayed, fresh, h⟩ := ih
      exact ⟨mark, h.delete hkept⟩
  | poll size _ hpoll ih =>
      obtain ⟨mark, stayed, fresh, h⟩ := ih
      obtain ⟨⟨e, he⟩, -⟩ | ⟨-, rfl⟩ := poll_ends_of_mark h.stored hpoll
      · cases he
      · exact h.poll

-- ====================================================== what is reported

/-- What was there at the last poll and is reported once more: while the
watermark is there, nothing, and then the entries of its date. -/
def toldAgain (mark : QueuedMessage) (seen queue : List QueuedMessage) :
    List QueuedMessage :=
  if mark ∈ queue then []
  else queue.reverse.filter fun x => x ∈ seen ∧ x.date = mark.date

/-- Where the watermark has gone, a scan takes the entries of its date for new
ones. -/
theorem newer_of_mark_gone
    (hordered : Ordered stayed)
    (holder : ∀ x ∈ stayed, x.date ≤ mark.date ∧ x.sameEntry mark = false) :
    newer mark stayed.reverse = stayed.reverse.filter fun x => x.date = mark.date := by
  have hgo : ∀ x ∈ stayed, (!stops mark x) = decide (x.date = mark.date) := by
    intro x hx
    obtain ⟨hdate, hother⟩ := holder x hx
    rw [Bool.eq_iff_iff, Bool.not_eq_true', ← Bool.not_eq_true, stops_iff, hother,
      decide_eq_true_eq]
    constructor
    · exact fun h => Timestamp.le_antisymm hdate fun hlt => h (.inr hlt)
    · rintro hsame (hfalse | hlt)
      · cases hfalse
      · exact Timestamp.ne_of_lt hlt hsame
  have hdown : stayed.reverse.Pairwise fun a b =>
      (!stops mark b) = true → (!stops mark a) = true := by
    refine (List.pairwise_reverse.2 hordered).imp_of_mem fun {a b} ha hb hle => ?_
    rw [List.mem_reverse] at ha hb
    rw [hgo a ha, hgo b hb, decide_eq_true_eq, decide_eq_true_eq]
    exact fun hb => Timestamp.le_antisymm (holder a ha).1 (hb ▸ hle)
  unfold newer
  rw [takeWhile_eq_filter hdown]
  exact List.filter_congr fun x hx => hgo x (List.mem_reverse.1 hx)

/-- What has been appended since the last poll, newest first. -/
theorem Divided.filter_new (h : Divided key held seen w mark stayed fresh) :
    (w.queue.reverse.filter fun x => x ∉ seen) = fresh.reverse := by
  have hfresh : (fresh.reverse.filter fun x => x ∉ seen) = fresh.reverse := by
    refine List.filter_eq_self.2 fun x hx => decide_eq_true ?_
    exact (h.new x (List.mem_reverse.1 hx)).2.2
  have hstayed : (stayed.reverse.filter fun x => x ∉ seen) = [] := by
    refine List.filter_eq_nil_iff.2 fun x hx => ?_
    simp [h.told x (List.mem_reverse.1 hx)]
  rw [h.queue, List.reverse_append, List.filter_append, hfresh, hstayed, List.append_nil]

/-- What has stayed since the last poll, newest first. -/
theorem Divided.filter_seen (h : Divided key held seen w mark stayed fresh)
    (p : QueuedMessage → Prop) [DecidablePred p] :
    (w.queue.reverse.filter fun x => x ∈ seen ∧ p x) = stayed.reverse.filter p := by
  have hfresh : (fresh.reverse.filter fun x => x ∈ seen ∧ p x) = [] := by
    refine List.filter_eq_nil_iff.2 fun x hx => ?_
    simp [(h.new x (List.mem_reverse.1 hx)).2.2]
  have hstayed : (stayed.reverse.filter fun x => x ∈ seen ∧ p x) = stayed.reverse.filter p := by
    refine List.filter_congr fun x hx => ?_
    simp [h.told x (List.mem_reverse.1 hx)]
  rw [h.queue, List.reverse_append, List.filter_append, hfresh, hstayed, List.nil_append]

/-- The watermark is the last of what has stayed, or it has gone. -/
theorem Divided.mark_cases (h : Divided key held seen w mark stayed fresh) :
    (mark ∈ w.queue ∧ ∃ before, stayed = before ++ [mark])
      ∨ (mark ∉ w.queue ∧ ∀ x ∈ stayed, x.date ≤ mark.date ∧ x.sameEntry mark = false) := by
  obtain ⟨before, hsub, hbefore⟩ := h.old
  obtain ⟨before', last, rfl, hbefore', hlast⟩ := List.sublist_append_iff.1 hsub
  obtain rfl | rfl : last = [] ∨ last = [mark] := List.sublist_singleton.1 hlast
  · rw [List.append_nil] at h ⊢
    have hother : ∀ x ∈ before', x.date ≤ mark.date ∧ x.sameEntry mark = false :=
      fun x hx => hbefore x (hbefore'.subset hx)
    refine .inr ⟨fun hmark => ?_, hother⟩
    have hself := sameEntry_self mark
    rw [h.queue] at hmark
    obtain hmark | hmark := List.mem_append.1 hmark
    · rw [(hother mark hmark).2] at hself
      cases hself
    · rw [(h.new mark hmark).2.1] at hself
      cases hself
  · refine .inl ⟨?_, before', rfl⟩
    simp [h.queue]

/-- What a scan of the queue reports: all that was appended since the last
poll, and what it tells again. -/
theorem Divided.newer_eq (h : Divided key held seen w mark stayed fresh) :
    newer mark w.queue.reverse
      = (w.queue.reverse.filter fun x => x ∉ seen) ++ toldAgain mark seen w.queue := by
  have hfresh : fresh.reverse.any (stops mark) = false := by
    refine not_any_stops fun x hx => ?_
    obtain ⟨hdate, hother, -⟩ := h.new x (List.mem_reverse.1 hx)
    exact ⟨hdate, sameEntry_comm mark x ▸ hother⟩
  have hagain : newer mark stayed.reverse = toldAgain mark seen w.queue := by
    unfold toldAgain
    obtain ⟨hstays, before, rfl⟩ | ⟨hgone, hother⟩ := h.mark_cases
    · rw [if_pos hstays, List.reverse_append]
      show newer mark ([] ++ mark :: before.reverse) = []
      exact newer_before_mark rfl
    · have hordered : Ordered stayed := by
        have hboth := h.ordered
        rw [h.queue] at hboth
        exact (List.pairwise_append.1 hboth).1
      rw [if_neg hgone, h.filter_seen, newer_of_mark_gone hordered hother]
  calc newer mark w.queue.reverse
      = newer mark (fresh.reverse ++ stayed.reverse) := by
        rw [h.queue, List.reverse_append]
    _ = fresh.reverse ++ newer mark stayed.reverse := newer_append_of_not_stop hfresh
    _ = _ := by rw [h.filter_new, hagain]

theorem mem_toldAgain {x : QueuedMessage} {queue : List QueuedMessage} :
    x ∈ toldAgain mark seen queue ↔
      mark ∉ queue ∧ x ∈ queue ∧ x ∈ seen ∧ x.date = mark.date := by
  unfold toldAgain
  split
  next h => simp [h]
  next h => simp [h]

/-- What a poll of a purged queue reports. All that has been appended since the
last poll and is still there is reported, newest first. If the watermark has
been deleted, the entries of its date that were there at the last poll are
reported after it, once more; they are all that is, and while the watermark is
there, there are none. -/
theorem purged_watermark_repeats_its_date (h : Purging ε key path held seen w) {size : Nat}
    {r : Report}
    (hpoll : Routine.Ends Reads
      (poll size key path : Poll ε (Except ε Report)) w (.ok r) w') :
    ∃ mark entries, w.watermarks.get? key = some mark ∧ r = .new entries
      ∧ entries = (w.queue.reverse.filter fun x => x ∉ seen) ++ toldAgain mark seen w.queue
      ∧ ∀ x, x ∈ entries ∧ x ∈ seen ↔
          mark ∉ w.queue ∧ x ∈ w.queue ∧ x ∈ seen ∧ x.date = mark.date := by
  obtain ⟨mark, stayed, fresh, hdivided⟩ := h.divided
  obtain ⟨⟨e, he⟩, -⟩ | ⟨hr, -⟩ := poll_ends_of_mark hdivided.stored hpoll
  · cases he
  · cases hr
    refine ⟨mark, _, hdivided.stored, rfl, hdivided.newer_eq, fun x => ?_⟩
    rw [hdivided.newer_eq, List.mem_append, mem_toldAgain, List.mem_filter, decide_eq_true_eq]
    tauto

end

-- ======================================================= one date for two

/-- Two entries of one second. -/
def sameSecond : World := ⟨[entryOf 2 10, entryOf 2 20], .empty⟩

/-- The key has been established, and the watermark deleted. -/
def sameSecondPurged : World := { sameSecond.noted ⟨[]⟩ with queue := [entryOf 2 10] }

theorem purging_sameSecond :
    Purging Unit ⟨[]⟩ "" sameSecond.queue sameSecond.queue sameSecondPurged := by
  have hstart : Purging Unit ⟨[]⟩ "" sameSecond.queue sameSecond.queue (sameSecond.noted ⟨[]⟩) :=
    .established (by decide) (by decide) (by decide)
  exact hstart.delete [entryOf 2 10] (by decide)

theorem poll_sameSecondPurged :
    Routine.Ends Reads (poll 1 ⟨[]⟩ "" : Poll Unit (Except Unit Report)) sameSecondPurged
      (.ok (.new [entryOf 2 10])) (sameSecondPurged.noted ⟨[]⟩) :=
  Routine.ends_run reads_perform _ _

/-- The watermark had been the second of them, and the first is told again. -/
theorem purged_watermark_repeats_its_date_of_same_second :
    (Purging Unit ⟨[]⟩ "" sameSecond.queue sameSecond.queue sameSecondPurged
        ∧ Routine.Ends Reads (poll 1 ⟨[]⟩ "" : Poll Unit (Except Unit Report)) sameSecondPurged
          (.ok (.new [entryOf 2 10])) (sameSecondPurged.noted ⟨[]⟩))
      ∧ sameSecondPurged.watermarks.get? ⟨[]⟩ = some (entryOf 2 20)
      ∧ entryOf 2 20 ∉ sameSecondPurged.queue
      ∧ toldAgain (entryOf 2 20) sameSecond.queue sameSecondPurged.queue = [entryOf 2 10] := by
  refine ⟨⟨purging_sameSecond, poll_sameSecondPurged⟩, ?_⟩
  obtain ⟨mark, entries, hmark, hentries, -, hagain⟩ :=
    purged_watermark_repeats_its_date purging_sameSecond poll_sameSecondPurged
  cases hentries
  have hstored : sameSecondPurged.watermarks.get? ⟨[]⟩ = some (entryOf 2 20) := by decide
  obtain rfl : entryOf 2 20 = mark := Option.some.inj (hstored.symm.trans hmark)
  have hgone := ((hagain (entryOf 2 10)).1 (by decide)).1
  exact ⟨hstored, hgone, by decide⟩

/-- An entry that a key was established with is reported by a later poll, once
the watermark, which had the same date, has been deleted. -/
theorem purge_causes_a_second_report :
    ∃ w w' entries, Purging Unit ⟨[]⟩ "" sameSecond.queue sameSecond.queue w
      ∧ Routine.Ends Reads (poll 1 ⟨[]⟩ "" : Poll Unit (Except Unit Report)) w
        (.ok (.new entries)) w'
      ∧ ∃ x ∈ entries, x ∈ sameSecond.queue :=
  ⟨sameSecondPurged, _, [entryOf 2 10], purging_sameSecond, poll_sameSecondPurged,
    entryOf 2 10, by decide⟩

end CheckGateway.Tail
