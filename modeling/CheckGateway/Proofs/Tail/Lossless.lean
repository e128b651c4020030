/-
What a key reports from its very first poll on, over a queue that is only
appended to.

A poll that finds an entry makes the newest one the watermark. A poll of an
empty queue has nothing to make a watermark of: it defers the watermark, and
the next poll is a first poll again. So a key starts with the first poll that
finds an entry. Polls up to this one answer that they have initialized, and
nothing that is appended after it is lost: the next poll reports it, and no
other one does. What is appended between a poll of an empty queue and the next
poll is taken for what was there before.

# The argument

Only entries are appended, so the queue, read newest first, is what has been
appended since the last poll, then the watermark, then what is older.
`Established` says so, and a poll that reads it back reports exactly what has
been appended since the last poll (`Standing.report`). Each appended entry is
therefore waiting for the next poll, or has been reported once, and never both:
`waiting_or_reported` follows it through the later events.
-/
import CheckGateway.Proofs.Tail.ExactlyOnce

namespace CheckGateway.Tail

/-- Polls that succeed, and entries that are appended; nothing else happens. -/
def AppendOnly (es : List Event) : Prop :=
  ∀ e ∈ es, (∃ m, e = .appended m) ∨ ∃ r, e = .polled r

/-- A poll has found an entry in a queue that is only appended to. -/
def foundBy (queue : List QueuedMessage) : List Event → Bool
  | [] => false
  | .polled _ :: es => foundBy queue es || !(everHeld queue es).isEmpty
  | _ :: es => foundBy queue es

/-- What was appended since the last poll comes first, then the watermark. -/
def Established (key : WatermarkKey) (es : List Event) (w : World) : Prop :=
  ∃ mark older, w.watermarks.get? key = some mark
    ∧ w.queue.reverse = sincePoll es ++ mark :: older

/-- Where a key stands after a history of appends and polls. -/
structure Standing (key : WatermarkKey) (start : World) (es : List Event) (w : World) :
    Prop where
  increasing : Increasing w.queue
  /-- Nothing that it held has gone from the queue. -/
  held : ∀ x, x ∈ everHeld start.queue es ↔ x ∈ w.queue
  established : foundBy start.queue es = true → Established key es w
  deferred : foundBy start.queue es = false → w.watermarks.get? key = none

section

variable {ε : Type} {key : WatermarkKey} {path : String} {start w w' : World}
  {es later earlier : List Event} {m : QueuedMessage} {r : Report}

-- ============================================================ each event

theorem AppendOnly.of_cons {e : Event} (h : AppendOnly (e :: es)) : AppendOnly es :=
  fun e' he' => h e' (List.mem_cons_of_mem _ he')

theorem AppendOnly.head {e : Event} (h : AppendOnly (e :: es)) :
    (∃ m, e = .appended m) ∨ ∃ r, e = .polled r :=
  h e (List.mem_cons_self ..)

theorem AppendOnly.of_append (h : AppendOnly (later ++ es)) : AppendOnly es :=
  fun e he => h e (List.mem_append_right _ he)

/-- Before its first poll a key has no watermark. -/
theorem standing_start (hinc : Increasing start.queue)
    (hfirst : start.watermarks.get? key = none) : Standing key start [] start := by
  refine ⟨hinc, fun x => Iff.rfl, fun hfound => ?_, fun _ => hfirst⟩
  cases hfound

/-- An appended entry waits for the next poll. -/
theorem Standing.append (h : Standing key start es w)
    (hlater : ∀ x ∈ everHeld start.queue es, x.date < m.date) :
    Standing key start (.appended m :: es) { w with queue := w.queue ++ [m] } := by
  refine ⟨?_, fun x => ?_, fun hfound => ?_, h.deferred⟩
  · refine List.pairwise_append.2 ⟨h.increasing, List.pairwise_singleton .., ?_⟩
    intro x hx y hy
    rw [List.mem_singleton.1 hy]
    exact hlater x ((h.held x).2 hx)
  · simp [everHeld, h.held, or_comm]
  · obtain ⟨mark, older, hmark, hqueue⟩ := h.established hfound
    refine ⟨mark, older, hmark, ?_⟩
    simp [sincePoll, hqueue]

/-- What has been appended since the last poll is what a scan of the queue
reports. -/
theorem newer_of_established {mark : QueuedMessage} {fresh older : List QueuedMessage}
    (hdec : (fresh ++ mark :: older).Pairwise fun a b => b.date < a.date) :
    newer mark (fresh ++ mark :: older) = fresh := by
  obtain ⟨-, -, hlater⟩ := List.pairwise_append.1 hdec
  have hgo : fresh.any (stops mark) = false := by
    rw [List.any_eq_false]
    intro x hx
    simp [not_stops_of_lt (hlater x hx mark (List.mem_cons_self ..))]
  exact newer_before_mark hgo

/-- A poll reports what has been appended since the last one, once a poll has
found an entry. Until then it initializes. -/
theorem Standing.report (h : Standing key start es w) {size : Nat}
    (hpoll : Routine.Ends Reads (poll size key path : Poll ε (Except ε Report)) w (.ok r) w') :
    r = (if foundBy start.queue es then .new (sincePoll es) else .initialized)
      ∧ w' = w.noted key := by
  cases hfound : foundBy start.queue es with
  | true =>
      obtain ⟨mark, older, hmark, hqueue⟩ := h.established hfound
      have hdec := List.pairwise_reverse.2 h.increasing
      rw [hqueue] at hdec
      obtain ⟨⟨e, he⟩, -⟩ | ⟨hr, hw⟩ := poll_ends_of_mark hmark hpoll
      · cases he
      · rw [hqueue, newer_of_established hdec] at hr
        cases hr
        exact ⟨rfl, hw⟩
  | false =>
      obtain ⟨⟨e, he⟩, -⟩ | ⟨hr, hw⟩ := poll_ends_of_no_mark (h.deferred hfound) hpoll
      · cases he
      · cases hr
        exact ⟨rfl, hw⟩

/-- The last poll finds an entry exactly if the queue has one, or one found an
entry before it. -/
theorem Standing.foundBy_polled (h : Standing key start es w) :
    foundBy start.queue (.polled r :: es) = true ↔ w.queue ≠ [] := by
  have hheld : everHeld start.queue es = [] ↔ w.queue = [] := by
    simp only [List.eq_nil_iff_forall_not_mem, h.held]
  simp only [foundBy, Bool.or_eq_true, Bool.not_eq_true', List.isEmpty_eq_false_iff, ne_eq, hheld]
  constructor
  · intro hfound
    obtain hfound | hsome := hfound
    · obtain ⟨mark, older, -, hqueue⟩ := h.established hfound
      intro hnil
      rw [hnil] at hqueue
      simp at hqueue
    · exact hsome
  · exact .inr

/-- A poll makes the newest entry the watermark, and nothing is waiting then. -/
theorem Standing.poll (h : Standing key start es w) :
    Standing key start (.polled r :: es) (w.noted key) := by
  refine ⟨?_, fun x => ?_, fun hfound => ?_, fun hfound => ?_⟩
  · rw [World.queue_noted]
    exact h.increasing
  · rw [World.queue_noted]
    exact h.held x
  · rw [h.foundBy_polled] at hfound
    cases hqueue : w.queue.reverse with
    | nil => exact absurd (List.reverse_eq_nil_iff.1 hqueue) hfound
    | cons newest older =>
        refine ⟨newest, older, ?_, ?_⟩
        · simp [World.noted, hqueue, Table.get?_insert]
        · rw [World.queue_noted, hqueue]
          rfl
  · have hnil : w.queue = [] := by
      cases hqueue : w.queue with
      | nil => rfl
      | cons m rest =>
          rw [h.foundBy_polled.2 (by simp [hqueue])] at hfound
          cases hfound
    have hbefore : foundBy start.queue es = false := by
      rw [foundBy, Bool.or_eq_false_iff] at hfound
      exact hfound.1
    have hsame : w.noted key = w := by simp [World.noted, hnil]
    rw [hsame]
    exact h.deferred hbefore

-- ======================================================== whole histories

/-- Every history of appends and polls leaves a key where it should stand. -/
theorem History.standing (hinc : Increasing start.queue)
    (hfirst : start.watermarks.get? key = none)
    (h : History ε key path start es w) (hes : AppendOnly es) : Standing key start es w := by
  induction h with
  | start => exact standing_start hinc hfirst
  | append m _ hlater ih => exact (ih hes.of_cons).append hlater
  | poll size _ hpoll ih =>
      have hbefore := ih hes.of_cons
      obtain ⟨-, rfl⟩ := hbefore.report hpoll
      exact hbefore.poll
  -- nothing else happens
  | delete | answer | fail => exact absurd hes.head (by simp)

/-- What came before an event of a history is a history. -/
theorem History.of_append (h : History ε key path start (later ++ es) w) :
    ∃ w', History ε key path start es w' := by
  induction later generalizing w with
  | nil => exact ⟨w, h⟩
  | cons e later ih =>
      cases h with
      | append _ h _ => exact ih h
      | delete _ h _ => exact ih h
      | answer _ h _ => exact ih h
      | poll _ h _ => exact ih h
      | fail _ h _ => exact ih h

/-- What each poll of a history reports. -/
theorem History.report (hinc : Increasing start.queue)
    (hfirst : start.watermarks.get? key = none)
    (h : History ε key path start (later ++ .polled r :: earlier) w)
    (hes : AppendOnly (later ++ .polled r :: earlier)) :
    r = if foundBy start.queue earlier then .new (sincePoll earlier) else .initialized := by
  obtain ⟨w', h⟩ := h.of_append
  cases h with
  | poll size h hpoll =>
      have hbefore := h.standing hinc hfirst hes.of_append.of_cons
      exact (hbefore.report hpoll).1

-- ====================================================== an appended entry

/-- Once an entry has been found, it stays so. -/
theorem foundBy_append {queue : List QueuedMessage} (h : foundBy queue es = true) :
    foundBy queue (later ++ es) = true := by
  induction later with
  | nil => exact h
  | cons e later ih => cases e <;> simp [foundBy, ih]

theorem everHeld_append {queue : List QueuedMessage} (h : m ∈ everHeld queue es) :
    m ∈ everHeld queue (later ++ es) := by
  induction later with
  | nil => exact h
  | cons e later ih => cases e <;> simp [everHeld, ih]

theorem everHeld_of_sincePoll {queue : List QueuedMessage} (h : m ∈ sincePoll es) :
    m ∈ everHeld queue es := by
  induction es with
  | nil => cases h
  | cons e es ih =>
      cases e with
      | appended x =>
          obtain rfl | h := List.mem_cons.1 h
          · exact List.mem_cons_self ..
          · exact List.mem_cons_of_mem _ (ih h)
      | deleted | answered | failed => exact ih h
      | polled r => cases h

/-- Only what the queue has held is reported. -/
theorem History.everHeld_of_reported (hinc : Increasing start.queue)
    (hfirst : start.watermarks.get? key = none)
    (h : History ε key path start es w) (hes : AppendOnly es)
    (hm : m ∈ (reports es).flatten) : m ∈ everHeld start.queue es := by
  induction h with
  | start => cases hm
  | append x _ _ ih => exact List.mem_cons_of_mem _ (ih hes.of_cons hm)
  | poll size h hpoll ih =>
      obtain ⟨hr, -⟩ := (h.standing hinc hfirst hes.of_cons).report hpoll
      subst hr
      simp only [everHeld]
      split at hm
      · simp only [reports, List.flatten_cons, List.mem_append] at hm
        obtain hm | hm := hm
        · exact everHeld_of_sincePoll hm
        · exact ih hes.of_cons hm
      · exact ih hes.of_cons hm
  | delete | answer | fail => exact absurd hes.head (by simp)

/-- An entry that is appended to an established key is waiting for the next
poll, or one poll has reported it. Once there has been a poll, it is not
waiting any more. -/
theorem History.waiting_or_reported (hinc : Increasing start.queue)
    (hfirst : start.watermarks.get? key = none)
    (h : History ε key path start (later ++ .appended m :: earlier) w)
    (hes : AppendOnly (later ++ .appended m :: earlier))
    (hfound : foundBy start.queue earlier = true) :
    (sincePoll (later ++ .appended m :: earlier)).count m + (reports later).flatten.count m = 1
      ∧ ((∃ r, .polled r ∈ later) → m ∉ sincePoll (later ++ .appended m :: earlier)) := by
  induction later generalizing w with
  | nil =>
      cases h with
      | append _ _ hlater =>
          have hnew : m ∉ sincePoll earlier := fun hm =>
            Timestamp.lt_irrefl _ (hlater m (everHeld_of_sincePoll hm))
          constructor
          · simp [sincePoll, reports, List.count_eq_zero_of_not_mem hnew]
          · simp
  | cons e later ih =>
      have hsince := fun w' (h : History ε key path start _ w') => ih h hes.of_cons
      cases h with
      | append x h hlater =>
          obtain ⟨hcount, hwaits⟩ := hsince _ h
          have hother : x ≠ m := by
            intro heq
            have hheld : m ∈ everHeld start.queue (.appended m :: earlier) :=
              List.mem_cons_self ..
            have hlt := hlater m (everHeld_append hheld)
            rw [heq] at hlt
            exact Timestamp.lt_irrefl _ hlt
          constructor
          · simpa [sincePoll, reports, List.count_cons_of_ne hother] using hcount
          · intro hpolled
            simp only [List.mem_cons, reduceCtorEq, false_or] at hpolled
            simp [sincePoll, hother.symm, hwaits hpolled]
      | @poll _ w₁ _ r size h hpoll =>
          replace h : History ε key path start (later ++ .appended m :: earlier) w₁ := h
          obtain ⟨hcount, -⟩ := hsince _ h
          obtain ⟨hr, -⟩ := (h.standing hinc hfirst hes.of_cons).report hpoll
          have hstays : foundBy start.queue (later ++ .appended m :: earlier) = true :=
            foundBy_append hfound
          rw [if_pos hstays] at hr
          subst hr
          constructor
          · simpa [sincePoll, reports] using hcount
          · simp [sincePoll]
      | delete | answer | fail => exact absurd hes.head (by simp)

/-- Nothing is lost once a key is established. Over a queue that is only
appended to, exactly the polls up to the first one that finds an entry answer
that they have initialized; and what is appended after that one, with another
poll still to come, is reported by one later poll, once, and by no earlier
one. -/
theorem nothing_lost_once_established (hinc : Increasing start.queue)
    (hfirst : start.watermarks.get? key = none)
    (h : History ε key path start es w) (hes : AppendOnly es) :
    (∀ later r earlier, es = later ++ .polled r :: earlier →
        (r = .initialized ↔ foundBy start.queue earlier = false))
      ∧ ∀ later m earlier, es = later ++ .appended m :: earlier →
        foundBy start.queue earlier = true → (∃ r, .polled r ∈ later) →
          (reports later).flatten.count m = 1 ∧ m ∉ (reports earlier).flatten := by
  constructor
  · intro later r earlier hsplit
    subst hsplit
    rw [h.report hinc hfirst hes]
    cases foundBy start.queue earlier <;> simp
  · intro later m earlier hsplit hfound hpolled
    subst hsplit
    obtain ⟨hcount, hwaits⟩ := h.waiting_or_reported hinc hfirst hes hfound
    refine ⟨?_, fun hm => ?_⟩
    · simpa [List.count_eq_zero_of_not_mem (hwaits hpolled)] using hcount
    · obtain ⟨w', h⟩ := h.of_append
      cases h with
      | append _ h hlater =>
          have hheld := h.everHeld_of_reported hinc hfirst hes.of_append.of_cons hm
          exact Timestamp.lt_irrefl _ (hlater m hheld)

end

-- ======================================================= a deferred start

/-- Three polls of a queue that is empty at first. -/
def deferredEvents : List Event :=
  [.polled (.new [entryAt 2]), .appended (entryAt 2), .polled .initialized,
    .appended (entryAt 1), .polled .initialized]

/-- What they leave. -/
def afterDeferred : World :=
  ⟨[entryAt 1, entryAt 2],
    (Table.empty.insert ⟨[]⟩ (entryAt 1)).insert ⟨[]⟩ (entryAt 2)⟩

theorem appendOnly_deferredEvents : AppendOnly deferredEvents := by
  simp [AppendOnly, deferredEvents]

theorem history_deferredEvents :
    History Unit ⟨[]⟩ "" ⟨[], .empty⟩ deferredEvents afterDeferred := by
  have hstart : History Unit ⟨[]⟩ "" ⟨[], .empty⟩ [] _ := .start
  have hempty := hstart.poll (r := .initialized) 1 (Routine.ends_run reads_perform _ _)
  have hadd := hempty.append (entryAt 1) (by decide)
  have hfirst := hadd.poll (r := .initialized) 1 (Routine.ends_run reads_perform _ _)
  have hadd := hfirst.append (entryAt 2) (by decide)
  exact hadd.poll 1 (Routine.ends_run reads_perform _ _)

/-- The entry after the poll that finds one is reported. -/
theorem nothing_lost_once_established_of_deferred :
    (Increasing [] ∧ History Unit ⟨[]⟩ "" ⟨[], .empty⟩ deferredEvents afterDeferred
        ∧ AppendOnly deferredEvents)
      ∧ (reports [.polled (.new [entryAt 2])]).flatten.count (entryAt 2) = 1 := by
  have hinc : Increasing [] := List.Pairwise.nil
  obtain ⟨-, hreported⟩ := nothing_lost_once_established hinc rfl history_deferredEvents
    appendOnly_deferredEvents
  have hentry := hreported [.polled (.new [entryAt 2])] (entryAt 2)
    [.polled .initialized, .appended (entryAt 1), .polled .initialized] rfl rfl
    ⟨_, List.mem_cons_self ..⟩
  exact ⟨⟨hinc, history_deferredEvents, appendOnly_deferredEvents⟩, hentry.1⟩

/-- A poll of an empty queue does not start a key. The poll after it answers
that it has initialized too, and the entry that was appended between the two is
never reported, though more polls follow. -/
theorem empty_queue_swallows_an_entry :
    History Unit ⟨[]⟩ "" ⟨[], .empty⟩ deferredEvents afterDeferred
      ∧ AppendOnly deferredEvents
      ∧ (∃ later earlier, deferredEvents = later ++ .polled .initialized :: earlier
          ∧ ∃ r, .polled r ∈ earlier)
      ∧ ∃ later earlier, deferredEvents = later ++ .appended (entryAt 1) :: earlier
          ∧ (∃ r, .polled r ∈ earlier) ∧ (∃ r, .polled r ∈ later)
          ∧ (reports later).flatten.count (entryAt 1) = 0 := by
  refine ⟨history_deferredEvents, appendOnly_deferredEvents, ?_, ?_⟩
  · refine ⟨[.polled (.new [entryAt 2]), .appended (entryAt 2)],
      [.appended (entryAt 1), .polled .initialized], rfl, .initialized, ?_⟩
    simp
  · refine ⟨[.polled (.new [entryAt 2]), .appended (entryAt 2), .polled .initialized],
      [.polled .initialized], rfl, ⟨.initialized, ?_⟩, ⟨.initialized, ?_⟩, ?_⟩
    · simp
    · simp
    · decide

end CheckGateway.Tail
