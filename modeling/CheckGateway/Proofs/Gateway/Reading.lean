/-
Live reads and tailed reads of a message queue.

A live read asks for the whole queue at once and filters it. A tailed read
polls, page by page from the newest entry back to the watermark, and filters
what the poll reports. They agree: what a live read has gained since a poll is
what the next poll reports, the other way round.

# The remote system

`Serves` is what is asked of it. It has the queue, which nobody changes while
it is read, and writes rows that can be read back; it may cut a page anywhere.
What it answers to all other queries is left open.

# The argument

However a job is answered, it comes to the same result and leaves the same
watermarks; `Comes` says to which. For a poll this is known of its calls
(`poll_delivers`). The job sends a query in the place of each, and `Serves`
makes of it a reader that delivers (`delivers_pollCall`).
-/
import Mathlib
import CheckGateway.Gateway.Handler
import CheckGateway.Proofs.Remote.Rows
import CheckGateway.Proofs.Tail.ExactlyOnce
import CheckGateway.Proofs.Tail.Paging

-- ============================================================ the polls

namespace CheckGateway.Tail

variable {ε : Type} {w : World} {key : WatermarkKey}

/-- What a poll reports over a queue that nothing changes. -/
def World.report (w : World) (key : WatermarkKey) : Report :=
  match w.watermarks.get? key with
  | none => .initialized
  | some mark => .new (newer mark w.queue.reverse)

/-- A first poll whose page is delivered succeeds. -/
theorem first_poll_abides (size : Nat) (path : String) (hmark : w.watermarks.get? key = none) :
    (poll size key path : Poll ε (Except ε Report)).Abides Delivers (fun _ => True)
      (fun r _ => ∃ report, r = .ok report) w := by
  refine ⟨trivial, fun look w₁ hlook => ?_⟩
  obtain ⟨rfl, rfl⟩ := hlook
  rw [hmark]
  refine ⟨trivial, fun page w₂ hpage => ?_⟩
  obtain ⟨⟨entries, rfl, -⟩, rfl⟩ := hpage
  cases entries with
  | nil => exact ⟨_, rfl⟩
  | cons entry rest => exact ⟨trivial, fun _ _ _ => ⟨_, rfl⟩⟩

/-- A poll whose reads succeed reports what it should, and notes the newest
entry. It asks for its own watermark and its own queue only. -/
theorem poll_delivers (size : Nat) (path : String) :
    (poll size key path : Poll ε (Except ε Report)).Abides Delivers (Call.Own key path)
      (fun r w' => r = .ok (w.report key) ∧ w' = w.noted key) w := by
  have hreads {r : Except ε Report} {w' : World}
      (h : Routine.Ends Delivers (poll size key path) w r w') :
      Routine.Ends Reads (poll size key path) w r w' :=
    h.mono fun _ _ _ _ => Delivers.reads
  unfold World.report
  cases hmark : w.watermarks.get? key with
  | none =>
      refine ((first_poll_abides size path hmark).ending.makes poll_own).mono fun r w' hpost => ?_
      obtain ⟨⟨report, rfl⟩, hends⟩ := hpost
      exact (poll_ends_of_no_mark hmark (hreads hends)).resolve_left nofun
  | some mark =>
      refine ((poll_abides hmark).ending.makes poll_own).mono fun r w' hpost => ?_
      obtain ⟨⟨report, rfl⟩, hends⟩ := hpost
      exact (poll_ends_of_mark hmark (hreads hends)).resolve_left nofun

end CheckGateway.Tail

-- ============================================================= the remote

namespace CheckGateway.Handler

open Job
open Tail (World IsPage Delivers Report)

/-- An answer to a query says of a queue what the query asks for. -/
structure Tells (path : String) (queue : List QueuedMessage) (q : RemoteQuery)
    (answer : Except Fault (List Record)) : Prop where
  whole : q = .messageQueueAll path → ∃ rows, answer = .ok rows
    ∧ readRows QueuedMessage q.name rows = .ok queue
  length : q = .messageQueueLength path → ∃ rows, answer = .ok rows
    ∧ readLength q.name rows = .ok queue.length
  page : ∀ offset count, q = .messageQueuePage path offset count →
    ∃ rows entries, answer = .ok rows ∧ readRows QueuedMessage q.name rows = .ok entries
      ∧ IsPage queue offset count entries

/-- The answers to a job of a remote system that has a queue, where nobody else
is at work. -/
def Serves (path : String) (w : World) : (c : Call) → Answer c → World → Prop
  | .openSession, session, w' => (∃ number : Nat, session = .ok number) ∧ w' = w
  | .query _ q, answer, w' => Tells path w.queue q answer ∧ w' = w
  | .watermark key, mark, w' => mark = w.watermarks.get? key ∧ w' = w
  | .note key entry, _, w' => w' = { w with watermarks := w.watermarks.insert key entry }
  | _, _, w' => w' = w

/-- However it is answered, a job comes to a result and leaves a world. -/
def Comes {α : Type} (path : String) (w : World) (job : Job α) (r : Except Fault α)
    (w' : World) : Prop :=
  job.run.Abides (Serves path) (fun _ => True) (fun r' w'' => r' = r ∧ w'' = w') w

section

variable {α β : Type} {path : String} {w w₁ w₂ : World} {job : Job α} {f : α → Job β} {a : α}
  {r : Except Fault α} {s : Except Fault β}

theorem comes_ofOutcome (a : α) : Comes path w (ofOutcome (.ok a)) (.ok a) w := ⟨rfl, rfl⟩

theorem Comes.andThen (h : Comes path w job (.ok a) w₁) (hf : Comes path w₁ (f a) s w₂) :
    Comes path w (job >>= f) s w₂ := by
  refine Routine.Abides.bind (h.mono fun r w' hpost => ?_)
  obtain ⟨rfl, rfl⟩ := hpost
  exact hf

theorem comes_withSession {body : Nat → Job α} (h : ∀ session, Comes path w (body session) r w₁) :
    Comes path w (withSession body) r w₁ := by
  refine ⟨trivial, fun session w' hsession => ?_⟩
  obtain ⟨⟨number, rfl⟩, rfl⟩ := hsession
  show Routine.Abides _ _ _ ((body number).run.bind _) w'
  refine Routine.Abides.bind ((h number).mono fun r' w'' hpost => ?_)
  obtain ⟨rfl, rfl⟩ := hpost
  refine ⟨trivial, fun _ w₂ hclosed => ?_⟩
  obtain rfl : w₂ = w'' := hclosed
  exact ⟨rfl, rfl⟩

/-- The whole queue is read as it is. -/
theorem comes_readAllRows :
    Comes path w (fetchAll QueuedMessage (.messageQueueAll path)) (.ok w.queue) w := by
  refine comes_withSession fun session => ⟨trivial, fun answer w' hanswer => ?_⟩
  obtain ⟨htells, rfl⟩ := hanswer
  obtain ⟨rows, rfl, hrows⟩ := htells.whole rfl
  show (ofOutcome (readRows QueuedMessage _ rows)).run.Abides _ _ _ _
  rw [hrows]
  exact ⟨rfl, rfl⟩

/-- Over a session, a poll is answered as by a reader that delivers. -/
theorem delivers_pollCall {key : WatermarkKey} (session : Nat) (w : World) (c : Tail.Call)
    (hc : c.Own key path) :
    (pollCall session c).Abides (Serves path) (fun _ => True)
      (fun x w' => Delivers w c x w') w := by
  cases c with
  | watermark k => exact ⟨trivial, fun mark w' hmark => hmark⟩
  | note k entry => exact ⟨trivial, fun _ w' hnote => hnote⟩
  | length p =>
      obtain rfl : p = path := hc
      refine ⟨trivial, fun answer w' hanswer => ?_⟩
      obtain ⟨htells, rfl⟩ := hanswer
      obtain ⟨rows, rfl, hrows⟩ := htells.length rfl
      show (ofOutcome (readLength _ rows)).run.Abides _ _ _ _
      rw [hrows]
      exact ⟨rfl, rfl⟩
  | page p offset count =>
      obtain rfl : p = path := hc
      refine ⟨trivial, fun answer w' hanswer => ?_⟩
      obtain ⟨htells, rfl⟩ := hanswer
      obtain ⟨rows, entries, rfl, hrows, hpage⟩ := htells.page offset count rfl
      show (ofOutcome (readRows QueuedMessage _ rows)).run.Abides _ _ _ _
      rw [hrows]
      exact ⟨⟨entries, rfl, hpage⟩, rfl⟩

/-- A poll is made on a session of its own. -/
theorem comes_poll (ctx : JobContext) (query : MessageQuery) :
    Comes query.path w (poll ctx query)
      (.ok (w.report (.derive ctx.credentials query)))
      (w.noted (.derive ctx.credentials query)) :=
  comes_withSession fun session =>
    (Tail.poll_delivers ctx.pageSize query.path).expand fun w c hc =>
      delivers_pollCall session w c hc

-- ============================================================ the checks

variable {query : MessageQuery} {filter : MessageFilter}

theorem comes_readAll (hfilter : MessageFilter.ofQuery query = .ok filter) :
    Comes query.path w (readAll query) (.ok ⟨messageRecords filter w.queue, none⟩) w := by
  unfold readAll
  rw [hfilter]
  exact (comes_ofOutcome filter).andThen (comes_readAllRows.andThen ⟨rfl, rfl⟩)

/-- What a tailed read makes of the report of its poll. -/
def ofReport (filter : MessageFilter) : Report → Result
  | .initialized => ⟨[], some initializedMessage⟩
  | .new entries => ⟨messageRecords filter entries, none⟩

theorem comes_readNew (hfilter : MessageFilter.ofQuery query = .ok filter) (ctx : JobContext) :
    Comes query.path w (readNew ctx query)
      (.ok (ofReport filter (w.report (.derive ctx.credentials query))))
      (w.noted (.derive ctx.credentials query)) := by
  unfold readNew
  rw [hfilter]
  refine (comes_ofOutcome filter).andThen ((comes_poll ctx query).andThen ?_)
  cases w.report (.derive ctx.credentials query) with
  | initialized => exact ⟨rfl, rfl⟩
  | new entries => exact ⟨rfl, rfl⟩

-- ====================================================== what is read twice

theorem messageRecords_append (filter : MessageFilter) (older newer : List QueuedMessage) :
    messageRecords filter (older ++ newer)
      = messageRecords filter older ++ messageRecords filter newer := by
  unfold messageRecords MessageFilter.apply
  rw [List.filter_append, List.map_append]

theorem messageRecords_reverse (filter : MessageFilter) (entries : List QueuedMessage) :
    messageRecords filter entries.reverse = (messageRecords filter entries).reverse := by
  unfold messageRecords MessageFilter.apply
  rw [List.filter_reverse, List.map_reverse]

/-- A scan from the newest of the entries that were there reports those that
were added, if none of them stops it. -/
theorem newer_of_added {queue added : List QueuedMessage} {newest : QueuedMessage}
    (hnewest : queue.getLast? = some newest)
    (hadded : ∀ m ∈ added, newest.date ≤ m.date ∧ m.sameEntry newest = false) :
    Tail.newer newest (queue ++ added).reverse = added.reverse := by
  obtain ⟨older, rfl⟩ := List.getLast?_eq_some_iff.1 hnewest
  have hgo : added.reverse.any (Tail.stops newest) = false :=
    Tail.not_any_stops fun m hm => hadded m (List.mem_reverse.1 hm)
  rw [List.reverse_append, List.reverse_append]
  exact Tail.newer_before_mark hgo

-- ============================================================ in a run

variable {σ : Type} {perform : (c : Call) → σ → Answer c × σ} {view : σ → World}

theorem Comes.run (hserves : ∀ s c, Serves path (view s) c (perform c s).1 (view (perform c s).2))
    {s : σ} (h : Comes path (view s) job r w₁) :
    (Routine.run perform job.run s).1 = r ∧ view (Routine.run perform job.run s).2 = w₁ :=
  (Routine.Abides.run hserves h).1

/-- Live reads and tailed reads agree, whatever the query, as long as its
pattern can be read. Once a tailed read has found a queue, which is not empty,
and entries have been added none of which is older than the newest one or the
same entry, the next tailed read gives the records of the added entries that
pass, newest first; and a live read gives what it gave before, the records of
the old entries that pass, and then those of the tailed read the other way
round. The reads may come with page sizes of their own, from any state of the
remote system in which it has the queue and the watermark is still the one that
was noted. -/
theorem live_and_tailed_reads_agree
    (hserves : ∀ s c, Serves query.path (view s) c (perform c s).1 (view (perform c s).2))
    (hfilter : MessageFilter.ofQuery query = .ok filter)
    {queue added : List QueuedMessage} {newest : QueuedMessage}
    (hnewest : queue.getLast? = some newest)
    (hadded : ∀ m ∈ added, newest.date ≤ m.date ∧ m.sameEntry newest = false)
    (ctx : JobContext) {start : σ} (hstart : (view start).queue = queue) :
    ∃ (first : Result) (polled : σ) (older newer : List Record),
      older = (filter.apply queue).map QueuedMessage.toRecord
      ∧ newer = (filter.apply added.reverse).map QueuedMessage.toRecord
      ∧ Routine.run perform (readNew ctx query).run start = (.ok first, polled)
      ∧ (∀ s, (view s).queue = queue →
          (Routine.run perform (readAll query).run s).1 = .ok ⟨older, none⟩)
      ∧ (∀ s size, (view s).queue = queue ++ added →
          (view s).watermarks.get? (.derive ctx.credentials query)
            = (view polled).watermarks.get? (.derive ctx.credentials query) →
          (Routine.run perform (readNew { ctx with pageSize := size } query).run s).1
            = .ok ⟨newer, none⟩)
      ∧ ∀ s, (view s).queue = queue ++ added →
          (Routine.run perform (readAll query).run s).1 = .ok ⟨older ++ newer.reverse, none⟩ := by
  obtain ⟨hfirst, hpolled⟩ := (comes_readNew (w := view start) hfilter ctx).run hserves
  have hmark : ((view start).noted (.derive ctx.credentials query)).watermarks.get?
      (.derive ctx.credentials query) = some newest := by
    obtain ⟨older, rfl⟩ := List.getLast?_eq_some_iff.1 hnewest
    simp [World.noted, hstart, Table.get?_insert]
  refine ⟨_, _, messageRecords filter queue, messageRecords filter added.reverse, rfl, rfl,
    Prod.ext hfirst rfl, ?_, ?_, ?_⟩
  · intro s hs
    rw [((comes_readAll hfilter).run hserves).1, hs]
  · intro s size hs hkept
    rw [hpolled, hmark] at hkept
    rw [((comes_readNew hfilter { ctx with pageSize := size }).run hserves).1]
    unfold World.report
    rw [hkept, hs]
    show Except.ok (Result.mk (messageRecords filter (Tail.newer _ _)) none) = _
    rw [newer_of_added hnewest hadded]
  · intro s hs
    rw [((comes_readAll hfilter).run hserves).1, hs, messageRecords_append,
      messageRecords_reverse, List.reverse_reverse]

end

-- ================================================= a queue that has grown

/-- The answers of a remote system that has a queue, and gives one entry at a
time. -/
def answerFrom (queue : List QueuedMessage) (q : RemoteQuery) : Except Fault (List Record) :=
  match q.name, q.params.get? "offset", q.params.get? "count" with
  | "messageQueueAll", _, _ => .ok (writeRows queue)
  | "messageQueueLength", _, _ => .ok [Record.empty.insert "length" (.nat queue.length)]
  | "messageQueuePage", some (.number (.whole offset)), some (.number (.whole count)) =>
      .ok (writeRows ((queue.reverse.drop offset.toNat).take (count.toNat.min 1)))
  | _, _, _ => .ok []

theorem tells_answerFrom {path : String} {queue : List QueuedMessage} {q : RemoteQuery}
    (hlegible : ∀ m ∈ queue, RowShape.ofRow (RowShape.toRow m) = .ok m)
    (hlength : queue.length ≤ Text.nat64Max) : Tells path queue q (answerFrom queue q) where
  whole := by
    rintro rfl
    exact ⟨_, rfl, readRows_writeRows _ hlegible⟩
  length := by
    rintro rfl
    refine ⟨_, rfl, ?_⟩
    simp [readLength, Record.get?_insert, Json.Value.nat, Json.Value.asNat64?, Json.Number.within?,
      hlength]
  page := by
    rintro offset count rfl
    have hoffset : (RemoteQuery.messageQueuePage path offset count).params.get? "offset"
        = some (.number (.whole offset)) := by
      simp [RemoteQuery.messageQueuePage, RemoteQuery.withParam, Record.get?_insert, Json.Value.nat]
    have hcount : (RemoteQuery.messageQueuePage path offset count).params.get? "count"
        = some (.number (.whole count)) := by
      simp [RemoteQuery.messageQueuePage, RemoteQuery.withParam, Record.get?_insert, Json.Value.nat]
    have hanswer : answerFrom queue (.messageQueuePage path offset count)
        = .ok (writeRows ((queue.reverse.drop offset).take (count.min 1))) := by
      unfold answerFrom
      rw [hoffset, hcount]
      rfl
    refine ⟨_, _, hanswer, readRows_writeRows _ fun m hm => hlegible m ?_, count.min 1, rfl,
      Nat.min_le_left .., fun _ hpos => Nat.lt_min.2 ⟨hpos, Nat.one_pos⟩⟩
    exact List.mem_reverse.1 (List.mem_of_mem_drop (List.mem_of_mem_take hm))

/-- Two entries, one of them answered. -/
def beforeGrowth : List QueuedMessage :=
  [{ Tail.entryOf 1 40 with id := some "A1", replyStatus := some QueuedMessage.answeredStatus },
    { Tail.entryOf 2 40 with id := some "A2" }]

/-- Two more, of the same second as the last of them. -/
def growth : List QueuedMessage :=
  [{ Tail.entryOf 2 30 with id := some "A3" }, { Tail.entryOf 2 40 with id := some "B4" }]

/-- The queue before and after it has grown, with the watermarks. -/
def growing (s : Bool × Watermarks) : World :=
  ⟨if s.1 then beforeGrowth ++ growth else beforeGrowth, s.2⟩

/-- The answers to jobs over this queue. -/
def performGrowing : (c : Call) → Bool × Watermarks → Answer c × Bool × Watermarks
  | .now, s => ((⟨0, 0⟩ : Timestamp), s)
  | .openSession, s => (.ok (0 : Nat), s)
  | .query _ q, s => (answerFrom (growing s).queue q, s)
  | .watermark key, s => (s.2.get? key, s)
  | .note key entry, s => ((), s.1, s.2.insert key entry)
  | .acquire _, s => (true, s)
  | .handler _, s => ((none : Option Nat), s)
  | .install _, s | .installSystem _, s | .session _, s => ((0 : Nat), s)
  | .jobCache _, s => (⟨RemoteQuery.activeJobs.name, (0 : Nat), .nothing, {}, false⟩, s)
  | .diskCache _, s => (⟨RemoteQuery.diskUnits.name, (0 : Nat), .nothing, {}, false⟩, s)
  | .closeSession _, s | .release .., s | .saveJobCache .., s | .saveDiskCache .., s
  | .replaceSession .., s | .hold _, s | .letGo _, s => ((), s)

theorem legible_growing (s : Bool × Watermarks) :
    ∀ m ∈ (growing s).queue, RowShape.ofRow (RowShape.toRow m) = .ok m := by
  have hall : ∀ m ∈ beforeGrowth ++ growth, RowShape.ofRow (RowShape.toRow m) = .ok m := by
    simp only [beforeGrowth, growth, List.cons_append, List.nil_append, List.forall_mem_cons]
    exact ⟨rfl, rfl, rfl, rfl, List.forall_mem_nil _⟩
  intro m hm
  refine hall m ?_
  obtain ⟨grown, marks⟩ := s
  cases grown with
  | true => exact hm
  | false => exact List.mem_append_left _ hm

theorem serves_performGrowing (path : String) (s : Bool × Watermarks) (c : Call) :
    Serves path (growing s) c (performGrowing c s).1 (growing (performGrowing c s).2) := by
  cases c with
  | openSession => exact ⟨⟨0, rfl⟩, rfl⟩
  | query session q =>
      refine ⟨tells_answerFrom (legible_growing s) ?_, rfl⟩
      obtain ⟨grown, marks⟩ := s
      cases grown with
      | false => exact (by decide : 2 ≤ Text.nat64Max)
      | true => exact (by decide : 4 ≤ Text.nat64Max)
  | watermark key => exact ⟨rfl, rfl⟩
  | _ => rfl

/-- Entries of some severities, with an identifier of two characters that
starts with a letter. -/
def watched : MessageQuery := { path := "/Q", idPattern := some "A.", band := ⟨25, 100⟩ }

theorem compiles_watched : ∃ filter, MessageFilter.ofQuery watched = .ok filter := by
  have hok : (MessageFilter.ofQuery watched).isOk = true := by cbv
  cases hfilter : MessageFilter.ofQuery watched with
  | ok filter => exact ⟨filter, rfl⟩
  | error e =>
      rw [hfilter] at hok
      cases hok

/-- A queue that is polled one entry at a time, and then two. -/
theorem live_and_tailed_reads_agree_of_growth :
    ((∀ s c, Serves watched.path (growing s) c (performGrowing c s).1
          (growing (performGrowing c s).2))
        ∧ (∃ filter, MessageFilter.ofQuery watched = .ok filter)
        ∧ beforeGrowth.getLast? = some { Tail.entryOf 2 40 with id := some "A2" }
        ∧ (∀ m ∈ growth, (Tail.entryOf 2 40).date ≤ m.date
          ∧ m.sameEntry { Tail.entryOf 2 40 with id := some "A2" } = false)
        ∧ (growing (false, Table.empty)).queue = beforeGrowth)
      ∧ ∃ (filter : MessageFilter) (marks : Watermarks) (older newer : List Record),
        MessageFilter.ofQuery watched = .ok filter
        ∧ older = (filter.apply beforeGrowth).map QueuedMessage.toRecord
        ∧ newer = (filter.apply growth.reverse).map QueuedMessage.toRecord
        ∧ (Routine.run performGrowing (readAll watched).run (false, marks)).1 = .ok ⟨older, none⟩
        ∧ (Routine.run performGrowing
            (readNew ⟨⟨"h", "l", "p"⟩, 2, .panics⟩ watched).run (true, marks)).1
          = .ok ⟨newer, none⟩
        ∧ (Routine.run performGrowing (readAll watched).run (true, marks)).1
          = .ok ⟨older ++ newer.reverse, none⟩ := by
  have hserves := serves_performGrowing watched.path
  have hnewest : beforeGrowth.getLast? = some { Tail.entryOf 2 40 with id := some "A2" } := rfl
  have hadded : ∀ m ∈ growth, (Tail.entryOf 2 40).date ≤ m.date
      ∧ m.sameEntry { Tail.entryOf 2 40 with id := some "A2" } = false := by decide
  have hstart : (growing (false, Table.empty)).queue = beforeGrowth := rfl
  refine ⟨⟨hserves, compiles_watched, hnewest, hadded, hstart⟩, ?_⟩
  obtain ⟨filter, hfilter⟩ := compiles_watched
  obtain ⟨first, polled, older, newer, hold, hnew, -, holder, hnewer, hboth⟩ :=
    live_and_tailed_reads_agree hserves hfilter hnewest hadded ⟨⟨"h", "l", "p"⟩, 1, .panics⟩ hstart
  exact ⟨filter, polled.2, older, newer, hfilter, hold, hnew, holder (false, polled.2) rfl,
    hnewer (true, polled.2) 2 rfl rfl, hboth (true, polled.2) rfl⟩

end CheckGateway.Handler
