/-
Reading a message queue without bounds.

A request that gives no bounds for the severity asks for every entry that nobody has
answered. The band that it gets for this is that of all numbers of 32 bits, but a band does
not hold its upper end, so the largest of these numbers is left out. What is read is all
that was asked for unless an entry has that very severity (`read_without_bounds`).
-/
import CheckGateway.Proofs.Gateway.Reading
import CheckGateway.Proofs.Request.Numbers

namespace CheckGateway.Handler

open Job
open Tail (World)

/-- A request for the entries of a message queue that gives neither bounds for the severity
nor a pattern. -/
structure Unbounded (r : Request) (path : String) : Prop where
  check : r.Names .getErrorMessageQueue
  path : r.Gives "messageQueuePath" path
  pattern : ∀ s, ¬ r.Gives "messageIdfilterPattern" s
  min : ∀ i, ¬ r.GivesNumber "minSeverityLevel" i
  max : ∀ i, ¬ r.GivesNumber "maxSeverityLevel" i

/-- The severities of a queue are numbers of 32 bits. -/
def Graded (queue : List QueuedMessage) : Prop :=
  ∀ m ∈ queue, Text.int32Min ≤ m.severity ∧ m.severity ≤ Text.int32Max

instance (queue : List QueuedMessage) : Decidable (Graded queue) :=
  inferInstanceAs (Decidable (∀ m ∈ queue, _))

/-- The entries that nobody has answered, the oldest first. -/
def unansweredOf (queue : List QueuedMessage) : List QueuedMessage :=
  queue.filter fun m => !m.isAcknowledged

/-- The entries that have not the largest severity that there is. -/
def belowTop (queue : List QueuedMessage) : List QueuedMessage :=
  queue.filter fun m => m.severity ≠ Text.int32Max

section

variable {r : Request} {path : String} {w : World} {queue : List QueuedMessage}

theorem Unbounded.messageQuery_eq (h : Unbounded r path) : r.messageQuery = .ok { path } := by
  unfold Request.messageQuery
  rw [Request.requiredText_eq_ok_iff.2 h.path]
  show Except.ok (MessageQuery.mk path (r.text? MessageFilter.patternField) _) = _
  have hpattern : r.text? MessageFilter.patternField = none := Request.text?_eq_none_iff.2 h.pattern
  rw [hpattern, Request.int32D_of_none h.min, Request.int32D_of_none h.max]

/-- The band without bounds holds every severity but the largest. -/
theorem contains_default_iff {severity : Int} (hmin : Text.int32Min ≤ severity)
    (hmax : severity ≤ Text.int32Max) :
    ({} : SeverityBand).contains severity = true ↔ severity ≠ Text.int32Max := by
  show (decide (Text.int32Min ≤ severity) && decide (severity < Text.int32Max)) = true ↔ _
  rw [Bool.and_eq_true, decide_eq_true_eq, decide_eq_true_eq]
  omega

theorem apply_unbounded (h : Graded queue) :
    (⟨{}, none⟩ : MessageFilter).apply queue = belowTop (unansweredOf queue) := by
  unfold MessageFilter.apply belowTop unansweredOf
  rw [List.filter_filter]
  refine List.filter_congr fun m hm => ?_
  obtain ⟨hmin, hmax⟩ := h m hm
  show (({} : SeverityBand).contains m.severity && !m.isAcknowledged && true) = _
  rw [Bool.and_true, Bool.eq_iff_iff, Bool.and_eq_true, Bool.and_eq_true,
    contains_default_iff hmin hmax, decide_eq_true_eq]

/-- What comes of such a request where a remote system has the queue. -/
theorem Unbounded.read {σ : Type} {perform : (c : Call) → σ → Answer c × σ} {view : σ → World}
    (h : Unbounded r path)
    (hserves : ∀ s c, Serves path (view s) c (perform c s).1 (view (perform c s).2))
    {s : σ} (hgraded : Graded (view s).queue) (ctx : JobContext) :
    (Routine.run perform (carryOut ctx r).run s).1
      = .ok ⟨(belowTop (unansweredOf (view s).queue)).map QueuedMessage.toRecord, none⟩ := by
  have hfilter : MessageFilter.ofQuery { path } = .ok ⟨{}, none⟩ := rfl
  have hread : Comes path (view s) (readAll { path })
      (.ok ⟨messageRecords ⟨{}, none⟩ (view s).queue, none⟩) (view s) :=
    comes_readAll hfilter
  rw [Request.carryOut_readAll h.check, h.messageQuery_eq, ← apply_unbounded hgraded]
  exact (((comes_ofOutcome _).andThen hread).run hserves).1

/-- Nothing is left out if no entry has the largest severity, and then only. -/
theorem map_belowTop_eq_iff : (belowTop queue).map QueuedMessage.toRecord
    = queue.map QueuedMessage.toRecord ↔ ∀ m ∈ queue, m.severity ≠ Text.int32Max := by
  constructor
  · intro h
    have hlength := congrArg List.length h
    rw [List.length_map, List.length_map] at hlength
    have hall := List.length_filter_eq_length_iff.1 hlength
    exact fun m hm => of_decide_eq_true (hall m hm)
  · intro h
    have hall : belowTop queue = queue :=
      List.filter_eq_self.2 fun m hm => decide_eq_true (h m hm)
    rw [hall]

end

/-- Without bounds and a pattern, the entries are read that nobody has answered, from the
oldest to the newest, but not those of the largest severity that there is. So they are all
that were asked for if and only if none of them has this severity. -/
theorem read_without_bounds {σ : Type} {perform : (c : Call) → σ → Answer c × σ}
    {view : σ → World} {r : Request} {path : String} (h : Unbounded r path)
    (hserves : ∀ s c, Serves path (view s) c (perform c s).1 (view (perform c s).2))
    {s : σ} (hgraded : Graded (view s).queue) (ctx : JobContext) :
    ∃ records, (Routine.run perform (carryOut ctx r).run s).1 = .ok ⟨records, none⟩
      ∧ records = (belowTop (unansweredOf (view s).queue)).map QueuedMessage.toRecord
      ∧ (records = (unansweredOf (view s).queue).map QueuedMessage.toRecord
        ↔ ∀ m ∈ (view s).queue, m.isAcknowledged = false → m.severity ≠ Text.int32Max) := by
  refine ⟨_, h.read hserves hgraded ctx, rfl, map_belowTop_eq_iff.trans ?_⟩
  unfold unansweredOf
  simp only [List.mem_filter, Bool.not_eq_true', and_imp]

-- ====================================================== a queue with the largest severity

/-- The answers to jobs over a queue that stays as it is. -/
def performStill (queue : List QueuedMessage) :
    (c : Call) → Bool × Watermarks → Answer c × Bool × Watermarks
  | .query _ q, s => (answerFrom queue q, s)
  | c, s => performGrowing c s

theorem serves_performStill {queue : List QueuedMessage} (path : String)
    (hlegible : ∀ m ∈ queue, RowShape.ofRow (RowShape.toRow m) = .ok m)
    (hlength : queue.length ≤ Text.nat64Max) (s : Bool × Watermarks) (c : Call) :
    Serves path ⟨queue, s.2⟩ c (performStill queue c s).1
      ⟨queue, (performStill queue c s).2.2⟩ := by
  cases c with
  | openSession => exact ⟨⟨0, rfl⟩, rfl⟩
  | query session q => exact ⟨tells_answerFrom hlegible hlength, rfl⟩
  | watermark key => exact ⟨rfl, rfl⟩
  | _ => rfl

/-- An entry that has been answered, one that has not, and one of the largest severity. -/
def threeEntries : List QueuedMessage :=
  [{ Tail.entryOf 1 40 with replyStatus := some QueuedMessage.answeredStatus },
    Tail.entryOf 2 40, Tail.entryOf 3 Text.int32Max]

theorem serves_threeEntries (path : String) (s : Bool × Watermarks) (c : Call) :
    Serves path ⟨threeEntries, s.2⟩ c (performStill threeEntries c s).1
      ⟨threeEntries, (performStill threeEntries c s).2.2⟩ := by
  refine serves_performStill path ?_ (by decide) s c
  simp only [threeEntries, List.forall_mem_cons]
  exact ⟨rfl, rfl, rfl, List.forall_mem_nil _⟩

/-- A request that gives the path of a queue and nothing else. -/
def pathOnly : Request :=
  ⟨⟨"as400", "qsecofr", "secret"⟩, "getErrorMessageQueue",
    ⟨[("messageQueuePath", .string "/Q")]⟩, "request"⟩

theorem unbounded_pathOnly : Unbounded pathOnly "/Q" where
  check := by decide +kernel
  path := .string rfl
  pattern := Request.not_gives_of_absent rfl
  min := Request.not_givesNumber_of_absent rfl
  max := Request.not_givesNumber_of_absent rfl

theorem graded_threeEntries : Graded threeEntries := by decide

theorem read_without_bounds_of_three :
    (Unbounded pathOnly "/Q" ∧ Graded threeEntries
        ∧ ∀ s c, Serves "/Q" ⟨threeEntries, s.2⟩ c (performStill threeEntries c s).1
          ⟨threeEntries, (performStill threeEntries c s).2.2⟩)
      ∧ ∀ (ctx : JobContext) (s : Bool × Watermarks),
        (Routine.run (performStill threeEntries) (carryOut ctx pathOnly).run s).1
          = .ok ⟨[(Tail.entryOf 2 40).toRecord], none⟩ := by
  refine ⟨⟨unbounded_pathOnly, graded_threeEntries, serves_threeEntries "/Q"⟩, fun ctx s => ?_⟩
  obtain ⟨records, hrun, rfl, -⟩ :=
    read_without_bounds unbounded_pathOnly (serves_threeEntries "/Q") (s := s)
      graded_threeEntries ctx
  exact hrun

/-- An entry of the largest severity is dropped for its severity, although there are no
bounds. -/
theorem largest_severity_dropped :
    (Unbounded pathOnly "/Q" ∧ Graded threeEntries
        ∧ ∀ s c, Serves "/Q" ⟨threeEntries, s.2⟩ c (performStill threeEntries c s).1
          ⟨threeEntries, (performStill threeEntries c s).2.2⟩)
      ∧ (Tail.entryOf 3 Text.int32Max ∈ threeEntries
        ∧ (Tail.entryOf 3 Text.int32Max).isAcknowledged = false)
      ∧ ∀ (ctx : JobContext) (s : Bool × Watermarks),
        (Routine.run (performStill threeEntries) (carryOut ctx pathOnly).run s).1
          ≠ .ok ⟨(unansweredOf threeEntries).map QueuedMessage.toRecord, none⟩ := by
  refine ⟨⟨unbounded_pathOnly, graded_threeEntries, serves_threeEntries "/Q"⟩, by decide,
    fun ctx s hall => ?_⟩
  have hrun := unbounded_pathOnly.read (serves_threeEntries "/Q") (s := s) graded_threeEntries ctx
  rw [hrun] at hall
  have hrecords := congrArg Result.records (Except.ok.inj hall)
  have hmem : Tail.entryOf 3 Text.int32Max ∈ unansweredOf threeEntries := by decide
  exact map_belowTop_eq_iff.1 hrecords _ hmem rfl

end CheckGateway.Handler
