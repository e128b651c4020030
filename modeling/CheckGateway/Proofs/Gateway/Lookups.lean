/-
Looking up job queues.

The queues of a list are looked up one after the other over one session, until one is
not found: its answer is an error, has a row that cannot be read, or has no row at all.
Then the lookups stop there, and it is what is wrong with this queue that is told.
Otherwise each of them is told by its first row, in the order of the list. Either way
the session is closed when it is over.

# The argument

`Answered` fixes how the session is opened and what each lookup would be answered if it
were made. With these answers a job has one course at most (`Answered.unique`), and the
course of the lookups is put together one by one (`exists_looked`).
-/
import CheckGateway.Gateway.Handler
import CheckGateway.Proofs.Gateway.Transcripts
import CheckGateway.Proofs.Remote.Rows

namespace CheckGateway.Handler

open Job

/-- A job queue, with the answer to its lookup. -/
abbrev Lookup := JobQueueRef × Except Fault (List Record)

/-- The lookup as it is made over a session. -/
def Lookup.over (session : Nat) (look : Lookup) : Exchange :=
  ⟨.query session (.jobQueue look.1.name look.1.library), look.2⟩

/-- Every row of the answer can be read, and the record is that of the first one. -/
inductive Finds : Except Fault (List Record) → Record → Prop where
  | first {row : Record} {rows : List Record} {status : JobQueueStatus}
      (hrow : RowShape.ofRow row = .ok status)
      (hrows : ∀ r ∈ rows, ∃ other : JobQueueStatus, RowShape.ofRow r = .ok other) :
      Finds (.ok (row :: rows)) status.toRecord

/-- The answer to the lookup of a job queue does not find it, and this is why. -/
inductive Misses (ref : JobQueueRef) : Except Fault (List Record) → Fault → Prop where
  | fault (f : Fault) : Misses ref (.error f) f
  | illegible {before after : List Record} {row : Record} {problem : Json.Problem}
      (hbefore : ∀ r ∈ before, ∃ other : JobQueueStatus, RowShape.ofRow r = .ok other)
      (hrow : (RowShape.ofRow row : Except Json.Problem JobQueueStatus) = .error problem) :
      Misses ref (.ok (before ++ row :: after)) (.failed (.protocol "jobQueue" problem.message))
  | nothing : Misses ref (.ok [])
      (.failed (.notFound ("JobQueue " ++ ref.name ++ " in library " ++ ref.library)))

/-- Which of the lookups are made, and what they come to: all of them, and one record
each, or those up to the first that misses, and what is wrong with that one. -/
inductive Looked : List Lookup → List Lookup → Except Fault (List Record) → Prop where
  | all {looks : List Lookup} {records : List Record}
      (h : List.Forall₂ (fun look record => Finds look.2 record) looks records) :
      Looked looks looks (.ok records)
  | upTo {before after : List Lookup} {look : Lookup} {f : Fault}
      (hbefore : ∀ other ∈ before, ∃ record, Finds other.2 record) (h : Misses look.1 look.2 f) :
      Looked (before ++ look :: after) (before ++ [look]) (.error f)

/-- Sessions are opened as it is said here, and queries get these answers one after the
other. -/
inductive Answered (opened : Except Fault Nat) :
    List (Except Fault (List Record)) → List Exchange → Prop where
  | nil (answers : List (Except Fault (List Record))) : Answered opened answers []
  | opening {answers : List (Except Fault (List Record))} {es : List Exchange}
      (h : Answered opened answers es) : Answered opened answers (⟨.openSession, opened⟩ :: es)
  | query {answers : List (Except Fault (List Record))} {es : List Exchange}
      {session : Nat} {q : RemoteQuery} {answer : Except Fault (List Record)}
      (h : Answered opened answers es) :
      Answered opened (answer :: answers) (⟨.query session q, answer⟩ :: es)
  | closing {answers : List (Except Fault (List Record))} {es : List Exchange} {session : Nat}
      (h : Answered opened answers es) :
      Answered opened answers (⟨.closeSession session, ()⟩ :: es)

section

variable {α : Type} {opened : Except Fault Nat} {answers : List (Except Fault (List Record))}
  {es es' : List Exchange} {r : JobRoutine α} {a a' : α} {ref : JobQueueRef}
  {answer : Except Fault (List Record)} {record : Record} {f : Fault} {session : Nat}

/-- With given answers a job can take one course only. -/
theorem Answered.unique (h : r.Concludes es a) (h' : r.Concludes es' a')
    (hes : Answered opened answers es) (hes' : Answered opened answers es') :
    es' = es ∧ a' = a := by
  induction r generalizing es es' answers with
  | done b =>
      obtain ⟨rfl, rfl⟩ := Routine.concludes_done_iff.1 h
      exact Routine.concludes_done_iff.1 h'
  | call c next ih =>
      obtain ⟨x, later, rfl, hlater⟩ := Routine.concludes_call_iff.1 h
      obtain ⟨x', later', rfl, hlater'⟩ := Routine.concludes_call_iff.1 h'
      -- The same call gets the same answer, and the same answers are left for what follows.
      have hnext : x' = x ∧ ∃ left, Answered opened left later ∧ Answered opened left later' := by
        cases hes with
        | opening hes =>
            cases hes' with
            | opening hes' => exact ⟨rfl, _, hes, hes'⟩
        | query hes =>
            cases hes' with
            | query hes' => exact ⟨rfl, _, hes, hes'⟩
        | closing hes =>
            cases hes' with
            | closing hes' => exact ⟨rfl, _, hes, hes'⟩
      obtain ⟨rfl, left, hes, hes'⟩ := hnext
      obtain ⟨rfl, rfl⟩ := ih x' hlater hlater' hes hes'
      exact ⟨rfl, rfl⟩

-- ================================================================== one lookup

/-- What a lookup comes to with the rows that have been read. -/
def told (ref : JobQueueRef) : Outcome (List JobQueueStatus) → Except Fault Record
  | .error e => .error (.failed e)
  | .ok [] =>
      .error (.failed (.notFound ("JobQueue " ++ ref.name ++ " in library " ++ ref.library)))
  | .ok (status :: _) => .ok status.toRecord

theorem run_jobQueueRecord (session : Nat) (ref : JobQueueRef) :
    (jobQueueRecord session ref).run
      = .call (.query session (.jobQueue ref.name ref.library))
          fun (answer : Except Fault (List Record)) => .done
            (answer.bind fun rows => told ref (readRows JobQueueStatus "jobQueue" rows)) := by
  refine congrArg (Routine.call _) (funext fun (answer : Except Fault (List Record)) => ?_)
  cases answer with
  | error f => rfl
  | ok rows =>
      show (ofOutcome (readRows JobQueueStatus "jobQueue" rows) >>= _ : Job Record).run
        = .done (told ref (readRows JobQueueStatus "jobQueue" rows))
      match readRows JobQueueStatus "jobQueue" rows with
      | .error e => rfl
      | .ok [] => rfl
      | .ok (status :: _) => rfl

/-- A lookup comes to what its answer finds, or to why it misses. -/
theorem told_cases (ref : JobQueueRef) (rows : List Record) :
    (∃ record, told ref (readRows JobQueueStatus "jobQueue" rows) = .ok record
        ∧ Finds (.ok rows) record)
      ∨ ∃ f, told ref (readRows JobQueueStatus "jobQueue" rows) = .error f
        ∧ Misses ref (.ok rows) f := by
  match hread : readRows JobQueueStatus "jobQueue" rows with
  | .error e =>
      obtain ⟨before, row, after, problem, rfl, hbefore, hrow, rfl⟩ := readRows_eq_error_iff.1 hread
      exact .inr ⟨_, rfl, .illegible hbefore hrow⟩
  | .ok [] =>
      obtain rfl := List.forall₂_nil_right_iff.1 (readRows_eq_ok_iff.1 hread)
      exact .inr ⟨_, rfl, .nothing⟩
  | .ok (status :: others) =>
      obtain ⟨row, rows', hrow, hrows, rfl⟩ :=
        List.forall₂_cons_right_iff.1 (readRows_eq_ok_iff.1 hread)
      exact .inl ⟨_, rfl, .first hrow (exists_of_forall₂ hrows)⟩

/-- However a lookup is answered, it finds its queue or misses it. -/
theorem concludes_jobQueueRecord (session : Nat) (look : Lookup) :
    (∃ record, (jobQueueRecord session look.1).run.Concludes [look.over session] (.ok record)
        ∧ Finds look.2 record)
      ∨ ∃ f, (jobQueueRecord session look.1).run.Concludes [look.over session] (.error f)
        ∧ Misses look.1 look.2 f := by
  obtain ⟨ref, answer⟩ := look
  have hconcludes : (jobQueueRecord session ref).run.Concludes
      [Lookup.over session (ref, answer)]
      (answer.bind fun rows => told ref (readRows JobQueueStatus "jobQueue" rows)) := by
    rw [run_jobQueueRecord]
    exact Routine.concludes_call_iff.2 ⟨answer, [], rfl, Routine.concludes_done_iff.2 ⟨rfl, rfl⟩⟩
  cases answer with
  | error f => exact .inr ⟨f, hconcludes, .fault f⟩
  | ok rows =>
      change (jobQueueRecord session ref).run.Concludes _
        (told ref (readRows JobQueueStatus "jobQueue" rows)) at hconcludes
      obtain ⟨record, htold, hfinds⟩ | ⟨f, htold, hmisses⟩ := told_cases ref rows
      · rw [htold] at hconcludes
        exact .inl ⟨record, hconcludes, hfinds⟩
      · rw [htold] at hconcludes
        exact .inr ⟨f, hconcludes, hmisses⟩

-- ================================================================ all the lookups

/-- Lookups that follow another one that finds its queue. -/
theorem Looked.cons {look : Lookup} {looks made : List Lookup} {r : Except Fault (List Record)}
    (hfinds : Finds look.2 record) (h : Looked looks made r) :
    Looked (look :: looks) (look :: made) (r.map (record :: ·)) := by
  cases h with
  | all h => exact .all (.cons hfinds h)
  | @upTo before after miss f hbefore h =>
      have hall : ∀ other ∈ look :: before, ∃ record, Finds other.2 record :=
        List.forall_mem_cons.2 ⟨⟨record, hfinds⟩, hbefore⟩
      exact .upTo hall h

/-- The lookups are made from the first one on. -/
theorem Looked.begins {looks made : List Lookup} {r : Except Fault (List Record)}
    (h : Looked looks made r) : made <+: looks := by
  cases h with
  | all h => exact List.prefix_rfl
  | @upTo before after look f hbefore h =>
      exact (List.prefix_append_right_inj before).2 (List.prefix_append [look] after)

/-- With any answers, the lookups over a session have a course. -/
theorem exists_looked (session : Nat) (looks : List Lookup) :
    ∃ made r, Looked looks made r
      ∧ (jobQueueRecords session (looks.map Prod.fst)).run.Concludes
        (made.map (Lookup.over session)) r := by
  induction looks with
  | nil => exact ⟨[], .ok [], .all .nil, Routine.concludes_done_iff.2 ⟨rfl, rfl⟩⟩
  | cons look looks ih =>
      -- Where the first lookup finds its queue, the course of the others is put after it.
      obtain ⟨record, hrecord, hfinds⟩ | ⟨f, hfault, hmisses⟩ :=
        concludes_jobQueueRecord session look
      · obtain ⟨made, r, hlooked, hmade⟩ := ih
        refine ⟨look :: made, _, hlooked.cons hfinds, andThen_concludes hrecord ?_⟩
        cases r with
        | ok records =>
            exact Routine.concludes_bind_iff.2 ⟨.ok records, _, [], (List.append_nil _).symm, hmade,
              Routine.concludes_done_iff.2 ⟨rfl, rfl⟩⟩
        | error f => exact fault_concludes hmade
      · have hstops : Looked (look :: looks) [look] (.error f) :=
          .upTo (List.forall_mem_nil _) hmisses
        exact ⟨[look], .error f, hstops, fault_concludes hfault⟩

/-- A queue that is missed is not found. -/
theorem Finds.not_misses (h : Finds answer record) : ¬ Misses ref answer f := by
  intro hmisses
  cases h with
  | @first row rows status hrow hrows =>
      generalize hall : row :: rows = all at hmisses
      have hlegible : ∀ r ∈ all, ∃ other : JobQueueStatus, RowShape.ofRow r = .ok other :=
        hall ▸ List.forall_mem_cons.2 ⟨⟨status, hrow⟩, hrows⟩
      cases hmisses with
      | illegible hbefore hbad =>
          obtain ⟨other, hother⟩ := hlegible _ (List.mem_append_right _ List.mem_cons_self)
          rw [hbad] at hother
          cases hother
      | nothing => cases hall

/-- There are records when every lookup finds its queue, and only then. -/
theorem Looked.ok_iff {looks made : List Lookup} {r : Except Fault (List Record)}
    (h : Looked looks made r) :
    (∃ records, r = .ok records) ↔ ∀ look ∈ looks, ∃ record, Finds look.2 record := by
  cases h with
  | all h => exact ⟨fun _ => exists_of_forall₂ h, fun _ => ⟨_, rfl⟩⟩
  | @upTo before after look f hbefore hmisses =>
      constructor
      · rintro ⟨_, ⟨⟩⟩
      · intro hall
        obtain ⟨record, hfinds⟩ := hall look (List.mem_append_right _ List.mem_cons_self)
        exact absurd hmisses hfinds.not_misses

/-- The lookups that are made get the answers that they would get. -/
theorem answered_of_begins {looks made : List Lookup} (h : made <+: looks) :
    Answered opened (looks.map Prod.snd)
      (made.map (Lookup.over session) ++ [⟨.closeSession session, ()⟩]) := by
  induction made generalizing looks with
  | nil => exact .closing (.nil _)
  | cons look made ih =>
      obtain ⟨later, rfl⟩ := h
      exact .query (ih (List.prefix_append made later))

/-- A course with these answers is the only one. -/
theorem only_course (h : r.Concludes es a) (hes : Answered opened answers es)
    (es' : List Exchange) (a' : α) :
    (r.Concludes es' a' ∧ Answered opened answers es') ↔ es' = es ∧ a' = a := by
  constructor
  · rintro ⟨h', hes'⟩
    exact Answered.unique h h' hes hes'
  · rintro ⟨rfl, rfl⟩
    exact ⟨h, hes⟩

end

/-- Job queues are told all or none. However their lookups would be answered, and however
the session is opened, there is one course that the job takes.

If no session is opened, nothing else is asked. If there is one, it is closed once, after
the lookups, which are made from the first one on: all of them, and there is a record for
each in order, or those up to the first that misses its queue, and it comes to what is
wrong with that one. It comes to records if and only if every lookup finds its queue. -/
theorem job_queues_told_all_or_none (looks : List Lookup) (opened : Except Fault Nat) :
    ∃ es r,
      (∀ es' r', ((getJobQueues (looks.map Prod.fst)).run.Concludes es' r'
          ∧ Answered opened (looks.map Prod.snd) es') ↔ es' = es ∧ r' = r)
      ∧ (∀ e, opened = .error e → es = [⟨.openSession, opened⟩] ∧ r = .error e)
      ∧ ∀ session, opened = .ok session → ∃ made,
          es = ⟨.openSession, opened⟩
              :: (made.map (Lookup.over session) ++ [⟨.closeSession session, ()⟩])
          ∧ Looked looks made r
          ∧ ((∃ records, r = .ok records) ↔ ∀ look ∈ looks, ∃ record, Finds look.2 record) := by
  cases opened with
  | error e =>
      have hcourse : (getJobQueues (looks.map Prod.fst)).run.Concludes
          [⟨.openSession, .error e⟩] (.error e) :=
        Routine.concludes_call_iff.2 ⟨.error e, [], rfl, Routine.concludes_done_iff.2 ⟨rfl, rfl⟩⟩
      refine ⟨_, _, only_course hcourse (.opening (.nil _)), ?_, ?_⟩
      · rintro _ ⟨⟩
        exact ⟨rfl, rfl⟩
      · rintro _ ⟨⟩
  | ok session =>
      obtain ⟨made, r, hlooked, hmade⟩ := exists_looked session looks
      have hcourse : (getJobQueues (looks.map Prod.fst)).run.Concludes
          (⟨.openSession, .ok session⟩
            :: (made.map (Lookup.over session) ++ [⟨.closeSession session, ()⟩])) r :=
        withSession_concludes hmade
      refine ⟨_, r, only_course hcourse (.opening (answered_of_begins hlooked.begins)), ?_, ?_⟩
      · rintro _ ⟨⟩
      · rintro _ ⟨⟩
        exact ⟨made, rfl, hlooked, hlooked.ok_iff⟩

end CheckGateway.Handler
