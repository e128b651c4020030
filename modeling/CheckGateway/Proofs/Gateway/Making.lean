/-
The calls that a job makes, whatever it is answered.

`Routine.Makes` goes through a job as the job is put together. Of the calls of a kind
it is enough to know that each part of the job makes no others.
-/
import CheckGateway.Gateway.Checks
import CheckGateway.Proofs.Routine

namespace CheckGateway

namespace Job

section

variable {α β : Type} {P : Call → Prop} {s : Nat} {q : RemoteQuery} {c : Call} {lock : Lock}

/-- One job after another: each makes only calls of a kind. -/
theorem makes_andThen {job : Job α} {f : α → Job β} (h : job.run.Makes P)
    (hf : ∀ a, (f a).run.Makes P) : (job >>= f).run.Makes P := by
  refine Routine.Makes.bind h fun r => ?_
  cases r with
  | ok a => exact hf a
  | error e => exact trivial

/-- What has come out already takes no call. -/
theorem makes_ofOutcome (r : Outcome α) : (ofOutcome r).run.Makes P := by
  cases r <;> exact trivial

/-- What is done with a failure takes no call. -/
theorem makes_attempt {job : Job α} (h : job.run.Makes P) : (attempt job).run.Makes P := by
  refine Routine.Makes.bind h fun r => ?_
  match r with
  | .ok a => exact trivial
  | .error (.failed e) => exact trivial
  | .error .panicked => exact trivial

/-- A call by itself. -/
theorem makes_askM (hc : P c) : (askM c).run.Makes P := ⟨hc, fun _ => trivial⟩

/-- A query is one call. -/
theorem makes_query (hq : P (.query s q)) : (query s q).run.Makes P := ⟨hq, fun _ => trivial⟩

/-- Reading the rows of a query takes no further call. -/
theorem makes_fetch [RowShape α] (hq : P (.query s q)) : (fetch α s q).run.Makes P :=
  makes_andThen (makes_query hq) fun _ => makes_ofOutcome _

/-- A session is opened and closed around what is done over it. -/
theorem makes_withSession {body : Nat → Job α} (hopen : P .openSession)
    (hclose : ∀ s, P (.closeSession s)) (h : ∀ s, (body s).run.Makes P) :
    (withSession body).run.Makes P := by
  refine ⟨hopen, fun opened => ?_⟩
  match opened with
  | .error e => exact trivial
  | .ok s =>
      show Routine.Makes _ ((body s).run.bind _)
      exact Routine.Makes.bind (h s) fun _ => ⟨hclose s, fun _ => trivial⟩

/-- A lock is taken and given back around what is done under it, poisoned or not. -/
theorem makes_withLock {body : Job α} (hacquire : P (.acquire lock))
    (hrelease : ∀ poison, P (.release lock poison)) (h : body.run.Makes P) :
    (withLock lock body).run.Makes P := by
  refine ⟨hacquire, fun taken => ?_⟩
  match taken with
  | false => exact trivial
  | true =>
      show Routine.Makes _ (body.run.bind _)
      exact Routine.Makes.bind h fun r => ⟨hrelease (isDeath r), fun _ => trivial⟩

/-- A system handler is let go after what is done with it. -/
theorem makes_holding {handler : Nat} {body : Job α} (hletGo : P (.letGo handler))
    (h : body.run.Makes P) : (holding handler body).run.Makes P := by
  show Routine.Makes _ (body.run.bind _)
  exact Routine.Makes.bind h fun _ => ⟨hletGo, fun _ => trivial⟩

/-- If the calls of a routine are carried out by others, those make all the calls. -/
theorem makes_expand {Call' : Type} {Answer' : Call' → Type}
    {f : (c : Call') → JobRoutine (Answer' c)} (hf : ∀ c, (f c).Makes P)
    (r : Routine Call' Answer' α) : (r.expand f).Makes P := by
  induction r with
  | done a => exact trivial
  | call c next ih => exact Routine.Makes.bind (hf c) ih

end

end Job

namespace Handler

open Job

section

variable {P : Call → Prop} {s : Nat} {q : RemoteQuery}

/-- A fetch makes one query over a session of its own. -/
theorem makes_fetchAll {α : Type} [RowShape α] (hopen : P .openSession)
    (hclose : ∀ s, P (.closeSession s)) (hq : ∀ s, P (.query s q)) :
    (fetchAll α q).run.Makes P :=
  makes_withSession hopen hclose fun s => makes_fetch (hq s)

/-- Job queues are asked for one by one. -/
theorem makes_jobQueueRecords (hq : ∀ name library, P (.query s (.jobQueue name library)))
    (refs : List JobQueueRef) : (jobQueueRecords s refs).run.Makes P := by
  induction refs with
  | nil => exact trivial
  | cons ref refs ih =>
      have hrecord : (jobQueueRecord s ref).run.Makes P := by
        refine makes_andThen (makes_fetch (hq _ _)) fun rows => ?_
        match rows with
        | _ :: _ => exact trivial
        | [] => exact trivial
      exact makes_andThen hrecord fun _ => makes_andThen ih fun _ => trivial

/-- The calls of a poll are two of the store and two queries. -/
theorem makes_pollCall (hwatermark : ∀ key, P (.watermark key))
    (hnote : ∀ key entry, P (.note key entry))
    (hlength : ∀ path, P (.query s (.messageQueueLength path)))
    (hpage : ∀ path offset count, P (.query s (.messageQueuePage path offset count)))
    (c : Tail.Call) : (pollCall s c).Makes P := by
  cases c with
  | watermark key => exact ⟨hwatermark key, fun _ => trivial⟩
  | note key entry => exact ⟨hnote key entry, fun _ => trivial⟩
  | length path => exact makes_andThen (makes_query (hlength path)) fun _ => makes_ofOutcome _
  | page path offset count => exact makes_fetch (hpage path offset count)

end

/-- What is done about a command over its session. -/
def runOver (command : String) (session : Nat) : Job (List Record) := do
  match ← attempt (fetch CommandRun session (.runCommand command)) with
  | .ok (run :: _) => return [commandRecord command (.ok run)]
  | .ok [] => fail (.protocol (RemoteQuery.runCommand command).name "empty result")
  | .error e => return [commandRecord command (.error e)]

/-- A command runs over a session once there is a handler for commands. -/
theorem executeCommand_eq (command : String) :
    executeCommand command = (obtain .commands >>= fun _ => withSession (runOver command)) := rfl

/-- Whatever comes of it, a command is one query. -/
theorem makes_runOver {command : String} (hq : P (.query s (.runCommand command))) :
    (runOver command s).run.Makes P := by
  refine makes_andThen (makes_attempt (makes_fetch hq)) fun r => ?_
  match r with
  | .ok (_ :: _) => exact trivial
  | .ok [] => exact trivial
  | .error _ => exact trivial

end Handler

end CheckGateway
