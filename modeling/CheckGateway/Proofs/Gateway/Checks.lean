/-
What each check comes to, and what it makes of what its tenant keeps.

Four checks go through handlers that keep something. They end as their
handlers let them, and leave the handlers of all other kinds as they are
(`Handled`). The other checks are free of what is kept: what they come to is in
their outlook (`Free`). So it does not matter to them how old their tenant is.
-/
import CheckGateway.Proofs.Gateway.Deaths
import CheckGateway.Proofs.Gateway.Shelves

namespace CheckGateway

open Job (Call Same isDeath)

-- ======================================================= free of what is kept

namespace Gateway

open Job Handler

/-- A job that goes past whatever is kept: what it comes to is in its outlook,
where failures of queries that it does not send do not count. -/
structure Free {α : Type} (job : Job α) : Prop where
  yields : ∀ (o : Outlook) (x : Tenant), x.locked = [] → x.Stocked →
    Yields o x job.run fun r o' y =>
      r = (o.run job.run).1 ∧ o' = (o.run job.run).2 ∧ x.Undisturbed y
  agrees : ∀ o o' : Outlook, Outlook.Agree RemoteQuery.kept o o' →
    (o'.run job.run).1 = (o.run job.run).1
      ∧ Outlook.Agree RemoteQuery.kept (o.run job.run).2 (o'.run job.run).2

section

variable {α β : Type}

/-- One job after another: each goes past whatever is kept. -/
theorem Free.andThen {job : Job α} {f : α → Job β} (h : Free job) (hf : ∀ a, Free (f a)) :
    Free (job >>= f) := by
  constructor
  · intro o x hlocked hstocked
    refine (h.yields o x hlocked hstocked).andThen ?_ ?_
    · intro a o' y hbetween
      obtain ⟨hvalue, houtlook, hsame⟩ := hbetween
      subst houtlook
      rw [Outlook.run_andThen, ← hvalue]
      refine ((hf a).yields _ y (hsame.locked.trans hlocked) (hsame.stocked hstocked)).mono ?_
      intro b o' z hpost
      exact ⟨hpost.1, hpost.2.1, hsame.trans hpost.2.2⟩
    · intro e o' y hbetween
      obtain ⟨hvalue, houtlook, hsame⟩ := hbetween
      rw [Outlook.run_andThen, ← hvalue]
      exact ⟨rfl, houtlook, hsame⟩
  · intro o o' hagree
    obtain ⟨hvalue, hafter⟩ := h.agrees o o' hagree
    rw [Outlook.run_andThen, Outlook.run_andThen, hvalue]
    cases (o.run job.run).1 with
    | ok a => exact (hf a).agrees _ _ hafter
    | error e => exact ⟨rfl, hafter⟩

/-- A job of light calls goes past what is kept if it sends none of the queries for it.
-/
theorem free_light {K M : Set WatermarkKey} {L : List Lock} {job : Job α}
    (hsame : Same K L job.run job.run)
    (hlight : job.run.Makes (Call.Light (fun q => q.name ∉ RemoteQuery.kept) M)) : Free job := by
  refine ⟨fun o x _ _ => ?_, fun o o' hagree => hagree.run hlight⟩
  refine (yields_light hsame hlight).mono fun r o' y hpost => ?_
  exact ⟨hpost.1, hpost.2.1, hpost.2.2.undisturbed⟩

end

-- ============================================================ the free checks

section

variable {α β : Type} {K : Set WatermarkKey} {o : Outlook} {x : Tenant} {kind : HandlerKind}

/-- A job that is over needs nothing. -/
theorem free_done (r : Except Fault α) : Free (ExceptT.mk (.done r) : Job α) :=
  ⟨fun _ x _ _ => yields_done ⟨rfl, rfl, .refl x⟩, fun _ _ hagree => ⟨rfl, hagree⟩⟩

/-- What has come out already needs nothing. -/
theorem free_ofOutcome (r : Outcome α) : Free (ofOutcome r) := by
  cases r <;> exact free_done _

/-- A handler that keeps nothing is obtained, and then it does not matter which
one it is. -/
theorem Free.obtained {job : Job α} (h : Free job) (hkind : kind = .subsystems ∨ kind = .commands) :
    Free (obtain kind >>= fun _ => job) := by
  have hsystem : kind ≠ .system := by
    rcases hkind with heq | heq <;> rw [heq] <;> exact nofun
  have hrun (o : Outlook) : o.run (obtain kind >>= fun _ => job).run = o.run job.run := by
    rcases hkind with heq | heq <;> rw [heq] <;> rfl
  constructor
  · intro o x hlocked hstocked
    rw [hrun]
    refine (yields_obtain hsystem hlocked hstocked).andThen ?_ ?_
    · intro k o' y hobtained
      obtain ⟨rfl, k', -, hprovided⟩ := hobtained
      have hsame := hprovided.undisturbed
      refine (h.yields o' y (hsame.locked.trans hlocked) (hsame.stocked hstocked)).mono ?_
      intro b o'' z hpost
      exact ⟨hpost.1, hpost.2.1, hsame.trans hpost.2.2⟩
    · intro e o' y hobtained
      obtain ⟨-, k, hk, -⟩ := hobtained
      cases hk
  · intro o o' hagree
    rw [hrun, hrun]
    exact h.agrees o o' hagree

/-- The subsystems are fetched each time. -/
theorem free_listSubsystems : Free listSubsystems := by
  refine Free.obtained (.andThen ?_ fun rows => free_done _) (.inl rfl)
  refine free_light (K := ∅) (L := []) (M := ∅) (same_withSession fun _ _ => same_query _) ?_
  refine light_withSession fun _ => makes_query ?_
  simp [Call.Light, RemoteQuery.kept, RemoteQuery.subsystems]

/-- A command is run each time. -/
theorem free_executeCommand (command : String) : Free (executeCommand command) := by
  refine Free.obtained ?_ (.inr rfl)
  refine free_light (K := ∅) (L := []) (M := ∅) (same_withSession fun s s' => ?_)
    (light_withSession fun s => ?_)
  · refine (same_attempt (same_fetch _ _)).andThen fun r => ?_
    match r with
    | .ok (_ :: _) => exact .done _
    | .ok [] => exact .done _
    | .error _ => exact .done _
  · refine makes_runOver ?_
    simp [Call.Light, RemoteQuery.kept, RemoteQuery.runCommand, RemoteQuery.withParam]

/-- Job queues are looked up each time. -/
theorem free_getJobQueues (refs : List JobQueueRef) : Free (getJobQueues refs) := by
  refine free_light (K := ∅) (L := []) (M := ∅) (same_getJobQueues refs)
    (light_withSession fun s => makes_jobQueueRecords (fun name library => ?_) refs)
  simp [Call.Light, RemoteQuery.kept, RemoteQuery.jobQueue, RemoteQuery.withParam]

/-- A queue is read each time. -/
theorem free_readAll (query : MessageQuery) : Free (readAll query) := by
  refine free_light (K := ∅) (L := []) (M := ∅) (same_readAll query) ?_
  refine makes_andThen (makes_ofOutcome _) fun filter => ?_
  refine makes_andThen (light_fetchAll ?_) fun entries => trivial
  simp [RemoteQuery.kept, RemoteQuery.messageQueueAll, RemoteQuery.withParam]

/-- What a poll goes on from is a watermark, which no tenant keeps. -/
theorem free_readNew (ctx : JobContext) (query : MessageQuery) : Free (readNew ctx query) := by
  refine free_light (K := Set.univ) (L := []) (M := Set.univ)
    (same_readNew ctx query (Set.mem_univ _)) ?_
  refine makes_andThen (makes_ofOutcome _) fun filter => makes_andThen ?_ fun report => ?_
  · refine light_withSession fun s => makes_expand (light_pollCall ?_ ?_) _
    · simp [RemoteQuery.kept, RemoteQuery.messageQueueLength, RemoteQuery.withParam]
    · simp [RemoteQuery.kept, RemoteQuery.messageQueuePage, RemoteQuery.withParam]
  · match report with
    | .initialized => exact trivial
    | .new _ => exact trivial

/-- Records without a message. -/
theorem Free.recordsOnly {job : Job (List Record)} (h : Free job) :
    Free (Handler.recordsOnly job) := h.andThen fun _ => free_done _

end

-- =================================================== through a kept handler

/-- A job that goes through the handler of a kind. As a rule it ends as it would
for a new tenant. -/
def Through {α : Type} (kind : HandlerKind) (job : Job α) : Prop :=
  ∀ (o : Outlook) (x : Tenant), x.locked = [] → x.Stocked →
    Yields o x job.run (Handled kind o x (o.run job.run).1)

section

variable {α β : Type} {kind : HandlerKind} {o o' : Outlook} {x y : Tenant}
  {usual usual' r : Except Fault α}

/-- What is usual need be known only where sessions can be opened. -/
theorem Handled.congr (h : Handled kind o x usual r o' y)
    (heq : ScriptedRemote.refusal? o.script = none → usual' = usual) :
    Handled kind o x usual' r o' y :=
  { h with value := fun hsound hstale hopens =>
      (h.value hsound hstale hopens).trans (heq hopens).symm }

/-- What is made of a job's value needs no outlook. -/
theorem fst_run_map {job : Job α} {f : α → Job β} {v : α → Except Fault β}
    (hf : ∀ a, (f a).run = .done (v a)) : (o.run (job >>= f).run).1 = (o.run job.run).1.bind v := by
  rw [Outlook.run_andThen]
  cases (o.run job.run).1 with
  | ok a =>
      dsimp only
      rw [hf]
      rfl
  | error e => rfl

/-- What is made of the value afterwards makes no difference. -/
theorem yields_map {job job' : Job α} {f : α → Job β} {v : α → Except Fault β}
    (h : Yields o x job.run (Handled kind o x (o.run job'.run).1))
    (hf : ∀ a, (f a).run = .done (v a)) (hlives : ∀ a, isDeath (v a) = false) :
    Yields o x (job >>= f).run (Handled kind o x (o.run (job' >>= f).run).1) := by
  rw [fst_run_map hf]
  refine h.andThen (fun a o' y hpost => ?_) fun e o' y hpost => hpost.bind hlives
  rw [hf]
  exact yields_done (hpost.bind hlives)

/-- A job that goes through a handler still does if something is made of its value,
unless its worker dies of that. -/
theorem Through.map {job : Job α} {f : α → Job β} {v : α → Except Fault β}
    (h : Through kind job) (hf : ∀ a, (f a).run = .done (v a))
    (hlives : ∀ a, isDeath (v a) = false) : Through kind (job >>= f) :=
  fun o x hlocked hstocked => yields_map (h o x hlocked hstocked) hf hlives

/-- A job that obtains its handler first. -/
theorem through_obtain {f : Nat → Job α} (hkind : kind ≠ .system)
    (hf : ∀ (o : Outlook) (y : Tenant) (h : Nat), y.locked = [] → y.Stocked →
      (y.slots.get kind).handler = some h →
        Yields o y (f h).run (Handled kind o y (o.run (f 0).run).1)) :
    Through kind (obtain kind >>= f) := by
  intro o x hlocked hstocked
  have hrun : o.run (obtain kind).run = (.ok (0 : Nat), o) := by cases kind <;> rfl
  rw [Outlook.run_andThen_ok hrun]
  refine (yields_obtain hkind hlocked hstocked).andThen ?_ ?_
  · intro h o' y hobtained
    obtain ⟨rfl, k, hk, hprovided⟩ := hobtained
    cases hk
    have hsame := hprovided.undisturbed
    refine (hf o' y h (hsame.locked.trans hlocked) (hsame.stocked hstocked)
      hprovided.handler).mono ?_
    exact fun r o'' z hpost => hpost.of_undisturbed hsame
  · intro e o' y hobtained
    obtain ⟨-, k, hk, -⟩ := hobtained
    cases hk

/-- The active jobs are one of the queries for what is kept. -/
theorem light_fetchJobs :
    (fetchAll ActiveJob .activeJobs).run.Makes
      (Call.Light (fun q => q.name ∈ RemoteQuery.kept) ∅) :=
  light_fetchAll (.inl rfl)

/-- So are the disk units. -/
theorem light_fetchDisks :
    (fetchAll DiskUnit .diskUnits).run.Makes
      (Call.Light (fun q => q.name ∈ RemoteQuery.kept) ∅) :=
  light_fetchAll (.inr (.inl rfl))

/-- For a new tenant a read of the active jobs is what a fetch brings. -/
theorem run_readJobs (o : Outlook) :
    (o.run (readJobs 0 false).run).1
      = brought RemoteQuery.activeJobs.name (fetchAll ActiveJob .activeJobs) o :=
  run_readCache (c := ⟨RemoteQuery.activeJobs.name, (0 : Nat), .nothing, {}, false⟩) rfl
    (fun _ _ => rfl) rfl

/-- So is a read of the disk units. -/
theorem run_readDisks (o : Outlook) :
    (o.run (readDisks 0 false).run).1
      = brought RemoteQuery.diskUnits.name (fetchAll DiskUnit .diskUnits) o :=
  run_readCache (c := ⟨RemoteQuery.diskUnits.name, (0 : Nat), .nothing, {}, false⟩) rfl
    (fun _ _ => rfl) rfl

/-- The active jobs are read from the cache that the handler stands for. -/
theorem yields_readJobs {h : Nat} (hlocked : x.locked = []) (hstocked : x.Stocked)
    (hhandler : x.slots.jobs.handler = some h) :
    Yields o x (readJobs h false).run (Handled .jobs o x (o.run (readJobs 0 false).run).1) := by
  rw [run_readJobs]
  have hread := jobShelf.yields_read (o := o) (same_fetchAll (K := ∅) (L := []) _ _)
    light_fetchJobs hlocked hstocked hhandler false
  exact hread.mono fun r o' y hpost => hpost.1

/-- So are the disk units, whether or not the read insists. -/
theorem yields_readDisks {h : Nat} (hlocked : x.locked = []) (hstocked : x.Stocked)
    (hhandler : x.slots.disks.handler = some h) (force : Bool) :
    Yields o x (readDisks h force).run fun r o' y =>
      Handled .disks o x (o.run (readDisks 0 false).run).1 r o' y ∧ y.slots = x.slots := by
  rw [run_readDisks]
  exact diskShelf.yields_read (same_fetchAll (K := ∅) (L := []) _ _) light_fetchDisks hlocked
    hstocked hhandler force

/-- The active jobs are read through the handler for them. -/
theorem through_listJobs : Through .jobs listJobs :=
  through_obtain (by decide) fun _ _ _ hlocked hstocked hhandler =>
    yields_map (yields_readJobs hlocked hstocked hhandler) (fun _ => rfl) fun _ => rfl

/-- What is found of a disk unit in what was read. -/
def diskFound (name : String) (r : Read DiskUnit) : Except Fault (List DiskUnit) :=
  match findDisk? r.items name with
  | some d => .ok [d]
  | none => .error (.failed (.notFound ("Disk " ++ name)))

/-- Finding a unit asks nothing. -/
theorem run_diskNamed (name : String) (r : Read DiskUnit) :
    (diskNamed r.items name).run = .done (diskFound name r) := by
  unfold diskNamed diskFound
  cases findDisk? r.items name <;> rfl

/-- Nobody dies of looking for a unit in a snapshot. -/
theorem isDeath_diskFound (name : String) (r : Read DiskUnit) :
    isDeath (diskFound name r) = false := by
  unfold diskFound
  split <;> rfl

/-- A read of a new cache is no hit. -/
theorem not_hit_of_brought {α : Type} {name : String} {fetch : Job (List α)} {r : Read α}
    (h : brought name fetch o = .ok r) : r.hit = false := by
  unfold brought Cache.Fetch.brought at h
  split at h
  next b ends hb =>
    cases b with
    | ok items =>
        cases h
        rfl
    | error e => cases h
  next => cases h

/-- A new tenant looks once: what has just been fetched is no hit. -/
theorem run_unitsOf (o : Outlook) (name : String) :
    (o.run (unitsOf 0 (some name)).run).1
      = (o.run (readDisks 0 false).run).1.bind (diskFound name) := by
  show (o.run (readDisks 0 false >>= _ : Job _).run).1 = _
  rw [Outlook.run_andThen]
  cases hread : (o.run (readDisks 0 false).run).1 with
  | error e => rfl
  | ok r =>
      rw [run_readDisks] at hread
      dsimp only
      rw [not_hit_of_brought hread, if_pos (by simp), run_diskNamed]
      rfl

/-- A disk unit that a kept snapshot lacks is looked for in a fresh one. -/
theorem yields_unitsOf {h : Nat} (hlocked : x.locked = []) (hstocked : x.Stocked)
    (hhandler : x.slots.disks.handler = some h) (name : Option String) :
    Yields o x (unitsOf h name).run (Handled .disks o x (o.run (unitsOf 0 name).run).1) := by
  cases name with
  | none =>
      have hread := (yields_readDisks (o := o) hlocked hstocked hhandler false).mono
        fun _ _ _ hpost => hpost.1
      exact yields_map hread (fun _ => rfl) fun _ => rfl
  | some name =>
      rw [run_unitsOf]
      refine (yields_readDisks hlocked hstocked hhandler false).andThen ?_
        fun e o' y hpost => hpost.1.bind (isDeath_diskFound name)
      intro r o' y hpost
      obtain ⟨hread, hslots⟩ := hpost
      dsimp only
      split
      · rw [run_diskNamed]
        exact yields_done (hread.bind (isDeath_diskFound name))
      next hmore =>
        -- a new tenant would not have come here
        have hunusual : (o.run (readDisks 0 false).run).1 ≠ .ok r := by
          intro heq
          rw [run_readDisks] at heq
          rw [not_hit_of_brought heq] at hmore
          exact hmore (by simp)
        have hagain := (yields_readDisks (o := o') (hread.locked.trans hlocked) hread.stocked
          (h := h) (by rw [hslots]; exact hhandler) true).mono fun _ _ _ hpost => hpost.1
        have hfound := yields_map (f := fun r => diskNamed r.items name) hagain
          (run_diskNamed name) (isDeath_diskFound name)
        exact hfound.mono fun r' o'' z hpost => hread.trans hunusual hpost

/-- The units to be listed are found through the handler for them. -/
theorem through_unitsOf (name : Option String) :
    Through .disks (do unitsOf (← obtain .disks) name : Job (List DiskUnit)) :=
  through_obtain (by decide) fun _ _ _ hlocked hstocked hhandler =>
    yields_unitsOf hlocked hstocked hhandler name

/-- A new tenant gets a system handler if sessions can be opened. -/
theorem run_obtainSystem (hopens : ScriptedRemote.refusal? o.script = none) :
    o.run obtainSystem.run = (.ok (0 : Nat), o) := by
  unfold obtainSystem
  rw [Outlook.run_withLock]
  have hsession : o.run openSession.run = (.ok (0 : Nat), o) := by
    show ((Option.elim (ScriptedRemote.refusal? o.script) _ _ : Except Fault Nat), o) = _
    rw [hopens]
    rfl
  show o.run (openSession >>= _ : Job _).run = _
  rw [Outlook.run_andThen_ok hsession]
  rfl

/-- Whether a handler is held is nothing to the outlook. -/
theorem run_holding (o : Outlook) (k : Nat) (body : Job α) :
    o.run (holding k body).run = o.run body.run := by
  show o.run (body.run.bind _) = _
  rw [Outlook.run_bind]
  rfl

/-- What is asked of the system handler. -/
theorem through_system {q : RemoteQuery} {f : List Record → Job α}
    {v : List Record → Except Fault α} (hq : q.name ∈ RemoteQuery.kept)
    (hf : ∀ rows, (f rows).run = .done (v rows)) (hlives : ∀ rows, isDeath (v rows) = false) :
    Through .system (do let h ← obtainSystem; holding h (systemQuery h q >>= f)) := by
  intro o x hlocked hstocked
  have husual (hopens : ScriptedRemote.refusal? o.script = none) :
      (o.run (obtainSystem >>= fun h => holding h (systemQuery h q >>= f)).run).1
        = (o.run (systemQuery 0 q >>= f).run).1 := by
    rw [Outlook.run_andThen_ok (run_obtainSystem hopens), run_holding]
  refine (yields_obtainSystem hlocked hstocked).andThen ?_ ?_
  · intro h o' y hobtained
    obtain ⟨rfl, hok, -⟩ := hobtained
    obtain ⟨hsame, hsound, hhandler⟩ := hok h rfl
    have hguarded : Guarded y .system h (.systemSession h) := ⟨hsound, hhandler, rfl⟩
    have hquery : Yields o' y (systemQuery h q).run
        (Handled .system o' y (o'.run (systemQuery 0 q).run).1) := by
      rw [systemQuery_eq 0, Outlook.run_withLock]
      exact yields_systemQuery hguarded (hsame.locked.trans hlocked) (hsame.stocked hstocked) hq
    have hheld := yields_holding (yields_map (f := f) hquery hf hlives)
      (fun _ _ _ _ hpost hstock => hpost.sameStock hstock) h
    exact hheld.mono fun r o'' z hpost => (hpost.of_undisturbed hsame).congr husual
  · intro e o' y hobtained
    obtain ⟨rfl, -, herror⟩ := hobtained
    exact herror e rfl _

/-- What is found of a system in what was answered. -/
def systemFound : List Record → Except Fault (List Record)
  | row :: _ => .ok [row.project systemFields]
  | [] => .error (.failed (.protocol RemoteQuery.systemStatus.name "empty result"))

/-- The figures of the system are asked for through the system handler. -/
theorem through_getSystem : Through .system getSystem := by
  refine through_system (v := systemFound) (.inr (.inr (.inl rfl))) (fun rows => ?_) fun rows => ?_
  · cases rows <;> rfl
  · cases rows <;> rfl

/-- So are those of the memory pools. -/
theorem through_pageFault : Through .system pageFault :=
  through_system (v := fun rows => .ok (rows.map (·.project poolFields)))
    (.inr (.inr (.inr rfl))) (fun _ => rfl) fun _ => rfl

/-- Records without a message. -/
theorem Through.recordsOnly {job : Job (List Record)} (h : Through kind job) :
    Through kind (Handler.recordsOnly job) :=
  h.map (v := fun records => .ok ⟨records, none⟩) (fun _ => rfl) fun _ => rfl

end

end Gateway

-- ================================================================== a request

/-- The kind of the handler that a check goes through, if that keeps anything. -/
def Check.needs? : Check → Option HandlerKind
  | .listJobs => some .jobs
  | .listDisks => some .disks
  | .getSystem | .pageFault => some .system
  | .listSubsystems | .executeCommand | .getJobQueues | .getErrorMessageQueue
  | .getNewMessageInMessageQueue => none

/-- The kind of the handler that a request goes through, if that keeps
anything. -/
def Request.needs? (r : Request) : Option HandlerKind :=
  (Check.ofCommand? r.command).bind Check.needs?

namespace Gateway

section

variable {ctx : JobContext} {r : Request} {kind : HandlerKind}

/-- A request that needs no kept handler goes past all of them. -/
theorem free_carryOut (hneeds : r.needs? = none) : Free (carryOut ctx r) := by
  unfold Request.needs? at hneeds
  unfold carryOut
  cases hcheck : Check.ofCommand? r.command with
  | none => exact free_done _
  | some check =>
      rw [hcheck] at hneeds
      cases check with
      | listSubsystems => exact free_listSubsystems.recordsOnly
      | executeCommand =>
          exact (free_ofOutcome _).andThen fun command => (free_executeCommand command).recordsOnly
      | getJobQueues =>
          exact (free_ofOutcome _).andThen fun refs => (free_getJobQueues refs).recordsOnly
      | getErrorMessageQueue => exact (free_ofOutcome _).andThen free_readAll
      | getNewMessageInMessageQueue => exact (free_ofOutcome _).andThen (free_readNew ctx)
      | listJobs | listDisks | getSystem | pageFault => cases hneeds

/-- A request that keeps nothing reports what it has found. -/
theorem free_gather (hneeds : r.needs? = none) : Free (gather ctx r) := by
  unfold gather
  split
  next hcheck =>
    unfold Request.needs? at hneeds
    rw [hcheck] at hneeds
    cases hneeds
  next => exact (free_carryOut hneeds).andThen fun _ => free_done _

/-- A request that keeps something gathers through its handler. -/
theorem through_gather (hneeds : r.needs? = some kind) : Through kind (gather ctx r) := by
  unfold Request.needs? at hneeds
  unfold gather
  split
  next hcheck =>
    rw [hcheck] at hneeds
    cases hneeds
    rw [← bind_assoc]
    exact (through_unitsOf _).map (v := fun units => .ok (.disks units)) (fun _ => rfl) fun _ => rfl
  next hdisks =>
    refine Through.map (v := fun res => .ok (.result res)) ?_ (fun _ => rfl) fun _ => rfl
    unfold carryOut
    cases hcheck : Check.ofCommand? r.command with
    | none =>
        rw [hcheck] at hneeds
        cases hneeds
    | some check =>
        rw [hcheck] at hneeds
        cases check <;> cases hneeds
        · exact through_listJobs.recordsOnly
        · exact absurd hcheck hdisks
        · exact through_getSystem.recordsOnly
        · exact through_pageFault.recordsOnly

end

end Gateway

end CheckGateway
