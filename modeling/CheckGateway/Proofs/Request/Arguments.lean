/-
Bad arguments, and that they are noticed before anything is done.

`Bad` says what is wrong with a request by what its payload holds: a command that
names no check, an argument that is missing or has the wrong shape, a pattern that
does not compile. That is what the checks find, before they ask for anything
(`carryOut_of_bad`). With good arguments a check over a session of its own goes on to
that session (`carryOut_of_good`).
-/
import CheckGateway.Gateway.Checks
import CheckGateway.Proofs.Json.Encoded
import Mathlib.Data.List.Nodup

namespace CheckGateway

namespace Check

/-- The check reads a message queue. -/
def ReadsMessages (check : Check) : Prop :=
  check = getErrorMessageQueue ∨ check = getNewMessageInMessageQueue

/-- The check works over a session that it opens itself, and keeps nothing. -/
def OwnSession (check : Check) : Prop :=
  check = executeCommand ∨ check = getJobQueues ∨ check.ReadsMessages

instance (check : Check) : Decidable check.ReadsMessages :=
  inferInstanceAs (Decidable (check = _ ∨ check = _))

instance (check : Check) : Decidable check.OwnSession :=
  inferInstanceAs (Decidable (check = _ ∨ check = _ ∨ check.ReadsMessages))

/-- No two checks have names that differ only in case. -/
theorem eq_of_lower {check other : Check}
    (h : Text.lowerAscii check.name = Text.lowerAscii other.name) : check = other := by
  have hdistinct : (all.map fun check => Text.lowerAscii check.name).Nodup := by decide +kernel
  exact List.inj_on_of_nodup_map hdistinct (mem_all check) (mem_all other) h

end Check

namespace Request

/-- The command is the name of a check, up to blanks around it and the case of ASCII
letters. -/
def Names (r : Request) (check : Check) : Prop :=
  Text.eqIgnoreCase check.name (Text.trim r.command) = true

instance (r : Request) (check : Check) : Decidable (r.Names check) :=
  inferInstanceAs (Decidable (_ = true))

/-- An argument is a text, a number or a boolean, and reads so. -/
inductive Gives (r : Request) (name : String) : String → Prop where
  | string {s : String} (h : r.args.get? name = some (.string s)) : Gives r name s
  | number {n : Json.Number} (h : r.args.get? name = some (.number n)) : Gives r name n.text
  | bool {b : Bool} (h : r.args.get? name = some (.bool b)) :
      Gives r name (if b then "true" else "false")

/-- An entry of a list names a job queue. -/
structure NamesQueue (entry : Record) (ref : JobQueueRef) : Prop where
  name : entry.get? "name" = some (.string ref.name)
  library : entry.get? "library" = some (.string ref.library)

/-- A map has a text under a name. -/
def HasText (entry : Record) (name : String) : Prop := ∃ s, entry.get? name = some (.string s)

/-- An argument is a list of maps that name job queues, as such or encoded, and not
empty. -/
def ListsQueues (r : Request) (name : String) : Prop :=
  ∃ entries : List Record, entries ≠ []
    ∧ (∀ entry ∈ entries, HasText entry "name" ∧ HasText entry "library")
    ∧ (r.args.get? name = some (.array (entries.map Record.toValue))
      ∨ ∃ text, r.args.get? name = some (.string text)
        ∧ Json.parse text = .ok (.array (entries.map Record.toValue)))

/-- Something is wrong with the arguments of a request. -/
inductive Bad (r : Request) : Prop where
  | command (h : ∀ check, ¬ r.Names check)
  | cmdName (hcheck : r.Names .executeCommand) (h : ∀ s, ¬ r.Gives "cmdName" s)
  | queues (hcheck : r.Names .getJobQueues) (h : ¬ r.ListsQueues "queues")
  | path {check : Check} (hreads : check.ReadsMessages) (hcheck : r.Names check)
      (h : ∀ s, ¬ r.Gives "messageQueuePath" s)
  | pattern {check : Check} (hreads : check.ReadsMessages) (hcheck : r.Names check)
      {p : String} (hp : r.Gives "messageIdfilterPattern" p)
      (h : Pattern.readWhole? p = none)

section

variable {r : Request} {name s : String} {check : Check} {e : GatewayError} {v : Json.Value}
  {entry : Record} {ref : JobQueueRef}

/-- A command names a check in any case. -/
theorem ofCommand?_eq_some_iff : Check.ofCommand? r.command = some check ↔ r.Names check := by
  unfold Check.ofCommand? Names
  constructor
  · intro h
    have hnames := List.find?_some h
    exact hnames
  · intro h
    cases hfound : Check.all.find? fun check =>
        Text.eqIgnoreCase check.name (Text.trim r.command) with
    | none =>
        rw [List.find?_eq_none] at hfound
        exact absurd h (hfound check (Check.mem_all check))
    | some other =>
        have hother := List.find?_some hfound
        rw [Text.eqIgnoreCase_iff] at h hother
        rw [Check.eq_of_lower (h.trans hother.symm)]

theorem ofCommand?_eq_none_iff :
    Check.ofCommand? r.command = none ↔ ∀ check, ¬ r.Names check := by
  rw [Option.eq_none_iff_forall_ne_some]
  exact forall_congr' fun check => not_congr ofCommand?_eq_some_iff

/-- What a value gives: null is as good as nothing. -/
theorem arg?_eq_some_iff : r.arg? name = some v ↔ r.args.get? name = some v ∧ v ≠ .null := by
  unfold arg?
  rw [Option.filter_eq_some_iff]
  cases v <;> simp [Json.Value.isNull]

/-- An argument is a text if the request gives one. -/
theorem text?_eq_some_iff : r.text? name = some s ↔ r.Gives name s := by
  unfold text?
  constructor
  · intro h
    split at h
    next heq =>
      cases h
      exact .string (arg?_eq_some_iff.1 heq).1
    next heq =>
      cases h
      exact .number (arg?_eq_some_iff.1 heq).1
    next heq =>
      cases h
      exact .bool (arg?_eq_some_iff.1 heq).1
    next => cases h
  · intro h
    cases h with
    | string h => rw [arg?_eq_some_iff.2 ⟨h, nofun⟩]
    | number h => rw [arg?_eq_some_iff.2 ⟨h, nofun⟩]
    | bool h => rw [arg?_eq_some_iff.2 ⟨h, nofun⟩]

theorem text?_eq_none_iff : r.text? name = none ↔ ∀ s, ¬ r.Gives name s := by
  rw [Option.eq_none_iff_forall_ne_some]
  exact forall_congr' fun s => not_congr text?_eq_some_iff

-- ====================================================================== job queues

theorem map_eq_ok_iff : Json.Decode.map v = .ok entry ↔ v = entry.toValue := by
  cases v with
  | object members =>
      constructor
      · intro h
        cases h
        rfl
      · intro h
        cases h
        rfl
  | _ => exact iff_of_false nofun nofun

theorem sequence_map_eq_ok_iff {entries : List Record} :
    Json.Decode.sequence Json.Decode.map v = .ok entries
      ↔ v = .array (entries.map Record.toValue) := by
  cases v with
  | array items =>
      have hitems : items = entries.map Record.toValue
          ↔ List.Forall₂ Eq items (entries.map Record.toValue) := by
        rw [List.forall₂_eq_eq_eq]
      rw [Json.Value.array.injEq, hitems, List.forall₂_map_right_iff]
      show items.mapM Json.Decode.map = .ok entries ↔ _
      rw [mapM_eq_ok_iff]
      simp only [map_eq_ok_iff]
  | _ => exact iff_of_false nofun nofun

/-- A list of objects is given as such or as a text that encodes one. -/
theorem mapList_eq_ok_iff {entries : List Record} :
    mapList v = .ok entries ↔ v = .array (entries.map Record.toValue)
      ∨ ∃ text, v = .string text ∧ Json.parse text = .ok (.array (entries.map Record.toValue)) := by
  cases v with
  | string text =>
      show Wire.readMapList text = .ok entries ↔ _
      rw [Json.readMapList_eq_ok_iff]
      constructor
      · exact fun h => .inr ⟨text, rfl, h⟩
      · rintro (h | ⟨text', heq, h⟩)
        · cases h
        · cases heq
          exact h
  | null | bool | number | array | object =>
      unfold mapList
      rw [sequence_map_eq_ok_iff]
      exact (or_iff_left fun h => h.elim fun text htext => nomatch htext.1).symm

/-- An object names a queue if it has the two texts. -/
theorem queueRef_eq_ok_iff : queueRef name entry = .ok ref ↔ NamesQueue entry ref := by
  unfold queueRef
  constructor
  · intro h
    split at h
    next queue library hqueue hlibrary =>
      cases h
      obtain ⟨v, hv, hqueue⟩ := Option.bind_eq_some_iff.1 hqueue
      obtain ⟨w, hw, hlibrary⟩ := Option.bind_eq_some_iff.1 hlibrary
      cases v <;> cases hqueue
      cases w <;> cases hlibrary
      exact ⟨hv, hw⟩
    next => cases h
  · rintro ⟨hname, hlibrary⟩
    rw [hname, hlibrary]
    rfl

/-- There is one thing only that can be wrong with an entry. -/
theorem queueRef_eq_error_iff : queueRef name entry = .error e
    ↔ (∀ ref, ¬ NamesQueue entry ref)
      ∧ e = .invalidArgument name "JobQueue name/library attribute must be set" := by
  cases hread : queueRef name entry with
  | ok ref => exact iff_of_false nofun fun h => h.1 ref (queueRef_eq_ok_iff.1 hread)
  | error e' =>
      have hnone : ∀ ref, ¬ NamesQueue entry ref := by
        intro ref h
        rw [queueRef_eq_ok_iff.2 h] at hread
        cases hread
      have he' : e' = .invalidArgument name "JobQueue name/library attribute must be set" := by
        unfold queueRef at hread
        split at hread
        · cases hread
        · cases hread
          rfl
      rw [← he']
      exact ⟨fun h => ⟨hnone, (Except.error.inj h).symm⟩, fun h => congrArg _ h.2.symm⟩

theorem queueRef_ok_iff :
    (∃ ref, queueRef name entry = .ok ref) ↔ HasText entry "name" ∧ HasText entry "library" := by
  constructor
  · rintro ⟨ref, h⟩
    obtain ⟨hname, hlibrary⟩ := queueRef_eq_ok_iff.1 h
    exact ⟨⟨_, hname⟩, ⟨_, hlibrary⟩⟩
  · rintro ⟨⟨queue, hqueue⟩, ⟨library, hlibrary⟩⟩
    exact ⟨⟨queue, library⟩, queueRef_eq_ok_iff.2 ⟨hqueue, hlibrary⟩⟩

/-- Queues are read exactly if the request lists them. -/
theorem queueRefs_ok_iff : (∃ refs, r.queueRefs name = .ok refs) ↔ r.ListsQueues name := by
  unfold queueRefs
  constructor
  · rintro ⟨refs, h⟩
    split at h
    next => cases h
    next v hv =>
      obtain ⟨hget, -⟩ := arg?_eq_some_iff.1 hv
      split at h
      next => cases h
      next => cases h
      next entries hnonempty hentries =>
        refine ⟨entries, hnonempty, fun entry hentry => ?_, ?_⟩
        · exact queueRef_ok_iff.1 (exists_mapM_eq_ok_iff.1 ⟨refs, h⟩ entry hentry)
        · rcases mapList_eq_ok_iff.1 hentries with rfl | ⟨text, rfl, htext⟩
          · exact .inl hget
          · exact .inr ⟨text, hget, htext⟩
  · rintro ⟨entries, hnonempty, hall, hgiven⟩
    have hlist : ∃ v, r.arg? name = some v ∧ mapList v = .ok entries := by
      rcases hgiven with hget | ⟨text, hget, htext⟩
      · exact ⟨_, arg?_eq_some_iff.2 ⟨hget, nofun⟩, mapList_eq_ok_iff.2 (.inl rfl)⟩
      · exact ⟨_, arg?_eq_some_iff.2 ⟨hget, nofun⟩, mapList_eq_ok_iff.2 (.inr ⟨text, rfl, htext⟩)⟩
    obtain ⟨v, hv, hentries⟩ := hlist
    rw [hv]
    dsimp only
    rw [hentries]
    cases entries with
    | nil => exact absurd rfl hnonempty
    | cons entry entries =>
        exact exists_mapM_eq_ok_iff.2 fun e he => queueRef_ok_iff.2 (hall e he)

/-- Whatever is wrong with them is wrong with an argument. -/
theorem kind_of_queueRefs (h : r.queueRefs name = .error e) : e.kind = .argument := by
  unfold queueRefs at h
  split at h
  · cases h
    rfl
  · split at h
    next => cases h; rfl
    next => cases h; rfl
    next =>
      obtain ⟨-, entry, -, -, -, hentry⟩ := mapM_eq_error_iff.1 h
      rw [(queueRef_eq_error_iff.1 hentry).2]
      rfl

-- ================================================================ queries and filters

theorem requiredText_eq_ok_iff : r.requiredText name = .ok s ↔ r.Gives name s := by
  unfold requiredText
  cases htext : r.text? name with
  | none =>
      rw [text?_eq_none_iff] at htext
      exact iff_of_false nofun (htext s)
  | some given =>
      rw [← text?_eq_some_iff, htext, Option.some.injEq]
      exact ⟨Except.ok.inj, congrArg _⟩

/-- A text that is not given is a missing field. -/
theorem requiredText_eq_error (h : ∀ s, ¬ r.Gives name s) :
    r.requiredText name = .error (.missingField name) := by
  unfold requiredText
  rw [text?_eq_none_iff.2 h]

/-- The query of a message queue check names the queue, and the pattern if there is
one. -/
theorem messageQuery_eq {path : String} (h : r.Gives "messageQueuePath" path) :
    ∃ band, r.messageQuery = .ok ⟨path, r.text? MessageFilter.patternField, band⟩ := by
  unfold messageQuery
  rw [requiredText_eq_ok_iff.2 h]
  exact ⟨_, rfl⟩

theorem messageQuery_eq_error (h : ∀ s, ¬ r.Gives "messageQueuePath" s) :
    r.messageQuery = .error (.missingField "messageQueuePath") := by
  unfold messageQuery
  rw [requiredText_eq_error h]
  rfl

/-- A pattern that cannot be read is an argument that is no good. -/
theorem ofQuery_eq_error {query : MessageQuery} {p : String} (hpattern : query.idPattern = some p)
    (h : Pattern.readWhole? p = none) :
    MessageFilter.ofQuery query
      = .error (.invalidArgument MessageFilter.patternField "<regex error>") := by
  unfold MessageFilter.ofQuery MessageFilter.readPattern
  rw [hpattern]
  dsimp only
  rw [h]
  rfl

/-- Any other makes a filter. -/
theorem ofQuery_ok {query : MessageQuery}
    (h : ∀ p, query.idPattern = some p → Pattern.readWhole? p ≠ none) :
    ∃ filter, MessageFilter.ofQuery query = .ok filter := by
  unfold MessageFilter.ofQuery MessageFilter.readPattern
  cases hpattern : query.idPattern with
  | none => exact ⟨_, rfl⟩
  | some p =>
      obtain ⟨regex, hregex⟩ := Option.ne_none_iff_exists'.1 (h p hpattern)
      dsimp only
      rw [hregex]
      exact ⟨_, rfl⟩

-- ==================================================================== what is done

open Handler

/-- The checks over a session of their own, when their arguments are in order. -/
inductive Opening (ctx : JobContext) : Job Result → Prop where
  | command (command : String) : Opening ctx (recordsOnly (executeCommand command))
  | queues (refs : List JobQueueRef) : Opening ctx (recordsOnly (getJobQueues refs))
  | all {query : MessageQuery} {filter : MessageFilter}
      (h : MessageFilter.ofQuery query = .ok filter) : Opening ctx (readAll query)
  | new {query : MessageQuery} {filter : MessageFilter}
      (h : MessageFilter.ofQuery query = .ok filter) : Opening ctx (readNew ctx query)

/-- A command is carried out when its text has been read. -/
theorem carryOut_executeCommand (h : r.Names .executeCommand) (ctx : JobContext) :
    carryOut ctx r
      = Job.ofOutcome (r.requiredText "cmdName") >>= fun c => recordsOnly (executeCommand c) := by
  unfold carryOut
  rw [ofCommand?_eq_some_iff.2 h]

/-- Job queues are looked up when their names have been read. -/
theorem carryOut_getJobQueues (h : r.Names .getJobQueues) (ctx : JobContext) :
    carryOut ctx r
      = Job.ofOutcome (r.queueRefs "queues") >>= fun refs => recordsOnly (getJobQueues refs) := by
  unfold carryOut
  rw [ofCommand?_eq_some_iff.2 h]

/-- A queue is read when the query has been read. -/
theorem carryOut_readAll (h : r.Names .getErrorMessageQueue) (ctx : JobContext) :
    carryOut ctx r = Job.ofOutcome r.messageQuery >>= readAll := by
  unfold carryOut
  rw [ofCommand?_eq_some_iff.2 h]

/-- A queue is polled when the query has been read. -/
theorem carryOut_readNew (h : r.Names .getNewMessageInMessageQueue) (ctx : JobContext) :
    carryOut ctx r = Job.ofOutcome r.messageQuery >>= readNew ctx := by
  unfold carryOut
  rw [ofCommand?_eq_some_iff.2 h]

/-- Of bad arguments nothing comes but an error that says so. -/
theorem carryOut_of_bad (h : r.Bad) :
    ∃ e : GatewayError, e.kind = .argument ∧ ∀ ctx, carryOut ctx r = Job.fail e := by
  have hmessages {check : Check} (hreads : check.ReadsMessages) (hcheck : r.Names check)
      {e : GatewayError} (hkind : e.kind = .argument)
      (hfails : ∀ ctx, (Job.ofOutcome r.messageQuery >>= readAll) = Job.fail e
        ∧ (Job.ofOutcome r.messageQuery >>= readNew ctx) = Job.fail e) :
      ∃ e : GatewayError, e.kind = .argument ∧ ∀ ctx, carryOut ctx r = Job.fail e := by
    refine ⟨e, hkind, fun ctx => ?_⟩
    rcases hreads with rfl | rfl
    · exact (carryOut_readAll hcheck ctx).trans (hfails ctx).1
    · exact (carryOut_readNew hcheck ctx).trans (hfails ctx).2
  cases h with
  | command h =>
      refine ⟨.unknownCheck r.command, rfl, fun ctx => ?_⟩
      unfold carryOut
      rw [ofCommand?_eq_none_iff.2 h]
  | cmdName hcheck h =>
      refine ⟨.missingField "cmdName", rfl, fun ctx => ?_⟩
      rw [carryOut_executeCommand hcheck, requiredText_eq_error h]
      rfl
  | queues hcheck h =>
      cases hrefs : r.queueRefs "queues" with
      | ok refs => exact absurd (queueRefs_ok_iff.1 ⟨refs, hrefs⟩) h
      | error e =>
          refine ⟨e, kind_of_queueRefs hrefs, fun ctx => ?_⟩
          rw [carryOut_getJobQueues hcheck, hrefs]
          rfl
  | path hreads hcheck h =>
      refine hmessages hreads hcheck (e := .missingField "messageQueuePath") rfl fun ctx => ?_
      rw [messageQuery_eq_error h]
      exact ⟨rfl, rfl⟩
  | @pattern check hreads hcheck p hp h =>
      by_cases hpath : ∃ path, r.Gives "messageQueuePath" path
      · obtain ⟨path, hpath⟩ := hpath
        obtain ⟨band, hquery⟩ := messageQuery_eq hpath
        have hfilter : MessageFilter.ofQuery ⟨path, r.text? MessageFilter.patternField, band⟩
            = .error (.invalidArgument MessageFilter.patternField "<regex error>") :=
          ofQuery_eq_error (text?_eq_some_iff.2 hp) h
        refine hmessages hreads hcheck
          (e := .invalidArgument MessageFilter.patternField "<regex error>") rfl fun ctx => ?_
        rw [hquery]
        constructor
        · show readAll _ = _
          unfold readAll
          rw [hfilter]
          rfl
        · show readNew ctx _ = _
          unfold readNew
          rw [hfilter]
          rfl
      · refine hmessages hreads hcheck (e := .missingField "messageQueuePath") rfl fun ctx => ?_
        rw [messageQuery_eq_error (not_exists.1 hpath)]
        exact ⟨rfl, rfl⟩

/-- With good arguments a check over a session of its own comes to that session. -/
theorem carryOut_of_good (h : ¬ r.Bad) (hcheck : r.Names check) (hown : check.OwnSession)
    (ctx : JobContext) : Opening ctx (carryOut ctx r) := by
  rcases hown with rfl | rfl | hreads
  · obtain ⟨command, hcommand⟩ : ∃ s, r.Gives "cmdName" s := by
      by_contra hnone
      exact h (.cmdName hcheck (not_exists.1 hnone))
    rw [carryOut_executeCommand hcheck, requiredText_eq_ok_iff.2 hcommand]
    exact .command command
  · obtain ⟨refs, hrefs⟩ : ∃ refs, r.queueRefs "queues" = .ok refs := by
      by_contra hnone
      exact h (.queues hcheck (mt queueRefs_ok_iff.2 hnone))
    rw [carryOut_getJobQueues hcheck, hrefs]
    exact .queues refs
  · obtain ⟨path, hpath⟩ : ∃ s, r.Gives "messageQueuePath" s := by
      by_contra hnone
      exact h (.path hreads hcheck (not_exists.1 hnone))
    obtain ⟨band, hquery⟩ := messageQuery_eq hpath
    obtain ⟨filter, hfilter⟩ :
        ∃ filter, MessageFilter.ofQuery ⟨path, r.text? MessageFilter.patternField, band⟩
          = .ok filter := by
      refine ofQuery_ok fun p hp hnone => ?_
      exact h (.pattern hreads hcheck (text?_eq_some_iff.1 hp) hnone)
    rcases hreads with rfl | rfl
    · rw [carryOut_readAll hcheck, hquery]
      exact .all hfilter
    · rw [carryOut_readNew hcheck, hquery]
      exact .new hfilter

end

end Request

end CheckGateway
