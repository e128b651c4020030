/-
The filter of requests in flight is exact: it holds the fingerprints that
are admitted and not released, every admission is released once, and no two
items with one fingerprint are ever queued or executed together.

# Whose release it is

`Exact.owners` says where an admission stands that is not released: with
its guard or with its item, never with both. So a guard that is dropped and
a hook that fires release their own admission, even where the same
fingerprint has been admitted again since (`exact_of_overtaken_guard` is a
run in which that happens before the first submitter gets to hand off).
-/
import CheckGateway.Proofs.Dispatch.Progress

namespace CheckGateway.Dispatch

variable {Job Reply : Type}

/-- An admission that has not been released. -/
def Unreleased (log : List (Deed Job Reply)) (c : Nat × String) : Prop :=
  c ∈ admissions log ∧ c ∉ releases log

section

variable {log : List (Deed Job Reply)} {d d' : Dispatcher Job Reply}
  {a : Deed Job Reply} {c : Nat × String}

/-- Every claim is one admission, and none has been released. -/
theorem Ledger.nodup_account (h : Ledger log d) :
    ((d.claims ++ releases log).map Prod.fst).Nodup :=
  (h.account.map Prod.fst).nodup h.distinct

theorem nodup_of_map {α β : Type} {f : α → β} {l : List α} (h : (l.map f).Nodup) :
    l.Nodup :=
  (List.pairwise_map.1 h).imp fun hne heq => hne (congrArg f heq)

/-- What has not been released is what guards and hooks are to release. -/
theorem Ledger.unreleased_iff (h : Ledger log d) :
    Unreleased log c ↔ c ∈ d.claims := by
  have hmem := h.account.mem_iff (a := c)
  rw [List.mem_append] at hmem
  have hapart := (List.nodup_append.1 (nodup_of_map h.nodup_account)).2.2
  constructor
  · rintro ⟨hin, hout⟩
    exact (hmem.1 hin).resolve_right hout
  · intro hclaim
    exact ⟨hmem.2 (.inl hclaim), fun hout => hapart c hclaim c hout rfl⟩

theorem Ledger.holds_iff (h : Ledger log d) (fp : String) :
    d.inFlight.holds fp = true ↔ ∃ t, Unreleased log (t, fp) := by
  rw [h.holds, List.mem_map]
  constructor
  · rintro ⟨⟨t, fp⟩, hclaim, rfl⟩
    exact ⟨t, h.unreleased_iff.2 hclaim⟩
  · rintro ⟨t, hopen⟩
    exact ⟨(t, fp), h.unreleased_iff.1 hopen, rfl⟩

/-- One fingerprint has one admission at a time. -/
theorem Ledger.unique (h : Ledger log d) {t t' : Nat} {fp : String}
    (ht : Unreleased log (t, fp)) (ht' : Unreleased log (t', fp)) : t = t' := by
  have hclaim := h.unreleased_iff.1 ht
  have hclaim' := h.unreleased_iff.1 ht'
  have halone := h.alone
  obtain ⟨front, back, hsplit⟩ := List.append_of_mem hclaim
  have hperm : d.claims.Perm ((t, fp) :: (front ++ back)) := by
    rw [hsplit]
    exact List.perm_middle
  have hnot := (List.nodup_cons.1 ((hperm.map Prod.snd).nodup halone)).1
  rcases List.mem_cons.1 (hperm.mem_iff.1 hclaim') with heq | hmem
  · exact (congrArg Prod.fst heq).symm
  · exact absurd (List.mem_map_of_mem (f := Prod.snd) hmem) hnot

/-- A request is admitted where its fingerprint is absent. -/
theorem Ledger.admits_iff (h : Ledger log d) {kind : PoolKind} {item : Item Job}
    (hnew : item.ticket ∉ d.tickets) :
    (∃ d', Step d (.admitted kind item) d') ↔ ¬ ∃ t, Unreleased log (t, item.fingerprint) := by
  rw [← h.holds_iff, Bool.not_eq_true]
  constructor
  · rintro ⟨d', hstep⟩
    cases hstep with
    | letIn kind item now _ haccept => exact (InFlight.accept_isOk ..).1 ⟨_, haccept⟩
  · intro habsent
    obtain ⟨f, haccept⟩ := (InFlight.accept_isOk d.inFlight _ ⟨0, 0⟩).2 habsent
    exact ⟨_, .letIn kind item ⟨0, 0⟩ hnew haccept⟩

/-- A request is rejected where its fingerprint is present. -/
theorem Ledger.rejects_iff (h : Ledger log d) (fp : String) :
    (∃ e d', Step d (.rejected fp e) d') ↔ ∃ t, Unreleased log (t, fp) := by
  rw [← h.holds_iff]
  constructor
  · rintro ⟨e, d', hstep⟩
    cases hstep with
    | reject fp now hreject =>
        refine Decidable.byContradiction fun habsent => ?_
        rw [Bool.not_eq_true] at habsent
        obtain ⟨f, haccept⟩ := (InFlight.accept_isOk d.inFlight _ now).2 habsent
        rw [haccept] at hreject
        cases hreject
  · intro hpresent
    cases hreject : d.inFlight.accept fp ⟨0, 0⟩ with
    | error e => exact ⟨e, d, .reject fp ⟨0, 0⟩ hreject⟩
    | ok f =>
        rw [(InFlight.accept_isOk ..).1 ⟨f, hreject⟩] at hpresent
        cases hpresent

/-- Items that are queued or executed have different fingerprints. -/
theorem Ledger.single (h : Ledger log d) : (d.work.map Prod.snd).Nodup := by
  have halone := h.alone
  unfold Dispatcher.claims at halone
  rw [List.map_append] at halone
  exact (List.nodup_append.1 halone).2.1

/-- What a step releases is an admission that has not been released. -/
theorem Ledger.unreleased_of_release (h : Ledger (log ++ [a]) d')
    (hstep : Step d a d') (hmem : c ∈ releases [a]) : Unreleased log c := by
  rcases hstep.inFlight with ⟨_, _, -, hnone, -⟩ | ⟨other, hadmissions, hone, -⟩
    | ⟨-, hnone, -⟩
  · rw [hnone] at hmem
    cases hmem
  · rw [hone, List.mem_singleton] at hmem
    subst hmem
    have haccount := h.account
    have hnodup := h.nodup_account
    rw [admissions_snoc, releases_snoc, hadmissions, hone, List.append_nil] at haccount
    rw [releases_snoc, hone] at hnodup
    have hreleases := (List.nodup_append.1 (nodup_of_map hnodup)).2.1
    refine ⟨haccount.mem_iff.2 ?_, fun hold => ?_⟩
    · exact List.mem_append_right _ (List.mem_append_right _ (List.mem_singleton.2 rfl))
    · exact (List.nodup_append.1 hreleases).2.2 c hold c (List.mem_singleton.2 rfl) rfl
  · rw [hnone] at hmem
    cases hmem

end

-- ============================================================= the whole

/-- What is true of a dispatcher at every point of every run. -/
structure Exact (pools : PoolKind → Pool Job Reply) (log : List (Deed Job Reply))
    (d : Dispatcher Job Reply) : Prop where
  /-- The filter holds what has been admitted and not released. -/
  holds : ∀ fp, d.inFlight.holds fp = true ↔ ∃ t, Unreleased log (t, fp)
  /-- A request is admitted where its fingerprint is absent, and rejected
  where it is present. -/
  admits : ∀ kind (item : Item Job), item.ticket ∉ d.tickets →
    ((∃ d', Step d (.admitted kind item) d')
      ↔ ¬ ∃ t, Unreleased log (t, item.fingerprint))
  rejects : ∀ fp, (∃ e d', Step d (.rejected fp e) d')
    ↔ ∃ t, Unreleased log (t, fp)
  /-- Every admission has a ticket of its own, and is released at most once,
  be it by its guard or by the hook. -/
  distinct : ((admissions log).map Prod.fst).Nodup
  once : ((releases log).map Prod.fst).Nodup
  own : ∀ c ∈ releases log, c ∈ admissions log
  /-- A release is that of the one admission that the filter's entry stands
  for. -/
  release : ∀ a d' c, Step d a d' → c ∈ releases [a] →
    Unreleased log c ∧ ∀ t, Unreleased log (t, c.2) → t = c.1
  /-- What is not released is with a guard or with an item. -/
  owners : ∀ c, Unreleased log c ↔ c ∈ heldBy d.guards ∨ c ∈ d.work
  apart : (heldBy d.guards ++ d.work).Nodup
  /-- Items that are queued or executed have different fingerprints. -/
  single : (d.work.map Prod.snd).Nodup
  /-- A lane can do whatever its pool could do by itself, except that only
  an admitted request asks it for anything. -/
  unhindered : ∀ kind act s, Pool.Step (d.lanes kind) act s →
    (∀ item, act ≠ .asked item) →
    ∃ d', Step d (.lane kind act) d' ∧ d'.lanes = (d.setLane kind s).lanes
  /-- Guards and workers by themselves come to release every admission. -/
  drains : ∃ more d', Run pools (log ++ more) d' ∧ admissions more = []
    ∧ (admissions log).Perm (releases (log ++ more))

section

variable {specs : PoolKind → PoolSpec} {numbers : PoolKind → Nat}
  {pools : PoolKind → Pool Job Reply} {log : List (Deed Job Reply)}
  {d : Dispatcher Job Reply}

/-- Whatever the order in which submitters, workers and those who shut pools
down come to act, the filter of a dispatcher is exact. -/
theorem exact_of_run
    (hstart : ∀ kind, Pool.start? (specs kind) (numbers kind) = some (pools kind))
    (hrun : Run pools log d) : Exact pools log d := by
  have hfresh : ∀ kind, Pool.Fresh (pools kind) := fun kind =>
    (Pool.start?_eq (hstart kind)).1
  have hworkers : ∀ kind, 0 < (pools kind).workers := by
    intro kind
    rw [(Pool.start?_eq (hstart kind)).2.1]
    exact Nat.le_max_right ..
  have h := hrun.ledger hfresh
  have hnodup := h.nodup_account
  rw [List.map_append] at hnodup
  refine ⟨h.holds_iff, fun kind item hnew => h.admits_iff hnew, h.rejects_iff, h.distinct,
    (List.nodup_append.1 hnodup).2.1, fun c hc => ?_, fun a d' c hstep hc => ?_,
    fun c => ?_, ?_, h.single, fun kind act s hlane hno => ?_, ?_⟩
  · exact h.account.mem_iff.2 (List.mem_append_right _ hc)
  · have hopen := ((hrun.step hstep).ledger hfresh).unreleased_of_release hstep hc
    exact ⟨hopen, fun t ht => h.unique ht hopen⟩
  · rw [h.unreleased_iff]
    exact List.mem_append
  · exact nodup_of_map h.alone
  · have hplaced := ((hrun.lane kind).books (hfresh kind)).placed
    exact (hrun.tied hfresh).exists_of_lane hlane hno hplaced.nodup
  · obtain ⟨more, d', hrun', hmore, hdue⟩ := hrun.drains hfresh hworkers
    have haccount := (hrun'.ledger hfresh).account
    rw [claims_of_due hdue, List.nil_append] at haccount
    have hsame : admissions (log ++ more) = admissions log := by
      have happend : admissions (log ++ more) = admissions log ++ admissions more :=
        List.filterMap_append ..
      rw [happend, hmore, List.append_nil]
    rw [hsame] at haccount
    exact ⟨more, d', hrun', hmore, haccount⟩

/-- The pools of a tenant, each of one worker with room for one item. -/
def smallPools (kind : PoolKind) : Pool Unit Unit :=
  ⟨PoolSpec.name ⟨"host", kind, 0, 0, 0⟩ 0, 1, 1, 0, [], [], false⟩

/-- A worker serves an item, and an identical request is admitted and a
third one rejected, before the first submitter hands off. The second request
finds its pool shut down. -/
def overtaken : List (Deed Unit Unit) :=
  [.admitted .global ⟨0, "fp", ()⟩, .lane .global (.asked ⟨0, "fp", ()⟩),
    .lane .global (.entered 0), .lane .global (.accepted ⟨0, "fp", ()⟩),
    .lane .global (.did (.took 0)), .lane .global (.ended 0 (some ())),
    .lane .global (.did (.released 0 "fp")),
    .lane .global (.did (.delivered 0 (some ()))),
    .admitted .global ⟨1, "fp", ()⟩, .rejected "fp" (.duplicateInFlight 0),
    .handedOff 0, .lane .global (.asked ⟨1, "fp", ()⟩), .lane .global .shutDown,
    .lane .global (.refused 1 (smallPools .global).refusal), .dropped 1 "fp"]

/-- The first guard does not release the second admission. -/
theorem exact_of_overtaken_guard :
    ∃ d, Run smallPools overtaken d ∧ Exact smallPools overtaken d := by
  have hstart : ∀ kind, Pool.start? ⟨"host", kind, 0, 0, 0⟩ 0 = some (smallPools kind) :=
    fun kind => by cases kind <;> rfl
  have hrun : Run smallPools [] _ := .start
  have hrun := hrun.step (.letIn .global ⟨0, "fp", ()⟩ ⟨0, 0⟩ (by decide) rfl)
  have hrun := hrun.step (.ask (show _ = [] ++ _ :: [] from rfl) (.ask _ (by decide)))
  have hrun := hrun.step (.move .global rfl (.enter (show _ = [] ++ _ :: [] from rfl) rfl))
  have hrun := hrun.step (.accept (show _ = [] ++ _ :: [] from rfl)
    (.accept (show _ = [] ++ _ :: [] from rfl) rfl))
  have hrun := hrun.step (.move .global rfl (.take rfl (by decide) rfl))
  have hrun := hrun.step (.move .global rfl (.finish (some ()) (List.mem_cons_self ..) rfl))
  have hrun := hrun.step (.release .global (.release (List.mem_cons_self ..) rfl))
  have hrun := hrun.step (.move .global rfl (.deliver (List.mem_cons_self ..) rfl))
  have hrun := hrun.step (.letIn .global ⟨1, "fp", ()⟩ ⟨0, 0⟩ (by decide) rfl)
  have hrun := hrun.step (.reject "fp" ⟨0, 0⟩ rfl)
  have hrun := hrun.step (.handOff (show _ = [] ++ _ :: [_] from rfl))
  have hrun := hrun.step (.ask (show _ = [] ++ _ :: [] from rfl) (.ask _ (by decide)))
  have hrun := hrun.step (.move .global rfl .shutDown)
  have hrun := hrun.step (.refuse (show _ = [] ++ _ :: [] from rfl)
    (.turnAway (show _ = [] ++ _ :: [] from rfl) rfl))
  have hrun := hrun.step (.drop (show _ = [] ++ _ :: [] from rfl))
  exact ⟨_, hrun, exact_of_run hstart hrun⟩

end

end CheckGateway.Dispatch
