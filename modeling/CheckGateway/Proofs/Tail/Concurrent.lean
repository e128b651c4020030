/-
Polls of one key that run at once.

Nothing is held across the calls of a poll. Any number of polls may look up
the same watermark before one of them notes a new one, and the notes may
come in any order: one that has read an older entry puts it in the place of
a newer one. So an entry can be told to several polls, and a watermark can
go back.

# What can be said

A poll depends on what it was answered and on nothing else. What it reports
is what it was shown and what is later than its baseline, the entry that
had been noted last when it began (`Crowd.Explained`). Two polls tell the
same entry exactly if both were shown it and it is later than both their
baselines, and the stored watermark is the entry that was noted last,
whatever else was read.

# Shape of the argument

`poll_stands` follows one poll through its answers, by `Leaves`. The polls
of a crowd are followed all together by `Sound`, which one lemma for each
kind of deed preserves.
-/
import CheckGateway.Proofs.Tail.Growing
import Mathlib.Data.List.TakeWhile

namespace CheckGateway.Tail

-- ======================================================= one poll's answers

section

variable {ε : Type}

/-- A call of a poll with its answer. -/
abbrev Exchange (ε : Type) := (c : Call) × Answer ε c

/-- The entries that an answer shows. -/
def Exchange.shows : Exchange ε → List QueuedMessage
  | ⟨.page .., page⟩ =>
      match (page : Except ε (List QueuedMessage)) with
      | .ok entries => entries
      | .error _ => []
  | _ => []

/-- The entry that a call notes. -/
def Exchange.notes : Exchange ε → Option QueuedMessage
  | ⟨.note _ entry, _⟩ => some entry
  | _ => none

/-- The call looks up a watermark. -/
def Exchange.looksUp : Exchange ε → Bool
  | ⟨.watermark _, _⟩ => true
  | _ => false

/-- All that has been shown. -/
def shown (es : List (Exchange ε)) : List QueuedMessage := es.flatMap Exchange.shows

/-- All that has been noted. -/
def noted (es : List (Exchange ε)) : List QueuedMessage := es.filterMap Exchange.notes

/-- Every answer shows the later entries first. -/
def Decreasing (es : List (Exchange ε)) : Prop :=
  ∀ e ∈ es, e.shows.Pairwise fun a b => b.date < a.date

/-- Where a poll of an established key stands after its first look-up. -/
inductive Stands (key : WatermarkKey) (mark : QueuedMessage)
    (es : List (Exchange ε)) : Poll ε (Except ε Report) → Prop where
  | asking {path : String} {next} (hnoted : noted es = []) :
      Stands key mark es (.call (.length path) next)
  | reading {path : String} {offset count : Nat} {next} (hnoted : noted es = []) :
      Stands key mark es (.call (.page path offset count) next)
  | noting {entry : QueuedMessage} {next} (hnoted : noted es = [])
      (hfirst : (shown es).head? = some entry) :
      Stands key mark es (.call (.note key entry) next)
  | failed {e : ε} (hnoted : noted es = []) : Stands key mark es (.done (.error e))
  | ended (hnoted : noted es = (shown es).head?.toList) :
      Stands key mark es
        (.done (.ok (.new ((shown es).filter fun x => !stops mark x))))

theorem shown_append (es later : List (Exchange ε)) :
    shown (es ++ later) = shown es ++ shown later :=
  List.flatMap_append

theorem noted_append (es later : List (Exchange ε)) :
    noted (es ++ later) = noted es ++ noted later :=
  List.filterMap_append

variable {key : WatermarkKey} {mark : QueuedMessage} {path : String} {size : Nat}

/-- What a scan has found after some more answers, if no answer but the last
stops it. -/
def Found.upTo (found : Found) (mark : QueuedMessage) (es : List (Exchange ε)) :
    Found :=
  ⟨found.newest.or (shown es).head?,
    found.fresh ++ (shown es).filter fun x => !stops mark x⟩

theorem Found.upTo_nil (found : Found) :
    found.upTo mark ([] : List (Exchange ε)) = found := by
  show Found.mk (found.newest.or none) (found.fresh ++ []) = found
  rw [Option.or_none, List.append_nil]

/-- A page of decreasing dates adds the entries that do not stop the
scan. -/
theorem Found.add_upTo (found : Found) {entries : List QueuedMessage}
    {es later : List (Exchange ε)} (hshown : shown es = entries ++ shown later)
    (hentries : entries.Pairwise fun a b => b.date < a.date) :
    (found.add mark entries).upTo mark later = found.upTo mark es := by
  unfold Found.add Found.upTo
  dsimp only
  rw [hshown, newer_eq_filter_of_decreasing hentries, List.filter_append,
    List.append_assoc, List.head?_append, Option.or_assoc]

/-- Where a scan stands after some answers. Once it is over it has found
what it was shown and what does not stop it; it notes nothing. -/
theorem scan_leaves {length rounds offset : Nat} {found : Found}
    {es : List (Exchange ε)} {q : Poll ε (Except ε Found)}
    (h : Routine.Leaves (scan size path mark length rounds offset found) es q)
    (hpages : Decreasing es) :
    noted es = []
      ∧ ((∃ path offset count next, q = .call (.page path offset count) next)
        ∨ (∃ e, q = .done (.error e)) ∨ q = .done (.ok (found.upTo mark es))) := by
  have hover {es : List (Exchange ε)} {q : Poll ε (Except ε Found)} {found : Found}
      (h : Routine.Leaves (.done (.ok found)) es q) :
      es = [] ∧ q = .done (.ok (found.upTo mark es)) := by
    obtain ⟨rfl, rfl⟩ := Routine.leaves_done_iff.1 h
    exact ⟨rfl, by rw [Found.upTo_nil]⟩
  -- on the rounds left: each page adds to what was found what it shows
  induction rounds generalizing offset found es with
  | zero =>
      obtain ⟨rfl, hq⟩ := hover h
      exact ⟨rfl, .inr (.inr hq)⟩
  | succ rounds ih =>
      rw [scan_succ] at h
      split at h
      · obtain ⟨rfl, hq⟩ := hover h
        exact ⟨rfl, .inr (.inr hq)⟩
      rcases Routine.leaves_call_iff.1 h with ⟨rfl, rfl⟩ | ⟨page, later, rfl, hrest⟩
      · exact ⟨rfl, .inl ⟨_, _, _, _, rfl⟩⟩
      obtain ⟨hpage, hlater⟩ := List.forall_mem_cons.1 hpages
      match page with
      | .error e =>
          obtain ⟨rfl, rfl⟩ := Routine.leaves_done_iff.1 hrest
          exact ⟨rfl, .inr (.inl ⟨e, rfl⟩)⟩
      | .ok [] =>
          obtain ⟨rfl, hq⟩ := hover hrest
          exact ⟨rfl, .inr (.inr hq)⟩
      | .ok (m :: rest) =>
          change Routine.Leaves (if _ then _ else _) _ _ at hrest
          have hshown : shown (⟨.page path offset size, .ok (m :: rest)⟩ :: later :
              List (Exchange ε)) = (m :: rest) ++ shown later := rfl
          have hadd : (found.add mark (m :: rest)).upTo mark later = _ :=
            found.add_upTo hshown hpage
          split at hrest
          · obtain ⟨rfl, hq⟩ := hover hrest
            exact ⟨rfl, .inr (.inr (hadd ▸ hq))⟩
          · obtain ⟨hnoted, hq⟩ := ih hrest hlater
            exact ⟨hnoted, hadd ▸ hq⟩

/-- Where a poll stands once its scan has found all that it was shown. -/
theorem note_stands {before later : List (Exchange ε)}
    {q : Poll ε (Except ε Report)} (hnoted : noted before = [])
    (h : Routine.Leaves (do
      match (shown before).head? with
      | some entry => note key entry
      | none => pure ()
      .done (.ok (.new ((shown before).filter fun x => !stops mark x)))) later q) :
    Stands key mark (before ++ later) q := by
  cases hhead : (shown before).head? with
  | none =>
      rw [hhead] at h
      obtain ⟨rfl, rfl⟩ := Routine.leaves_done_iff.1 h
      rw [List.append_nil]
      exact .ended (hnoted.trans (congrArg Option.toList hhead).symm)
  | some entry =>
      rw [hhead] at h
      rcases Routine.leaves_call_iff.1 h with ⟨rfl, rfl⟩ | ⟨x, after, rfl, hrest⟩
      · rw [List.append_nil]
        exact .noting hnoted hhead
      · obtain ⟨rfl, rfl⟩ := Routine.leaves_done_iff.1 hrest
        have hshown : shown (before ++ [⟨.note key entry, x⟩]) = shown before :=
          (shown_append ..).trans (List.append_nil _)
        rw [← hshown]
        refine .ended ?_
        rw [noted_append, hnoted, hshown, hhead]
        rfl

/-- Where a poll of an established key stands after some answers. -/
theorem advance_stands {es : List (Exchange ε)} {q : Poll ε (Except ε Report)}
    (h : Routine.Leaves (advance size key path mark) es q)
    (hpages : Decreasing es) : Stands key mark es q := by
  rcases Routine.leaves_call_iff.1 h with ⟨rfl, rfl⟩ | ⟨length, later, rfl, hrest⟩
  · exact .asking rfl
  match length with
  | .error e =>
      obtain ⟨rfl, rfl⟩ := Routine.leaves_done_iff.1 hrest
      exact .failed rfl
  | .ok n =>
      change Routine.Leaves ((scan size path mark n n 0 {}).bind _) later q at hrest
      have hlater : Decreasing later := (List.forall_mem_cons.1 hpages).2
      rcases Routine.leaves_bind hrest with
        ⟨c, next, hscan, rfl⟩ | ⟨r, before, after, rfl, hscan, hend⟩
      · obtain ⟨hnoted, ⟨_, _, _, _, hq⟩ | ⟨_, hq⟩ | hq⟩ := scan_leaves hscan hlater
        · cases hq
          exact .reading hnoted
        · cases hq
        · cases hq
      · have hbefore : Decreasing before :=
          fun e he => hlater e (List.mem_append_left _ he)
        obtain ⟨hnoted, ⟨_, _, _, _, hq⟩ | ⟨e, hq⟩ | hq⟩ := scan_leaves hscan hbefore
        · cases hq
        · cases hq
          obtain ⟨rfl, rfl⟩ := Routine.leaves_done_iff.1 hend
          rw [List.append_nil]
          exact .failed hnoted
        · cases hq
          have hasked : noted (⟨.length path, .ok n⟩ :: before : List (Exchange ε)) = [] := hnoted
          exact note_stands hasked hend

/-- A poll whose first call finds a watermark goes on as one of an
established key. -/
theorem poll_stands {es : List (Exchange ε)} {q : Poll ε (Except ε Report)}
    (h : Routine.Leaves (poll size key path) (⟨.watermark key, some mark⟩ :: es) q)
    (hpages : Decreasing es) : Stands key mark es q := by
  rcases Routine.leaves_call_iff.1 h with ⟨hnil, -⟩ | ⟨look, later, hes, hrest⟩
  · cases hnil
  · cases hes
    exact advance_stands hrest hpages

end

/-- In an increasing queue that has the entry of the watermark, what is not
later than the watermark stops a scan. -/
theorem stops_iff_not_lt {queue : List QueuedMessage} (hinc : Increasing queue)
    {mark x : QueuedMessage}
    (hheld : ∃ entry ∈ queue, entry.sameEntry mark = true) (hx : x ∈ queue) :
    stops mark x = true ↔ ¬ mark.date < x.date := by
  obtain ⟨entry, hentry, hsame⟩ := hheld
  obtain ⟨w, hw⟩ := List.mem_iff_getElem?.1 hentry
  obtain ⟨p, hp⟩ := List.mem_iff_getElem?.1 hx
  rw [stops_iff_le hinc hw hsame hp, ← date_eq_of_sameEntry hsame]
  rcases Nat.lt_trichotomy p w with hlt | rfl | hgt
  · have hearly := date_lt_of_getElem? hinc hlt hp hw
    exact iff_of_true (Nat.le_of_lt hlt) (Timestamp.lt_asymm hearly)
  · rw [hp] at hw
    cases hw
    exact iff_of_true (Nat.le_refl p) (Timestamp.lt_irrefl _)
  · have hlate := date_lt_of_getElem? hinc hgt hw hp
    exact iff_of_false (Nat.not_le_of_lt hgt) (fun h => h hlate)

-- ================================================================ a crowd

/-- Polls of one key, what is left of each, and the world that they
share. -/
structure Crowd (ε : Type) where
  world : World
  polls : List (Poll ε (Except ε Report)) := []

/-- What happens in a crowd. -/
inductive Deed (ε : Type) where
  | appended (m : QueuedMessage)
  | started
  | answered (poll : Nat) (e : Exchange ε)

section

variable {ε : Type}

/-- One thing that happens: a later entry is appended, another poll starts,
or a poll has its next call answered from the world as it is then. -/
inductive Crowd.Step (size : Nat) (key : WatermarkKey) (path : String) :
    Crowd ε → Deed ε → Crowd ε → Prop where
  | append {s : Crowd ε} (m : QueuedMessage)
      (hlate : ∀ x ∈ s.world.queue, x.date < m.date) :
      Step size key path s (.appended m)
        { s with world := { s.world with queue := s.world.queue ++ [m] } }
  | start {s : Crowd ε} :
      Step size key path s .started { s with polls := s.polls ++ [poll size key path] }
  | answer {s : Crowd ε} {i : Nat} {c : Call} {next} {x : Answer ε c} {w : World}
      (hturn : s.polls[i]? = some (.call c next)) (hreads : Reads s.world c x w) :
      Step size key path s (.answered i ⟨c, x⟩) ⟨w, s.polls.set i (next x)⟩

/-- What happens one after the other, the earliest first. -/
inductive Crowd.Run (size : Nat) (key : WatermarkKey) (path : String)
    (start : Crowd ε) : List (Deed ε) → Crowd ε → Prop where
  | start : Run size key path start [] start
  | step {log : List (Deed ε)} {d : Deed ε} {s s' : Crowd ε}
      (hrun : Run size key path start log s) (hstep : Step size key path s d s') :
      Run size key path start (log ++ [d]) s'

/-- The part of a deed that is a poll's. -/
def Deed.of (i : Nat) : Deed ε → Option (Exchange ε)
  | .answered j e => if j = i then some e else none
  | _ => none

/-- The entry that a deed notes. -/
def Deed.notes : Deed ε → Option QueuedMessage
  | .answered _ e => e.notes
  | _ => none

/-- A poll looks up its watermark. -/
def Deed.begins (i : Nat) (d : Deed ε) : Bool := (d.of i).any Exchange.looksUp

/-- The answers that a poll got. -/
def exchanges (i : Nat) (log : List (Deed ε)) : List (Exchange ε) :=
  log.filterMap (Deed.of i)

/-- The entry that was noted last, or the one that was noted at the
start. -/
def lastNoted (start : QueuedMessage) (log : List (Deed ε)) : QueuedMessage :=
  log.foldl (fun mark d => d.notes.getD mark) start

/-- The entry that had been noted last when a poll began. -/
def baseline (start : QueuedMessage) (i : Nat) (log : List (Deed ε)) : QueuedMessage :=
  lastNoted start (log.takeWhile fun d => !d.begins i)

theorem exchanges_concat (i : Nat) (log : List (Deed ε)) (d : Deed ε) :
    exchanges i (log ++ [d]) = exchanges i log ++ (d.of i).toList := by
  unfold exchanges
  rw [List.filterMap_append]
  cases h : d.of i <;> simp [h]

theorem exchanges_answered (i : Nat) (log : List (Deed ε)) (e : Exchange ε) :
    exchanges i (log ++ [.answered i e]) = exchanges i log ++ [e] := by
  have hof : (Deed.answered i e).of i = some e := if_pos rfl
  rw [exchanges_concat, hof, Option.toList_some]

theorem exchanges_answered_ne {i j : Nat} (hij : i ≠ j) (log : List (Deed ε))
    (e : Exchange ε) : exchanges j (log ++ [.answered i e]) = exchanges j log := by
  have hof : (Deed.answered i e).of j = none := if_neg hij
  rw [exchanges_concat, hof, Option.toList_none, List.append_nil]

theorem lastNoted_concat (start : QueuedMessage) (log : List (Deed ε)) (d : Deed ε) :
    lastNoted start (log ++ [d]) = d.notes.getD (lastNoted start log) :=
  List.foldl_append

/-- A baseline stays what it is. -/
theorem baseline_concat {start : QueuedMessage} {i : Nat} {log : List (Deed ε)}
    {e : Exchange ε} (he : e ∈ exchanges i log) (hlook : e.looksUp = true) (d : Deed ε) :
    baseline start i (log ++ [d]) = baseline start i log := by
  obtain ⟨b, hb, hof⟩ := List.mem_filterMap.1 he
  have hbegins : b.begins i = true := by
    unfold Deed.begins
    rw [hof]
    exact hlook
  have hpart : (log.takeWhile fun d => !d.begins i).length ≠ log.length := by
    intro hlength
    have hall := List.takeWhile_eq_self_iff.1
      ((List.takeWhile_prefix _).eq_of_length hlength) b hb
    rw [hbegins] at hall
    cases hall
  unfold baseline
  rw [List.takeWhile_append, if_neg hpart]

/-- A poll's baseline is the entry that was noted last when it looks up its
watermark. -/
theorem baseline_of_first {start : QueuedMessage} {i : Nat} {log : List (Deed ε)}
    {e : Exchange ε} (hnone : exchanges i log = []) (hlook : e.looksUp = true) :
    baseline start i (log ++ [.answered i e]) = lastNoted start log := by
  have hall : ∀ d ∈ log, (!d.begins i) = true := by
    intro d hd
    unfold Deed.begins
    rw [List.filterMap_eq_nil_iff.1 hnone d hd]
    rfl
  have hbegins : (Deed.answered i e).begins i = true := by
    unfold Deed.begins
    rw [show (Deed.answered i e).of i = some e from if_pos rfl]
    exact hlook
  unfold baseline
  rw [List.takeWhile_append_of_pos hall, List.takeWhile_cons, hbegins]
  exact congrArg _ (List.append_nil log)

-- ============================================================ the invariant

variable {size : Nat} {key : WatermarkKey} {path : String} {start : QueuedMessage}

/-- What a crowd knows of its polls after some deeds. -/
structure Crowd.Sound (size : Nat) (key : WatermarkKey) (path : String)
    (start : QueuedMessage) (log : List (Deed ε)) (s : Crowd ε) : Prop where
  increasing : Increasing s.world.queue
  stored : s.world.watermarks.get? key = some (lastNoted start log)
  held : ∃ entry ∈ s.world.queue, entry.sameEntry (lastNoted start log) = true
  left : ∀ i q, s.polls[i]? = some q →
    Routine.Leaves (poll size key path) (exchanges i log) q
  unstarted : ∀ i, s.polls.length ≤ i → exchanges i log = []
  pages : ∀ i, ∀ e ∈ exchanges i log, e.shows.Pairwise (fun a b => b.date < a.date)
    ∧ ∀ x ∈ e.shows, x ∈ s.world.queue
  /-- The first answer of a poll is its baseline. -/
  begun : ∀ i, exchanges i log = [] ∨ ∃ later,
    exchanges i log = ⟨.watermark key, some (baseline start i log)⟩ :: later
      ∧ ∃ entry ∈ s.world.queue, entry.sameEntry (baseline start i log) = true

namespace Crowd

variable {s s' : Crowd ε} {log : List (Deed ε)} {d : Deed ε}

theorem Sound.idle {s : Crowd ε} (hinc : Increasing s.world.queue)
    (hmark : s.world.watermarks.get? key = some start)
    (hheld : ∃ entry ∈ s.world.queue, entry.sameEntry start = true)
    (hpolls : s.polls = []) : Sound size key path start [] s where
  increasing := hinc
  stored := hmark
  held := hheld
  left i q hq := by
    rw [hpolls] at hq
    cases hq
  unstarted _ _ := rfl
  pages _ _ he := nomatch he
  begun _ := .inl rfl

/-- Where a poll that has begun stands. -/
theorem Sound.stands (h : Sound size key path start log s) {i : Nat}
    {q : Poll ε (Except ε Report)} {later : List (Exchange ε)}
    (hq : s.polls[i]? = some q)
    (hbegun : exchanges i log = ⟨.watermark key, some (baseline start i log)⟩ :: later) :
    Stands key (baseline start i log) later q := by
  have hleft := h.left i q hq
  have hpages := h.pages i
  rw [hbegun] at hleft hpages
  exact poll_stands hleft fun e he => (hpages e (List.mem_cons_of_mem _ he)).1

/-- A deed that is no poll's and notes nothing leaves every poll where it
was, if the queue has at least what it had. -/
theorem Sound.aside (h : Sound size key path start log s)
    (hof : ∀ i, d.of i = none) (hnotes : d.notes = none)
    (hqueue : ∀ x ∈ s.world.queue, x ∈ s'.world.queue)
    (hinc : Increasing s'.world.queue)
    (hmarks : s'.world.watermarks = s.world.watermarks)
    (hleft : ∀ i q, s'.polls[i]? = some q →
      Routine.Leaves (poll size key path) (exchanges i log) q)
    (hlength : s.polls.length ≤ s'.polls.length) :
    Sound size key path start (log ++ [d]) s' := by
  have hexchanges (i : Nat) : exchanges i (log ++ [d]) = exchanges i log := by
    rw [exchanges_concat, hof, Option.toList_none, List.append_nil]
  have hlast : lastNoted start (log ++ [d]) = lastNoted start log := by
    rw [lastNoted_concat, hnotes]
    rfl
  have hstill {mark : QueuedMessage}
      (hheld : ∃ entry ∈ s.world.queue, entry.sameEntry mark = true) :
      ∃ entry ∈ s'.world.queue, entry.sameEntry mark = true :=
    hheld.imp fun entry hentry => ⟨hqueue entry hentry.1, hentry.2⟩
  refine ⟨hinc, ?_, ?_, ?_, ?_, ?_, ?_⟩
  · rw [hmarks, hlast]
    exact h.stored
  · rw [hlast]
    exact hstill h.held
  · intro i q hq
    rw [hexchanges]
    exact hleft i q hq
  · intro i hi
    rw [hexchanges]
    exact h.unstarted i (Nat.le_trans hlength hi)
  · intro i e he
    rw [hexchanges] at he
    obtain ⟨hpage, hmem⟩ := h.pages i e he
    exact ⟨hpage, fun x hx => hqueue x (hmem x hx)⟩
  · intro i
    rw [hexchanges]
    rcases h.begun i with hnone | ⟨later, hbegun, hheld⟩
    · exact .inl hnone
    · have hmem : (⟨.watermark key, some (baseline start i log)⟩ : Exchange ε)
          ∈ exchanges i log := hbegun ▸ List.mem_cons_self
      rw [baseline_concat hmem rfl]
      exact .inr ⟨later, hbegun, hstill hheld⟩

/-- An answer is the baseline of the poll that it is the first for, and
leaves the other baselines alone. -/
theorem Sound.begun_answered (h : Sound size key path start log s) {i : Nat}
    {e : Exchange ε}
    (hfirst : exchanges i log = [] → e = ⟨.watermark key, some (lastNoted start log)⟩)
    (j : Nat) : exchanges j (log ++ [.answered i e]) = [] ∨ ∃ later,
      exchanges j (log ++ [.answered i e])
        = ⟨.watermark key, some (baseline start j (log ++ [.answered i e]))⟩ :: later
      ∧ ∃ entry ∈ s.world.queue,
          entry.sameEntry (baseline start j (log ++ [.answered i e])) = true := by
  rcases h.begun j with hnone | ⟨later, hbegun, hheld⟩
  · rcases eq_or_ne i j with rfl | hij
    · have hthis := hfirst hnone
      rw [exchanges_answered, hnone, hthis, baseline_of_first hnone rfl]
      exact .inr ⟨[], rfl, h.held⟩
    · rw [exchanges_answered_ne hij]
      exact .inl hnone
  · have hmem : (⟨.watermark key, some (baseline start j log)⟩ : Exchange ε)
        ∈ exchanges j log := hbegun ▸ List.mem_cons_self
    rw [baseline_concat hmem rfl]
    rcases eq_or_ne i j with rfl | hij
    · rw [exchanges_answered, hbegun]
      exact .inr ⟨_, rfl, hheld⟩
    · rw [exchanges_answered_ne hij]
      exact .inr ⟨later, hbegun, hheld⟩

/-- An answer brings one poll further. -/
theorem Sound.answer (h : Sound size key path start log s) {i : Nat} {c : Call}
    {next : Answer ε c → Poll ε (Except ε Report)} {x : Answer ε c} {w : World}
    (hturn : s.polls[i]? = some (.call c next)) (hqueue : w.queue = s.world.queue)
    (hfirst : exchanges i log = [] →
      (⟨c, x⟩ : Exchange ε) = ⟨.watermark key, some (lastNoted start log)⟩)
    (hstored : w.watermarks.get? key
      = some ((Exchange.notes ⟨c, x⟩).getD (lastNoted start log)))
    (hheld : ∀ entry, Exchange.notes ⟨c, x⟩ = some entry → entry ∈ s.world.queue)
    (hpage : (Exchange.shows ⟨c, x⟩).Pairwise fun a b => b.date < a.date)
    (hshows : ∀ m ∈ Exchange.shows ⟨c, x⟩, m ∈ s.world.queue) :
    Sound size key path start (log ++ [.answered i ⟨c, x⟩])
      ⟨w, s.polls.set i (next x)⟩ := by
  have hbound : i < s.polls.length := (List.getElem?_eq_some_iff.1 hturn).1
  refine ⟨hqueue ▸ h.increasing, ?_, ?_, ?_, ?_, ?_, ?_⟩
  · rw [lastNoted_concat]
    exact hstored
  · rw [lastNoted_concat]
    show ∃ entry ∈ w.queue, entry.sameEntry ((Exchange.notes ⟨c, x⟩).getD _) = true
    rw [hqueue]
    cases hnotes : Exchange.notes ⟨c, x⟩ with
    | none => exact h.held
    | some entry =>
        exact ⟨entry, hheld entry hnotes, (QueuedMessage.sameEntry_iff _ _).2 rfl⟩
  · -- only the poll whose turn it is goes on
    intro j q hq
    rcases eq_or_ne i j with rfl | hij
    · rw [List.getElem?_set_self hbound] at hq
      cases hq
      rw [exchanges_answered]
      exact (h.left i _ hturn).snoc x
    · rw [List.getElem?_set_ne hij] at hq
      rw [exchanges_answered_ne hij]
      exact h.left j q hq
  · intro j hj
    rw [List.length_set] at hj
    rw [exchanges_answered_ne (by omega)]
    exact h.unstarted j hj
  · intro j e he
    rw [hqueue]
    rcases eq_or_ne i j with rfl | hij
    · rw [exchanges_answered] at he
      rcases List.mem_append.1 he with he | he
      · exact h.pages i e he
      · rw [List.mem_singleton.1 he]
        exact ⟨hpage, hshows⟩
    · rw [exchanges_answered_ne hij] at he
      exact h.pages j e he
  · rw [hqueue]
    exact h.begun_answered hfirst

/-- An answer that shows and notes nothing. -/
theorem Sound.silent (h : Sound size key path start log s) {i : Nat} {c : Call}
    {next : Answer ε c → Poll ε (Except ε Report)} {x : Answer ε c}
    (hturn : s.polls[i]? = some (.call c next))
    (hfirst : exchanges i log = [] →
      (⟨c, x⟩ : Exchange ε) = ⟨.watermark key, some (lastNoted start log)⟩)
    (hnotes : Exchange.notes ⟨c, x⟩ = none) (hshows : Exchange.shows ⟨c, x⟩ = []) :
    Sound size key path start (log ++ [.answered i ⟨c, x⟩])
      ⟨s.world, s.polls.set i (next x)⟩ := by
  refine h.answer hturn rfl hfirst ?_ ?_ ?_ ?_
  · rw [hnotes]
    exact h.stored
  · intro entry hentry
    rw [hnotes] at hentry
    cases hentry
  · rw [hshows]
    exact .nil
  · intro m hm
    rw [hshows] at hm
    cases hm

theorem shown_subset (h : Sound size key path start log s) (i : Nat) :
    ∀ x ∈ shown (exchanges i log), x ∈ s.world.queue := by
  intro x hx
  obtain ⟨e, he, hxe⟩ := List.mem_flatMap.1 hx
  exact (h.pages i e he).2 x hxe

/-- A poll that has not been answered yet looks up its watermark. -/
theorem Sound.begins (h : Sound size key path start log s) {i : Nat} {c : Call}
    {next : Answer ε c → Poll ε (Except ε Report)} {x : Answer ε c} {w : World}
    (hturn : s.polls[i]? = some (.call c next)) (hreads : Reads s.world c x w)
    (hnone : exchanges i log = []) :
    Sound size key path start (log ++ [.answered i ⟨c, x⟩]) ⟨w, s.polls.set i (next x)⟩ := by
  have hleft := h.left i _ hturn
  rw [hnone] at hleft
  cases Routine.leaves_nil_iff.1 hleft
  obtain ⟨rfl, rfl⟩ := hreads
  have hlook : (⟨.watermark key, s.world.watermarks.get? key⟩ : Exchange ε)
      = ⟨.watermark key, some (lastNoted start log)⟩ := by
    rw [h.stored]
  exact h.silent hturn (fun _ => hlook) rfl rfl

/-- A poll that has begun asks for the length or a page, or notes an entry
that it was shown. -/
theorem Sound.goesOn (h : Sound size key path start log s) {i : Nat} {c : Call}
    {next : Answer ε c → Poll ε (Except ε Report)} {x : Answer ε c} {w : World}
    {later : List (Exchange ε)} (hturn : s.polls[i]? = some (.call c next))
    (hreads : Reads s.world c x w)
    (hbegun : exchanges i log = ⟨.watermark key, some (baseline start i log)⟩ :: later) :
    Sound size key path start (log ++ [.answered i ⟨c, x⟩]) ⟨w, s.polls.set i (next x)⟩ := by
  have hfirst {e : Exchange ε} (hnone : exchanges i log = []) :
      e = ⟨.watermark key, some (lastNoted start log)⟩ := by
    rw [hbegun] at hnone
    cases hnone
  cases h.stands hturn hbegun with
  | asking =>
      obtain ⟨-, rfl⟩ := hreads
      exact h.silent hturn hfirst rfl rfl
  | reading =>
      obtain ⟨⟨entries, rfl, n, rfl, -, -⟩ | ⟨e, rfl⟩, rfl⟩ := hreads
      · -- a page is a part of the queue, read from its end
        refine h.answer hturn rfl hfirst h.stored ?_ ?_ ?_
        · intro entry hnote
          cases hnote
        · have hdown := List.pairwise_reverse.2 h.increasing
          exact hdown.sublist ((List.take_sublist ..).trans (List.drop_sublist ..))
        · intro m hm
          exact List.mem_reverse.1 (List.mem_of_mem_drop (List.mem_of_mem_take hm))
      · exact h.silent hturn hfirst rfl rfl
  | @noting entry _ hnoted hhead =>
      have hmem : entry ∈ s.world.queue := by
        refine shown_subset h i entry ?_
        rw [hbegun]
        exact List.mem_of_mem_head? hhead
      cases hreads
      refine h.answer hturn rfl hfirst ?_ ?_ .nil ?_
      · rw [Table.get?_insert, if_pos rfl]
        rfl
      · intro m hm
        cases hm
        exact hmem
      · intro m hm
        cases hm

theorem Sound.step (h : Sound size key path start log s)
    (hstep : Step size key path s d s') : Sound size key path start (log ++ [d]) s' := by
  cases hstep with
  | append m hlate =>
      refine h.aside (fun _ => rfl) rfl (fun x hx => List.mem_append_left _ hx) ?_ rfl
        h.left (Nat.le_refl _)
      refine List.pairwise_append.2 ⟨h.increasing, List.pairwise_singleton _ m, ?_⟩
      intro x hx y hy
      rw [List.mem_singleton.1 hy]
      exact hlate x hx
  | start =>
      refine h.aside (fun _ => rfl) rfl (fun x hx => hx) h.increasing rfl ?_ ?_
      · intro i q hq
        rw [List.getElem?_append] at hq
        split at hq
        next => exact h.left i q hq
        next hnew =>
          have hpoll : q = poll size key path := by
            have hmem := List.mem_of_getElem? hq
            exact List.mem_singleton.1 hmem
          rw [h.unstarted i (Nat.le_of_not_lt hnew), hpoll]
          exact .untouched _
      · rw [List.length_append]
        exact Nat.le_add_right ..
  | @answer i c next x w hturn hreads =>
      rcases h.begun i with hnone | ⟨later, hbegun, -⟩
      · exact h.begins hturn hreads hnone
      · exact h.goesOn hturn hreads hbegun

theorem Run.sound (hstart : Sound size key path start [] s)
    (h : Run size key path s log s') : Sound size key path start log s' := by
  induction h with
  | start => exact hstart
  | step _ hstep ih => exact ih.step hstep

-- ========================================================== what is told

/-- What the polls of a crowd have told and noted after some deeds. -/
structure Explained (key : WatermarkKey) (start : QueuedMessage)
    (log : List (Deed ε)) (s : Crowd ε) : Prop where
  /-- The watermark is the entry that was noted last. -/
  stored : s.world.watermarks.get? key = some (lastNoted start log)
  /-- A poll that is over has failed and noted nothing, or it tells what it
  was shown and is later than its baseline, and has noted the entry that it
  was shown first. -/
  told : ∀ i r, s.polls[i]? = some (.done r) →
    ((∃ e, r = .error e) ∧ noted (exchanges i log) = [])
      ∨ (r = .ok (.new ((shown (exchanges i log)).filter fun x =>
            decide ((baseline start i log).date < x.date)))
        ∧ noted (exchanges i log) = (shown (exchanges i log)).head?.toList)
  /-- Two polls tell what both were shown and is later than both their
  baselines. -/
  twice : ∀ i j es fs, s.polls[i]? = some (.done (.ok (.new es))) →
    s.polls[j]? = some (.done (.ok (.new fs))) → ∀ x,
    (x ∈ es ∧ x ∈ fs) ↔ x ∈ shown (exchanges i log) ∧ x ∈ shown (exchanges j log)
      ∧ (baseline start i log).date < x.date ∧ (baseline start j log).date < x.date
  /-- A poll tells nothing of what another did if it began with a watermark
  that is not older than anything that one was shown. -/
  apart : ∀ i j es fs, s.polls[i]? = some (.done (.ok (.new es))) →
    s.polls[j]? = some (.done (.ok (.new fs))) →
    (∀ x ∈ shown (exchanges i log), ¬ (baseline start j log).date < x.date) →
    ∀ x ∈ es, x ∉ fs

theorem Sound.told (h : Sound size key path start log s) {i : Nat}
    {r : Except ε Report} (hover : s.polls[i]? = some (.done r)) :
    ((∃ e, r = .error e) ∧ noted (exchanges i log) = [])
      ∨ (r = .ok (.new ((shown (exchanges i log)).filter fun x =>
            decide ((baseline start i log).date < x.date)))
        ∧ noted (exchanges i log) = (shown (exchanges i log)).head?.toList) := by
  rcases h.begun i with hnone | ⟨later, hbegun, hheld⟩
  · -- a poll that has not been answered is not over
    have hleft := h.left i _ hover
    rw [hnone] at hleft
    cases Routine.leaves_nil_iff.1 hleft
  · have hnew : ((shown (exchanges i log)).filter fun x =>
          !stops (baseline start i log) x)
        = (shown (exchanges i log)).filter fun x =>
          decide ((baseline start i log).date < x.date) := by
      refine List.filter_congr fun x hx => ?_
      have hiff := stops_iff_not_lt h.increasing hheld (shown_subset h i x hx)
      by_cases hlt : (baseline start i log).date < x.date
      · rw [decide_eq_true hlt, not_stops_of_lt hlt]
        rfl
      · rw [decide_eq_false hlt, hiff.2 hlt]
        rfl
    rw [← hnew]
    have hshown : shown (exchanges i log) = shown later := by
      rw [hbegun]
      rfl
    have hnoted : noted (exchanges i log) = noted later := by
      rw [hbegun]
      rfl
    rw [hshown, hnoted]
    cases h.stands hover hbegun with
    | failed hnone => exact .inl ⟨⟨_, rfl⟩, hnone⟩
    | ended hlast => exact .inr ⟨rfl, hlast⟩

theorem Sound.mem_told (h : Sound size key path start log s) {i : Nat}
    {es : List QueuedMessage} (hover : s.polls[i]? = some (.done (.ok (.new es))))
    (x : QueuedMessage) : x ∈ es ↔
      x ∈ shown (exchanges i log) ∧ (baseline start i log).date < x.date := by
  rcases h.told hover with ⟨⟨e, he⟩, -⟩ | ⟨hes, -⟩
  · cases he
  · cases hes
    rw [List.mem_filter, decide_eq_true_eq]

/-- Polls of one key that run at once, over a queue that grows while they
do: each tells what it was shown and is later than the entry that had been
noted last when it began, so two of them tell the same entry exactly if both
were shown it and neither began with a watermark as late; and the watermark
is the entry that was noted last. -/
theorem concurrent_polls (hinc : Increasing s.world.queue)
    (hmark : s.world.watermarks.get? key = some start)
    (hheld : ∃ entry ∈ s.world.queue, entry.sameEntry start = true)
    (hidle : s.polls = []) (h : Run size key path s log s') :
    Explained key start log s' := by
  have hsound := h.sound (Sound.idle hinc hmark hheld hidle)
  refine ⟨hsound.stored, fun i r hover => hsound.told hover, ?_, ?_⟩
  · intro i j es fs hi hj x
    rw [hsound.mem_told hi, hsound.mem_told hj]
    constructor
    · intro ⟨⟨hxi, hlate⟩, hxj, hlater⟩
      exact ⟨hxi, hxj, hlate, hlater⟩
    · intro ⟨hxi, hxj, hlate, hlater⟩
      exact ⟨⟨hxi, hlate⟩, hxj, hlater⟩
  · intro i j es fs hi hj hlate x hes hfs
    exact hlate x ((hsound.mem_told hi x).1 hes).1 ((hsound.mem_told hj x).1 hfs).2

end Crowd

end

-- ======================================================= two polls at once

/-- Whose turn it is. -/
inductive Turn where
  | append (m : QueuedMessage)
  | start
  | answer (poll : Nat)

namespace Crowd

variable {ε : Type} {size : Nat} {key : WatermarkKey} {path : String}

/-- What happens when it is somebody's turn and no read fails or is cut
short. -/
def turn? (size : Nat) (key : WatermarkKey) (path : String) (s : Crowd ε) :
    Turn → Option (Deed ε × Crowd ε)
  | .append m =>
      if s.world.queue.all fun x => x.date < m.date then
        some (.appended m,
          { s with world := { s.world with queue := s.world.queue ++ [m] } })
      else none
  | .start => some (.started, { s with polls := s.polls ++ [poll size key path] })
  | .answer i =>
      match s.polls[i]? with
      | some (.call c next) =>
          let (x, w) := World.perform c s.world
          some (.answered i ⟨c, x⟩, ⟨w, s.polls.set i (next x)⟩)
      | _ => none

/-- What happens in a number of turns. -/
def play? (size : Nat) (key : WatermarkKey) (path : String) (s : Crowd ε) :
    List Turn → Option (List (Deed ε) × Crowd ε)
  | [] => some ([], s)
  | t :: ts => do
      let (d, s) ← turn? size key path s t
      let (log, s) ← play? size key path s ts
      return (d :: log, s)

theorem step_of_turn? {s s' : Crowd ε} {t : Turn} {d : Deed ε}
    (h : turn? size key path s t = some (d, s')) : Step size key path s d s' := by
  unfold turn? at h
  split at h
  · split at h
    next hlate =>
      cases h
      rw [List.all_eq_true] at hlate
      exact .append _ fun x hx => of_decide_eq_true (hlate x hx)
    · cases h
  · cases h
    exact .start
  · split at h
    next hturn =>
      cases h
      exact .answer hturn (reads_perform _ _)
    · cases h

theorem run_of_play? {start s s' : Crowd ε} {ts : List Turn}
    {before log : List (Deed ε)} (hrun : Run size key path start before s)
    (h : play? size key path s ts = some (log, s')) :
    Run size key path start (before ++ log) s' := by
  induction ts generalizing s before log with
  | nil =>
      cases h
      rw [List.append_nil]
      exact hrun
  | cons t ts ih =>
      unfold play? at h
      obtain ⟨⟨d, s₁⟩, hturn, h⟩ := Option.bind_eq_some_iff.1 h
      obtain ⟨⟨later, s₂⟩, hplay, h⟩ := Option.bind_eq_some_iff.1 h
      cases h
      rw [List.append_cons]
      exact ih (hrun.step (step_of_turn? hturn)) hplay

/-- Turns that can all be taken make a run. -/
theorem run_played (size : Nat) (key : WatermarkKey) (path : String) (start : Crowd ε)
    (ts : List Turn) (h : (play? size key path start ts).isSome = true) :
    Run size key path start ((play? size key path start ts).get h).1
      ((play? size key path start ts).get h).2 :=
  run_of_play? .start (Option.some_get h).symm

/-- A queue of one entry, which is the watermark. -/
def established : Crowd Unit where
  world := ⟨[entryAt 1], Table.empty.insert ⟨[]⟩ (entryAt 1)⟩

/-- Two polls look up the same watermark. The second reads an entry more and
is over before the first notes what it has read. -/
def overtaking : List Turn :=
  [.start, .start, .append (entryAt 2), .answer 0, .answer 0, .answer 0,
    .append (entryAt 3), .answer 1, .answer 1, .answer 1, .answer 1, .answer 0]

/-- What two polls tell that overtake one another is what `Explained`
says. -/
theorem concurrent_polls_of_overtaking :
    ∃ log s, (Increasing established.world.queue
        ∧ established.world.watermarks.get? ⟨[]⟩ = some (entryAt 1)
        ∧ (∃ entry ∈ established.world.queue, entry.sameEntry (entryAt 1) = true)
        ∧ established.polls = [] ∧ Run 10 ⟨[]⟩ "" established log s)
      ∧ Explained ⟨[]⟩ (entryAt 1) log s := by
  have hinc : Increasing established.world.queue := List.pairwise_singleton _ _
  have hheld : ∃ entry ∈ established.world.queue, entry.sameEntry (entryAt 1) = true :=
    ⟨entryAt 1, List.mem_singleton.2 rfl, rfl⟩
  have hrun := run_played 10 ⟨[]⟩ "" established overtaking rfl
  exact ⟨_, _, ⟨hinc, rfl, hheld, rfl, hrun⟩, concurrent_polls hinc rfl hheld rfl hrun⟩

/-- Two polls that run at once can both tell an entry, and leave a watermark
that is older than what one of them has told, so that a later poll tells
that again. -/
theorem concurrent_polls_tell_twice_and_go_back :
    (∃ log s, Run 10 ⟨[]⟩ "" established log s
      ∧ s.polls = [.done (.ok (.new [entryAt 2])),
          .done (.ok (.new [entryAt 3, entryAt 2]))]
      ∧ s.world.watermarks.get? ⟨[]⟩ = some (entryAt 2))
    ∧ ∃ log s, Run 10 ⟨[]⟩ "" established log s
      ∧ s.polls = [.done (.ok (.new [entryAt 2])),
          .done (.ok (.new [entryAt 3, entryAt 2])), .done (.ok (.new [entryAt 3]))] := by
  let later : List Turn := [.start, .answer 2, .answer 2, .answer 2, .answer 2]
  have hboth := run_played 10 ⟨[]⟩ "" established overtaking rfl
  have hthird := run_played 10 ⟨[]⟩ "" established (overtaking ++ later) rfl
  exact ⟨⟨_, _, hboth, rfl, rfl⟩, _, _, hthird, rfl⟩

end Crowd

end CheckGateway.Tail
