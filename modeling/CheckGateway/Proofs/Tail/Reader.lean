/-
Polls whatever the reader does.

A reader is a program with a state of its own. It may report any length, give
pages of any size with anything in them, answer the same question differently
the next time, and fail at any call. `Reader` asks nothing of it.

# What holds all the same

A poll asks for the length at most once. Every page that lets a scan go on is
not empty and moves the offset, so the length that was reported bounds the
number of pages, whatever is in them; the rounds of `scan` never end it
(`Scanned.whole`). All that a poll notes is noted in its last call, so what
fails before that leaves the store as it was: that is `Contained`, for one
poll. A failed poll in a row of polls may then be left out, and nothing that
the others return changes.
-/
import CheckGateway.Proofs.Tail.Concurrent

namespace CheckGateway.Tail

-- ==================================================== what has been asked

section

variable {ε : Type}

/-- The answer to a call that asks for a length. -/
def Exchange.length? : Exchange ε → Option (Except ε Nat)
  | ⟨.length _, length⟩ => some length
  | _ => none

/-- The answer to a call that reads a page. -/
def Exchange.page? : Exchange ε → Option (Except ε (List QueuedMessage))
  | ⟨.page .., page⟩ => some page
  | _ => none

/-- What a call makes a watermark, and for which key. -/
def Exchange.mark? : Exchange ε → Option (WatermarkKey × QueuedMessage)
  | ⟨.note key entry, _⟩ => some (key, entry)
  | _ => none

/-- The lengths that were asked for. -/
def lengths (es : List (Exchange ε)) : List (Except ε Nat) :=
  es.filterMap Exchange.length?

/-- The pages that were read. -/
def pages (es : List (Exchange ε)) : List (Except ε (List QueuedMessage)) :=
  es.filterMap Exchange.page?

/-- The watermarks that were noted. -/
def marks (es : List (Exchange ε)) : List (WatermarkKey × QueuedMessage) :=
  es.filterMap Exchange.mark?

/-- The length that was reported; none counts as an empty queue. -/
def reportedLength (es : List (Exchange ε)) : Nat :=
  match lengths es with
  | .ok length :: _ => length
  | _ => 0

/-- The first entry of the first page that was read. -/
def firstEntry (es : List (Exchange ε)) : Option QueuedMessage :=
  match pages es with
  | .ok entries :: _ => entries.head?
  | _ => none

/-- A scan has nothing more to read: an entry stopped it, a page was empty, or
as many entries were shown as there should be. -/
def ReadOut (mark : QueuedMessage) (length : Nat) (es : List (Exchange ε)) : Prop :=
  (shown es).any (stops mark) = true ∨ .ok [] ∈ pages es ∨ length ≤ (shown es).length

-- ================================================================ a scan

/-- What comes of a scan that has `length - offset` entries before it. -/
structure Scanned (mark : QueuedMessage) (length offset rounds : Nat) (found : Found)
    (es : List (Exchange ε)) (r : Except ε Found) : Prop where
  lengths : lengths es = []
  marks : marks es = []
  pages : (pages es).length ≤ rounds
  found : ∀ found', r = .ok found' →
    found' = ⟨found.newest.or (firstEntry es), found.fresh ++ newer mark (shown es)⟩
  whole : length ≤ offset + rounds → ∀ found', r = .ok found' →
    ReadOut mark (length - offset) es

variable {mark : QueuedMessage} {length offset rounds : Nat} {found : Found}

/-- A scan that ends at once. -/
theorem Scanned.over (hread : length ≤ offset + rounds → length ≤ offset) :
    Scanned mark length offset rounds found ([] : List (Exchange ε)) (.ok found) where
  lengths := rfl
  marks := rfl
  pages := Nat.zero_le _
  found := by
    rintro _ ⟨⟩
    show found = ⟨found.newest.or none, found.fresh ++ []⟩
    rw [Option.or_none, List.append_nil]
  whole := by
    rintro hrounds _ ⟨⟩
    refine .inr (.inr ?_)
    show length - offset ≤ 0
    have := hread hrounds
    omega

/-- A scan that fails on the page that it reads. -/
theorem Scanned.fail {path : String} {count : Nat} (e : ε) :
    Scanned mark length offset (rounds + 1) found
      [⟨.page path offset count, .error e⟩] (.error e) where
  lengths := rfl
  marks := rfl
  pages := Nat.succ_le_succ (Nat.zero_le _)
  found := by rintro _ ⟨⟩
  whole := by rintro _ _ ⟨⟩

/-- A scan that comes to an empty page. -/
theorem Scanned.empty {path : String} {count : Nat} :
    Scanned mark length offset (rounds + 1) found
      ([⟨.page path offset count, .ok []⟩] : List (Exchange ε)) (.ok found) where
  lengths := rfl
  marks := rfl
  pages := Nat.succ_le_succ (Nat.zero_le _)
  found := by
    rintro _ ⟨⟩
    show found = ⟨found.newest.or none, found.fresh ++ []⟩
    rw [Option.or_none, List.append_nil]
  whole := fun _ _ _ => .inr (.inl (List.mem_singleton_self _))

/-- A scan that a page stops. -/
theorem Scanned.stop {path : String} {count : Nat} {entries : List QueuedMessage}
    (hstop : entries.any (stops mark) = true) :
    Scanned mark length offset (rounds + 1) found
      ([⟨.page path offset count, .ok entries⟩] : List (Exchange ε))
      (.ok (found.add mark entries)) where
  lengths := rfl
  marks := rfl
  pages := Nat.succ_le_succ (Nat.zero_le _)
  found := by
    rintro _ ⟨⟩
    show found.add mark entries = ⟨_, _ ++ newer mark (entries ++ [])⟩
    rw [List.append_nil]
    rfl
  whole := by
    refine fun _ _ _ => .inl ?_
    show (entries ++ []).any (stops mark) = true
    rwa [List.append_nil]

/-- A scan that goes on after a page. The page is not empty, so the rounds
left are enough for the entries left. -/
theorem Scanned.next {path : String} {count : Nat} {m : QueuedMessage}
    {rest : List QueuedMessage} {later : List (Exchange ε)} {r : Except ε Found}
    (hgo : (m :: rest).any (stops mark) = false)
    (h : Scanned mark length (offset + (m :: rest).length) rounds
      (found.add mark (m :: rest)) later r) :
    Scanned mark length offset (rounds + 1) found
      (⟨.page path offset count, .ok (m :: rest)⟩ :: later) r where
  lengths := h.lengths
  marks := h.marks
  pages := Nat.succ_le_succ h.pages
  found := by
    intro found' hr
    rw [h.found found' hr]
    show Found.mk ((found.newest.or (some m)).or (firstEntry later))
        (found.fresh ++ newer mark (m :: rest) ++ newer mark (shown later))
      = ⟨found.newest.or (some m),
        found.fresh ++ newer mark ((m :: rest) ++ shown later)⟩
    rw [newer_append_of_not_stop hgo, newer_of_not_stop hgo, List.append_assoc,
      Option.or_assoc]
    rfl
  whole := by
    intro hrounds found' hr
    have hlength : (m :: rest).length = rest.length + 1 := rfl
    rcases h.whole (by omega) found' hr with hstop | hempty | hall
    · refine .inl ?_
      show ((m :: rest) ++ shown later).any (stops mark) = true
      rw [List.any_append, hstop, Bool.or_true]
    · exact .inr (.inl (List.mem_cons_of_mem _ hempty))
    · refine .inr (.inr ?_)
      show length - offset ≤ ((m :: rest) ++ shown later).length
      rw [List.length_append]
      omega

/-- Whatever it is answered, all that comes of a scan. -/
theorem scan_concludes {size : Nat} {path : String} {es : List (Exchange ε)}
    {r : Except ε Found}
    (h : Routine.Concludes (scan size path mark length rounds offset found) es r) :
    Scanned mark length offset rounds found es r := by
  induction rounds generalizing offset found es with
  | zero =>
      obtain ⟨rfl, rfl⟩ := Routine.concludes_done_iff.1 h
      exact .over id
  | succ rounds ih =>
      rw [scan_succ] at h
      split at h
      next hend =>
        obtain ⟨rfl, rfl⟩ := Routine.concludes_done_iff.1 h
        exact .over fun _ => hend
      obtain ⟨page, later, rfl, hrest⟩ := Routine.concludes_call_iff.1 h
      match page with
      | .error e =>
          obtain ⟨rfl, rfl⟩ := Routine.concludes_done_iff.1 hrest
          exact .fail e
      | .ok [] =>
          obtain ⟨rfl, rfl⟩ := Routine.concludes_done_iff.1 hrest
          exact .empty
      | .ok (m :: rest) =>
          change Routine.Concludes (if _ then _ else _) _ _ at hrest
          split at hrest
          next hstop =>
            obtain ⟨rfl, rfl⟩ := Routine.concludes_done_iff.1 hrest
            exact .stop hstop
          next hgo =>
            rw [Bool.not_eq_true] at hgo
            exact .next hgo (ih hrest)

-- ================================================================ a poll

/-- What comes of a poll that has looked its watermark up. -/
structure Polled (key : WatermarkKey) (look : Option QueuedMessage)
    (es : List (Exchange ε)) (r : Except ε Report) : Prop where
  lengths : (lengths es).length ≤ 1
  pages : (pages es).length ≤ max 1 (reportedLength es)
  failed : ∀ e, r = .error e → marks es = []
  noted : ∀ report, r = .ok report → marks es = (firstEntry es).toList.map (key, ·)
  reported : ∀ entries, r = .ok (.new entries) → ∃ mark, look = some mark
    ∧ entries = newer mark (shown es) ∧ ReadOut mark (reportedLength es) es

variable {key : WatermarkKey} {path : String} {es : List (Exchange ε)}
  {r : Except ε Report}

/-- Whatever it is answered, all that comes of the first poll of a key. -/
theorem establish_concludes
    (h : Routine.Concludes (establish key path) es r) : Polled key none es r := by
  obtain ⟨page, later, rfl, hrest⟩ := Routine.concludes_call_iff.1 h
  match page with
  | .error e =>
      obtain ⟨rfl, rfl⟩ := Routine.concludes_done_iff.1 hrest
      exact ⟨Nat.zero_le _, Nat.le_refl _, fun _ _ => rfl, nofun,
        nofun⟩
  | .ok [] =>
      obtain ⟨rfl, rfl⟩ := Routine.concludes_done_iff.1 hrest
      exact ⟨Nat.zero_le _, Nat.le_refl _, fun _ _ => rfl, fun _ _ => rfl,
        nofun⟩
  | .ok (entry :: rest) =>
      obtain ⟨_, _, rfl, hend⟩ := Routine.concludes_call_iff.1 hrest
      obtain ⟨rfl, rfl⟩ := Routine.concludes_done_iff.1 hend
      exact ⟨Nat.zero_le _, Nat.le_refl _, nofun, fun _ _ => rfl,
        nofun⟩

/-- The last calls of a poll that succeeds. -/
theorem note_concludes {newest : Option QueuedMessage} {report : Report}
    (h : Routine.Concludes (do
      match newest with
      | some entry => note key entry
      | none => pure ()
      .done (.ok report)) es r) :
    es = newest.toList.map (fun entry => ⟨.note key entry, ()⟩) ∧ r = .ok report := by
  cases newest with
  | none => exact Routine.concludes_done_iff.1 h
  | some entry =>
      obtain ⟨_, _, rfl, hend⟩ := Routine.concludes_call_iff.1 h
      obtain ⟨rfl, rfl⟩ := Routine.concludes_done_iff.1 hend
      exact ⟨rfl, rfl⟩

/-- A poll whose scan fails. -/
theorem Scanned.polled_of_error {n : Nat} {e : ε}
    (h : Scanned mark n 0 n {} es (.error e)) :
    Polled key (some mark) (⟨.length path, .ok n⟩ :: es) (.error e) where
  lengths := by
    show (Tail.lengths es).length + 1 ≤ 1
    rw [h.lengths]
    exact Nat.le_refl _
  pages := Nat.le_trans h.pages (Nat.le_max_right ..)
  failed := fun _ _ => h.marks
  noted := by rintro _ ⟨⟩
  reported := by rintro _ ⟨⟩

/-- A poll whose scan succeeds. What it notes shows nothing more. -/
theorem Scanned.polled_of_ok {n : Nat} (h : Scanned mark n 0 n {} es (.ok found)) :
    Polled key (some mark)
      (⟨.length path, .ok n⟩ ::
        (es ++ found.newest.toList.map fun entry => ⟨.note key entry, ()⟩))
      (.ok (.new found.fresh)) := by
  obtain rfl := h.found found rfl
  generalize htail : (Option.toList _).map _ = tail
  have hpages : Tail.pages tail = [] := by
    subst htail
    cases firstEntry es <;> rfl
  have hlengths : Tail.lengths tail = [] := by
    subst htail
    cases firstEntry es <;> rfl
  have hshown : Tail.shown tail = [] := by
    subst htail
    cases firstEntry es <;> rfl
  have hmarks : Tail.marks tail = (firstEntry es).toList.map (key, ·) := by
    subst htail
    cases firstEntry es <;> rfl
  have hallPages : Tail.pages (⟨.length path, .ok n⟩ :: (es ++ tail)) = Tail.pages es := by
    show List.filterMap _ (es ++ tail) = _
    rw [List.filterMap_append]
    exact (congrArg _ hpages).trans (List.append_nil _)
  have hallShown : shown (⟨.length path, .ok n⟩ :: (es ++ tail)) = shown es := by
    show shown (es ++ tail) = _
    rw [shown_append, hshown, List.append_nil]
  have hfirst : firstEntry (⟨.length path, .ok n⟩ :: (es ++ tail)) = firstEntry es := by
    unfold firstEntry
    rw [hallPages]
  refine ⟨?_, ?_, nofun, fun _ _ => ?_, ?_⟩
  · show (List.filterMap _ (es ++ tail)).length + 1 ≤ 1
    rw [List.filterMap_append]
    show (Tail.lengths es ++ Tail.lengths tail).length + 1 ≤ 1
    rw [h.lengths, hlengths]
    exact Nat.le_refl _
  · rw [hallPages]
    exact Nat.le_trans h.pages (Nat.le_max_right ..)
  · show List.filterMap _ (es ++ tail) = _
    rw [List.filterMap_append, hfirst]
    show Tail.marks es ++ Tail.marks tail = _
    rw [h.marks, hmarks, List.nil_append]
  · rintro _ ⟨⟩
    refine ⟨mark, rfl, ?_, ?_⟩
    · rw [hallShown]
      rfl
    · unfold ReadOut
      rw [hallShown, hallPages]
      exact h.whole (Nat.le_add_left ..) _ rfl

/-- Whatever it is answered, all that comes of a poll of an established
key. -/
theorem advance_concludes {size : Nat}
    (h : Routine.Concludes (advance size key path mark) es r) :
    Polled key (some mark) es r := by
  obtain ⟨length, later, rfl, hrest⟩ := Routine.concludes_call_iff.1 h
  match length with
  | .error e =>
      obtain ⟨rfl, rfl⟩ := Routine.concludes_done_iff.1 hrest
      exact ⟨Nat.le_refl _, Nat.zero_le _, fun _ _ => rfl, nofun,
        nofun⟩
  | .ok n =>
      change Routine.Concludes ((scan size path mark n n 0 {}).bind _) later r at hrest
      obtain ⟨result, before, after, rfl, hscan, hend⟩ := Routine.concludes_bind_iff.1 hrest
      have hscanned := scan_concludes hscan
      match result with
      | .error e =>
          obtain ⟨rfl, rfl⟩ := Routine.concludes_done_iff.1 hend
          rw [List.append_nil]
          exact hscanned.polled_of_error
      | .ok found =>
          obtain ⟨rfl, rfl⟩ := note_concludes hend
          exact hscanned.polled_of_ok

/-- Whatever it is answered, all that comes of a poll. The watermark is looked
up first. -/
theorem poll_concludes {size : Nat}
    (h : Routine.Concludes (poll size key path) es r) :
    ∃ look later, es = ⟨.watermark key, look⟩ :: later ∧ Polled key look es r := by
  obtain ⟨look, later, rfl, hrest⟩ := Routine.concludes_call_iff.1 h
  refine ⟨look, later, rfl, ?_⟩
  -- the look-up shows, reads and notes nothing
  have hpolled : Polled key look later r := by
    match look with
    | none => exact establish_concludes hrest
    | some mark => exact advance_concludes hrest
  exact ⟨hpolled.lengths, hpolled.pages, hpolled.failed, hpolled.noted, hpolled.reported⟩

end

-- ============================================================ any reader

/-- A reader of message queues. -/
structure Reader (ε σ : Type) where
  length : String → σ → Except ε Nat × σ
  page : String → Nat → Nat → σ → Except ε (List QueuedMessage) × σ

section

variable {ε σ : Type}

/-- The answers of a store of watermarks and of a reader. -/
def Reader.perform (reader : Reader ε σ) :
    (c : Call) → Watermarks × σ → Answer ε c × Watermarks × σ
  | .watermark key, (store, s) => (store.get? key, store, s)
  | .length path, (store, s) =>
      let (length, s) := reader.length path s
      (length, store, s)
  | .page path offset count, (store, s) =>
      let (page, s) := reader.page path offset count s
      (page, store, s)
  | .note key entry, (store, s) => ((), store.insert key entry, s)

/-- A store with some more watermarks noted, one after the other. -/
def noteAll (store : Watermarks) (noted : List (WatermarkKey × QueuedMessage)) :
    Watermarks :=
  noted.foldl (fun store mark => store.insert mark.1 mark.2) store

/-- A reader changes no watermark: the store is what the notes make of it. -/
theorem Reader.store_run (reader : Reader ε σ) {α : Type} (r : Poll ε α)
    (store : Watermarks) (s : σ) :
    (r.run reader.perform (store, s)).2.1
      = noteAll store (marks (r.transcript reader.perform (store, s))) := by
  induction r generalizing store s with
  | done a => rfl
  | call c next ih =>
      cases c with
      | watermark key => exact ih _ store s
      | length path => exact ih _ store _
      | page path offset count => exact ih _ store _
      | note key entry => exact ih _ (store.insert key entry) s

/-- A poll that is to be made, with the reader that it is given. -/
structure Attempt (ε σ : Type) where
  reader : Reader ε σ
  state : σ
  pageSize : Nat
  key : WatermarkKey
  path : String

namespace Attempt

/-- What the poll returns, and the store after it. -/
def poll (a : Attempt ε σ) (store : Watermarks) : Except ε Report × Watermarks :=
  let (r, store, _) := (Tail.poll a.pageSize a.key a.path).run a.reader.perform (store, a.state)
  (r, store)

/-- What the poll asks, and what it is answered. -/
def transcript (a : Attempt ε σ) (store : Watermarks) : List (Exchange ε) :=
  (Tail.poll a.pageSize a.key a.path : Poll ε (Except ε Report)).transcript
    a.reader.perform (store, a.state)

end Attempt

/-- A poll of a key that found a store and left another does nothing that it
should not. It asks for the length at most once, and for no more pages than
the length allows, or one. If it fails, the store is as it was. If it
succeeds, the first entry of the first page has become the watermark of the
key, if there is one, and no other key has changed. All that it reports comes
before the first entry that is the old watermark or older than it. -/
structure Contained (key : WatermarkKey) (store : Watermarks) (es : List (Exchange ε))
    (r : Except ε Report) (store' : Watermarks) : Prop where
  lengths : (lengths es).length ≤ 1
  pages : (pages es).length ≤ max 1 (reportedLength es)
  failed : ∀ e, r = .error e → store' = store
  noted : ∀ report, r = .ok report →
    store'.get? key = (firstEntry es).or (store.get? key)
  others : ∀ other, other ≠ key → store'.get? other = store.get? other
  reported : ∀ entries, r = .ok (.new entries) → ∃ mark, store.get? key = some mark
    ∧ entries = newer mark (shown es) ∧ ReadOut mark (reportedLength es) es
    ∧ ∀ m ∈ entries, m.sameEntry mark = false ∧ ¬ m.date < mark.date

/-- What a scan reports does not stop it. -/
theorem of_mem_newer {mark m : QueuedMessage} {entries : List QueuedMessage}
    (h : m ∈ newer mark entries) : m.sameEntry mark = false ∧ ¬ m.date < mark.date := by
  have hgo := List.mem_takeWhile_imp (p := fun m => !stops mark m) h
  rw [Bool.not_eq_true', ← Bool.not_eq_true, stops_iff, not_or, Bool.not_eq_true] at hgo
  exact hgo

theorem get?_noteAll_toList (store : Watermarks) (key other : WatermarkKey)
    (entry : Option QueuedMessage) :
    (noteAll store (entry.toList.map (key, ·))).get? other
      = if other = key then entry.or (store.get? key) else store.get? other := by
  cases entry with
  | none =>
      show store.get? other = _
      split
      next h => rw [h, Option.none_or]
      next => rfl
  | some entry => exact Table.get?_insert store key other entry

/-- What a poll does to the store follows from what it notes. -/
theorem Polled.contained {key : WatermarkKey} {store : Watermarks}
    {es : List (Exchange ε)} {r : Except ε Report} (h : Polled key (store.get? key) es r) :
    Contained key store es r (noteAll store (marks es)) where
  lengths := h.lengths
  pages := h.pages
  failed := by
    intro e hr
    rw [h.failed e hr]
    rfl
  noted := by
    intro report hr
    rw [h.noted report hr, get?_noteAll_toList, if_pos rfl]
  others := by
    intro other hother
    cases r with
    | error e =>
        rw [h.failed e rfl]
        rfl
    | ok report => rw [h.noted report rfl, get?_noteAll_toList, if_neg hother]
  reported := by
    intro entries hr
    obtain ⟨mark, hmark, rfl, hread⟩ := h.reported entries hr
    exact ⟨mark, hmark, rfl, hread, fun m hm => of_mem_newer hm⟩

/-- Every poll is contained, whatever reader it is given. -/
theorem Attempt.contained (a : Attempt ε σ) (store : Watermarks) :
    Contained a.key store (a.transcript store) (a.poll store).1 (a.poll store).2 := by
  obtain ⟨look, later, htranscript, hpolled⟩ := poll_concludes
    (Routine.concludes_run a.reader.perform (Tail.poll a.pageSize a.key a.path)
      (store, a.state))
  -- the store answers the look-up
  obtain ⟨hlook, -⟩ := List.cons.inj htranscript
  obtain rfl : store.get? a.key = look := eq_of_heq (Sigma.mk.inj hlook).2
  have hstore : (a.poll store).2 = noteAll store (marks (a.transcript store)) :=
    a.reader.store_run _ store a.state
  rw [hstore]
  exact hpolled.contained

-- ======================================================== polls in a row

/-- Polls made one after the other: what they return, and the store after the
last one. -/
def play : List (Attempt ε σ) → Watermarks → List (Except ε Report) × Watermarks
  | [], store => ([], store)
  | a :: later, store =>
      let (rs, store') := play later (a.poll store).2
      ((a.poll store).1 :: rs, store')

/-- The polls that succeed when all of them are made. -/
def successes : List (Attempt ε σ) → Watermarks → List (Attempt ε σ)
  | [], _ => []
  | a :: later, store =>
      if (a.poll store).1.isOk then a :: successes later (a.poll store).2
      else successes later (a.poll store).2

theorem play_cons (a : Attempt ε σ) (later : List (Attempt ε σ)) (store : Watermarks) :
    play (a :: later) store
      = ((a.poll store).1 :: (play later (a.poll store).2).1,
        (play later (a.poll store).2).2) := rfl

/-- A failed poll leaves the store that it found to the later ones. -/
theorem successes_of_error {a : Attempt ε σ} {store : Watermarks} {e : ε}
    (h : (a.poll store).1 = .error e) (later : List (Attempt ε σ)) :
    successes (a :: later) store = successes later store := by
  rw [successes, (a.contained store).failed e h, h]
  rfl

theorem successes_of_ok {a : Attempt ε σ} {store : Watermarks} {report : Report}
    (h : (a.poll store).1 = .ok report) (later : List (Attempt ε σ)) :
    successes (a :: later) store = a :: successes later (a.poll store).2 := by
  rw [successes, h]
  rfl

/-- Polls in a row return the same if those that fail are never made. -/
theorem play_successes (attempts : List (Attempt ε σ)) (store : Watermarks) :
    play (successes attempts store) store
      = ((play attempts store).1.filter Except.isOk, (play attempts store).2) := by
  induction attempts generalizing store with
  | nil => rfl
  | cons a later ih =>
      cases hr : (a.poll store).1 with
      | error e =>
          rw [successes_of_error hr, ih store, play_cons,
            (a.contained store).failed e hr, hr,
            List.filter_cons_of_neg Bool.false_ne_true]
      | ok report =>
          rw [successes_of_ok hr, play_cons, play_cons, ih, hr,
            List.filter_cons_of_pos rfl]

/-- A poll is safe with any reader: whatever it is answered, it does only what
`Contained` says. So failed polls go unnoticed. Of any polls in a row, of any
keys and with any readers, those that succeed return the same and leave the
same store if those that fail are never made. -/
theorem poll_safe_with_any_reader (ε σ : Type) :
    (∀ (a : Attempt ε σ) (store : Watermarks),
        Contained a.key store (a.transcript store) (a.poll store).1 (a.poll store).2)
      ∧ ∀ (attempts : List (Attempt ε σ)) (store : Watermarks),
        play (successes attempts store) store
          = ((play attempts store).1.filter Except.isOk, (play attempts store).2) :=
  ⟨Attempt.contained, play_successes⟩

end

end CheckGateway.Tail
