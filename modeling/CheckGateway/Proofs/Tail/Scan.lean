/-
The paged scan is the plain scan: over a queue that stays as it is, a poll
of an established key reports exactly `newer mark` of the whole queue,
newest first, however the reader cuts its pages.

# The reader

`Reads` is all that is asked of one: the true length, pages from the right
offset with at least one entry while entries remain and at most as many as
were asked for, or a failure at any read. The watermarks are the store's
own. Everything below holds for every reader that `Reads` admits, and the
order of the queue's dates plays no part.

# The argument

`scan` has read the first `offset` entries, none of which stops it: that is
the loop invariant of `scan_ends`. A page that stops the scan ends `newer`
of what is left at the same entry, and one that does not moves the offset
by its length.
-/
import CheckGateway.Proofs.Routine
import CheckGateway.Tail.Poll

namespace CheckGateway.Tail

/-- What polls talk to: one queue, oldest entry first, and the
watermarks. -/
structure World where
  queue : List QueuedMessage
  watermarks : Watermarks

/-- A page of a queue: some of its entries from an offset on, newest
first. -/
def IsPage (queue : List QueuedMessage) (offset count : Nat)
    (entries : List QueuedMessage) : Prop :=
  ∃ n, entries = (queue.reverse.drop offset).take n ∧ n ≤ count
    ∧ (offset < queue.length → 0 < count → 0 < n)

/-- The answers of the store, and of a reader over a queue that nothing
changes. -/
def Reads {ε : Type} (w : World) : (c : Call) → Answer ε c → World → Prop
  | .watermark key, mark, w' => mark = w.watermarks.get? key ∧ w' = w
  | .length _, length, w' =>
      (length = .ok w.queue.length ∨ ∃ e, length = .error e) ∧ w' = w
  | .page _ offset count, page, w' =>
      ((∃ entries, page = .ok entries ∧ IsPage w.queue offset count entries)
        ∨ ∃ e, page = .error e) ∧ w' = w
  | .note key entry, _, w' =>
      w' = { w with watermarks := w.watermarks.insert key entry }

/-- The answers of a reader that never fails and cuts no page short. -/
def World.perform {ε : Type} : (c : Call) → World → Answer ε c × World
  | .watermark key, w => (w.watermarks.get? key, w)
  | .length _, w => (.ok w.queue.length, w)
  | .page _ offset count, w =>
      (.ok ((w.queue.reverse.drop offset).take count), w)
  | .note key entry, w =>
      ((), { w with watermarks := w.watermarks.insert key entry })

theorem reads_perform {ε : Type} (w : World) (c : Call) :
    Reads w c (World.perform c w : Answer ε c × World).1
      (World.perform c w : Answer ε c × World).2 := by
  cases c with
  | watermark key => exact ⟨rfl, rfl⟩
  | length path => exact ⟨.inl rfl, rfl⟩
  | page path offset count =>
      exact ⟨.inl ⟨_, rfl, count, rfl, Nat.le_refl _, fun _ h => h⟩, rfl⟩
  | note key entry => rfl

/-- The world once the newest entry of its queue, if there is one, is the
watermark. -/
def World.noted (w : World) (key : WatermarkKey) : World :=
  match w.queue.reverse.head? with
  | some entry => { w with watermarks := w.watermarks.insert key entry }
  | none => w

@[simp]
theorem World.queue_noted (w : World) (key : WatermarkKey) :
    (w.noted key).queue = w.queue := by
  unfold World.noted
  split <;> rfl

-- ================================================== where scans stop

/-- A scan does not look past an entry at which it stops. -/
theorem newer_append_of_stop {mark : QueuedMessage}
    {page rest : List QueuedMessage} (h : page.any (stops mark) = true) :
    newer mark (page ++ rest) = newer mark page := by
  unfold newer
  induction page with
  | nil => simp at h
  | cons m page ih =>
      rw [List.cons_append]
      cases hm : stops mark m with
      | true => simp [hm]
      | false =>
          have hpage : page.any (stops mark) = true := by
            rw [List.any_cons, hm, Bool.false_or] at h
            exact h
          simp [hm, ih hpage]

/-- A scan goes through a page at which nothing stops it. -/
theorem newer_append_of_not_stop {mark : QueuedMessage}
    {page rest : List QueuedMessage} (h : page.any (stops mark) = false) :
    newer mark (page ++ rest) = page ++ newer mark rest := by
  unfold newer
  refine List.takeWhile_append_of_pos fun m hm => ?_
  rw [List.any_eq_false] at h
  simpa using h m hm

theorem newer_of_not_stop {mark : QueuedMessage} {page : List QueuedMessage}
    (h : page.any (stops mark) = false) : newer mark page = page := by
  have happ : newer mark (page ++ []) = page ++ newer mark [] :=
    newer_append_of_not_stop h
  simpa [newer] using happ

-- ============================================================ the scan

section

variable {ε : Type} {size : Nat} {path : String} {key : WatermarkKey}
  {mark : QueuedMessage}

theorem scan_succ (length rounds offset : Nat) (found : Found) :
    (scan size path mark length (rounds + 1) offset found :
        Poll ε (Except ε Found)) =
      if length ≤ offset then .done (.ok found)
      else .call (.page path offset size) fun page =>
        match (page : Except ε (List QueuedMessage)) with
        | .error e => .done (.error e)
        | .ok [] => .done (.ok found)
        | .ok entries =>
            if entries.any (stops mark) then .done (.ok (found.add mark entries))
            else
              scan size path mark length rounds (offset + entries.length)
                (found.add mark entries) := by
  rw [scan]
  split
  · rfl
  · show Routine.call _ _ = _
    congr 1
    funext page
    match page with
    | .error e => rfl
    | .ok [] => rfl
    | .ok (m :: rest) => rfl

/-- What a scan has found once it has gone through the first entries of a
queue that it reads newest first. -/
def Found.through (newestFirst : List QueuedMessage) (offset : Nat) : Found :=
  ⟨(newestFirst.take offset).head?, newestFirst.take offset⟩

/-- The entries up to the end of a page are those before it and the
page. -/
theorem take_add_length_page {queue page : List QueuedMessage} {offset n : Nat}
    (hpage : page = (queue.drop offset).take n) :
    queue.take (offset + page.length) = queue.take offset ++ page := by
  rw [List.take_add, hpage, List.length_take]
  exact congrArg _ List.take_eq_take_min.symm

/-- A page that does not stop the scan brings it further through the
queue. -/
theorem Found.add_of_not_stop {queue page : List QueuedMessage}
    {offset n : Nat} (hpage : page = (queue.drop offset).take n)
    (hgo : page.any (stops mark) = false) :
    (Found.through queue offset).add mark page
      = Found.through queue (offset + page.length) := by
  unfold Found.add Found.through
  rw [newer_of_not_stop hgo, take_add_length_page hpage, List.head?_append]

/-- A page that stops the scan completes what the plain scan of the whole
queue finds. -/
theorem Found.add_of_stop {queue page : List QueuedMessage} {offset n : Nat}
    (hpage : page = (queue.drop offset).take n)
    (hgone : (queue.take offset).any (stops mark) = false)
    (hstop : page.any (stops mark) = true) :
    (Found.through queue offset).add mark page
      = ⟨queue.head?, newer mark queue⟩ := by
  have hsplit : queue = queue.take offset ++ (page ++ (queue.drop offset).drop n) := by
    rw [hpage, List.take_append_drop, List.take_append_drop]
  have hnewer : newer mark queue = queue.take offset ++ newer mark page :=
    calc newer mark queue
        = newer mark (queue.take offset ++ (page ++ (queue.drop offset).drop n)) :=
          congrArg _ hsplit
      _ = queue.take offset ++ newer mark (page ++ (queue.drop offset).drop n) :=
          newer_append_of_not_stop hgone
      _ = queue.take offset ++ newer mark page := by
          rw [newer_append_of_stop hstop]
  have hhead : queue.head? = (queue.take offset).head?.or page.head? := by
    refine (congrArg List.head? hsplit).trans ?_
    rw [List.head?_append, List.head?_append]
    cases page with
    | nil => simp at hstop
    | cons m rest => rfl
  unfold Found.add Found.through
  rw [hnewer, hhead]

/-- A scan that has gone through the whole queue has found what the plain
scan finds. -/
theorem Found.through_all {queue : List QueuedMessage} {offset : Nat}
    (hall : queue.length ≤ offset)
    (hgone : (queue.take offset).any (stops mark) = false) :
    Found.through queue offset = ⟨queue.head?, newer mark queue⟩ := by
  have htake : queue.take offset = queue := List.take_of_length_le hall
  rw [htake] at hgone
  unfold Found.through
  rw [htake, newer_of_not_stop hgone]

/-- Over a queue that stays as it is, a scan either fails on a read or finds
what the plain scan of the whole queue finds. -/
theorem scan_ends {w w' : World} {rounds offset : Nat}
    {r : Except ε Found} (hsize : 0 < size)
    (hrounds : w.queue.length ≤ offset + rounds)
    (hgone : (w.queue.reverse.take offset).any (stops mark) = false)
    (h : Routine.Ends Reads
      (scan size path mark w.queue.length rounds offset
        (Found.through w.queue.reverse offset)) w r w') :
    ((∃ e, r = .error e)
        ∨ r = .ok ⟨w.queue.reverse.head?, newer mark w.queue.reverse⟩)
      ∧ w' = w := by
  have hlength : w.queue.reverse.length = w.queue.length := List.length_reverse
  induction rounds generalizing offset with
  | zero =>
      obtain ⟨rfl, rfl⟩ := Routine.ends_done_iff.1 h
      exact ⟨.inr (congrArg _ (Found.through_all (by omega) hgone)), rfl⟩
  | succ rounds ih =>
      rw [scan_succ] at h
      split at h
      next hle =>
        obtain ⟨rfl, rfl⟩ := Routine.ends_done_iff.1 h
        exact ⟨.inr (congrArg _ (Found.through_all (by omega) hgone)), rfl⟩
      next hlt =>
        obtain ⟨page, w₁, ⟨hpage, rfl⟩, hrest⟩ := Routine.ends_call_iff.1 h
        rcases hpage with ⟨entries, rfl, n, hentries, -, hsome⟩ | ⟨e, rfl⟩
        · cases entries with
          | nil =>
              -- while entries remain, a page is not empty
              exfalso
              have hpos := hsome (by omega) hsize
              have hlen := congrArg List.length hentries
              rw [List.length_nil, List.length_take, List.length_drop] at hlen
              omega
          | cons m rest =>
              change Routine.Ends Reads (if _ then _ else _) _ _ _ at hrest
              split at hrest
              next hstop =>
                obtain ⟨rfl, rfl⟩ := Routine.ends_done_iff.1 hrest
                exact ⟨.inr (congrArg _ (Found.add_of_stop hentries hgone hstop)),
                  rfl⟩
              next hgo =>
                rw [Bool.not_eq_true] at hgo
                rw [Found.add_of_not_stop hentries hgo] at hrest
                refine ih ?_ ?_ hrest
                · rw [List.length_cons]
                  omega
                · rw [take_add_length_page hentries, List.any_append, hgone, hgo]
                  rfl
        · obtain ⟨rfl, rfl⟩ := Routine.ends_done_iff.1 hrest
          exact ⟨.inl ⟨e, rfl⟩, rfl⟩

/-- The scan of a poll starts with the whole queue before it. -/
theorem scan_ends_of_start {w w' : World} {r : Except ε Found}
    (hsize : 0 < size)
    (h : Routine.Ends Reads
      (scan size path mark w.queue.length w.queue.length 0 {}) w r w') :
    ((∃ e, r = .error e)
        ∨ r = .ok ⟨w.queue.reverse.head?, newer mark w.queue.reverse⟩)
      ∧ w' = w := by
  have hstart : Routine.Ends Reads
      (scan size path mark w.queue.length w.queue.length 0
        (Found.through w.queue.reverse 0)) w r w' := h
  exact scan_ends hsize (Nat.le_add_left ..) rfl hstart

/-- A call of a poll of a key: about no other watermark, and about no other
queue. -/
def Call.Own (key : WatermarkKey) (path : String) : Call → Prop
  | .watermark k | .note k _ => k = key
  | .length p | .page p .. => p = path

theorem scan_own (length rounds offset : Nat) (found : Found) :
    (scan size path mark length rounds offset found : Poll ε (Except ε Found)).Makes
      (Call.Own key path) := by
  induction rounds generalizing offset found with
  | zero => exact trivial
  | succ rounds ih =>
      rw [scan_succ]
      split
      · exact trivial
      · refine ⟨rfl, fun page => ?_⟩
        match page with
        | .error e => exact trivial
        | .ok [] => exact trivial
        | .ok (m :: rest) =>
            show Routine.Makes _ (if _ then _ else _)
            split
            · exact trivial
            · exact ih _ _

-- ============================================================ the poll

/-- A poll asks for nothing but its own watermark and its own queue. -/
theorem poll_own : (poll size key path : Poll ε (Except ε Report)).Makes (Call.Own key path) := by
  refine ⟨rfl, fun look => ?_⟩
  match look with
  | none =>
      refine ⟨rfl, fun page => ?_⟩
      match page with
      | .error e => exact trivial
      | .ok [] => exact trivial
      | .ok (entry :: rest) => exact ⟨rfl, fun _ => trivial⟩
  | some mark =>
      refine ⟨rfl, fun length => ?_⟩
      match length with
      | .error e => exact trivial
      | .ok n =>
          show Routine.Makes _ (Routine.bind (scan (size.max 1) path mark n n 0 {}) _)
          refine Routine.Makes.bind (scan_own ..) fun found => ?_
          match found with
          | .error e => exact trivial
          | .ok ⟨none, fresh⟩ => exact trivial
          | .ok ⟨some entry, fresh⟩ => exact ⟨rfl, fun _ => trivial⟩

/-- A page of at most one entry at the start of a queue shows its newest
entry. -/
theorem head?_of_isPage {queue entries : List QueuedMessage} {count : Nat}
    (hcount : 0 < count) (h : IsPage queue 0 count entries) :
    entries.head? = queue.reverse.head? := by
  obtain ⟨n, rfl, -, hsome⟩ := h
  rw [List.drop_zero]
  cases hqueue : queue.reverse with
  | nil => rw [List.take_nil]
  | cons m older =>
      have hlength := congrArg List.length hqueue
      rw [List.length_reverse, List.length_cons] at hlength
      cases n with
      | zero => exact absurd (hsome (by omega) hcount) (by omega)
      | succ n => rfl

/-- The first poll of a key fails, or notes the newest entry. -/
theorem poll_ends_of_no_mark {w w' : World} {r : Except ε Report}
    (hmark : w.watermarks.get? key = none)
    (h : Routine.Ends Reads (poll size key path) w r w') :
    ((∃ e, r = .error e) ∧ w' = w)
      ∨ (r = .ok .initialized ∧ w' = w.noted key) := by
  obtain ⟨mark, w₁, ⟨rfl, rfl⟩, h⟩ := Routine.ends_call_iff.1 h
  generalize hlook : w₁.watermarks.get? key = look at h
  obtain rfl : look = none := hlook.symm.trans hmark
  change Routine.Ends Reads (establish key path) w₁ r w' at h
  obtain ⟨page, w₁, ⟨hpage, rfl⟩, h⟩ := Routine.ends_call_iff.1 h
  rcases hpage with ⟨entries, rfl, hentries⟩ | ⟨e, rfl⟩
  · have hhead := head?_of_isPage Nat.one_pos hentries
    refine .inr ?_
    unfold World.noted
    rw [← hhead]
    cases entries with
    | nil => exact Routine.ends_done_iff.1 h
    | cons entry rest =>
        obtain ⟨_, w₂, rfl, h⟩ := Routine.ends_call_iff.1 h
        exact Routine.ends_done_iff.1 h
  · obtain ⟨rfl, rfl⟩ := Routine.ends_done_iff.1 h
    exact .inl ⟨⟨e, rfl⟩, rfl⟩

/-- A poll of an established key fails, or reports what the plain scan of
the queue finds and notes the newest entry. -/
theorem poll_ends_of_mark {w w' : World} {r : Except ε Report}
    (hmark : w.watermarks.get? key = some mark)
    (h : Routine.Ends Reads (poll size key path) w r w') :
    ((∃ e, r = .error e) ∧ w' = w)
      ∨ (r = .ok (.new (newer mark w.queue.reverse)) ∧ w' = w.noted key) := by
  obtain ⟨_, w₁, ⟨rfl, rfl⟩, h⟩ := Routine.ends_call_iff.1 h
  generalize hlook : w₁.watermarks.get? key = look at h
  obtain rfl : look = some mark := hlook.symm.trans hmark
  change Routine.Ends Reads (advance (size.max 1) key path mark) w₁ r w' at h
  obtain ⟨length, w₁, ⟨hlength, rfl⟩, h⟩ := Routine.ends_call_iff.1 h
  rcases hlength with rfl | ⟨e, rfl⟩
  · change Routine.Ends Reads ((scan _ path mark _ _ 0 {}).bind _) w₁ r w' at h
    obtain ⟨found, w₂, hscan, h⟩ := Routine.ends_bind_iff.1 h
    obtain ⟨hfound, rfl⟩ :=
      scan_ends_of_start (Nat.le_max_right size 1) hscan
    rcases hfound with ⟨e, rfl⟩ | rfl
    · obtain ⟨rfl, rfl⟩ := Routine.ends_done_iff.1 h
      exact .inl ⟨⟨e, rfl⟩, rfl⟩
    · refine .inr ?_
      unfold World.noted
      generalize w₂.queue.reverse.head? = newest at h ⊢
      cases newest with
      | none => exact Routine.ends_done_iff.1 h
      | some entry =>
          obtain ⟨_, w₃, rfl, h⟩ := Routine.ends_call_iff.1 h
          exact Routine.ends_done_iff.1 h
  · obtain ⟨rfl, rfl⟩ := Routine.ends_done_iff.1 h
    exact .inl ⟨⟨e, rfl⟩, rfl⟩

end

end CheckGateway.Tail
