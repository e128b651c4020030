/-
Polls of a queue that nothing changes, by a reader whose reads succeed.

What a poll reports was found for every reader that `Reads` admits, but only
where the poll comes to a report. A reader is a program here, with a state of
its own: it may cut a page wherever it likes, and the same page elsewhere the
next time. As long as it delivers pages at all, a poll of an established key
reports the plain scan of the queue, whatever the page size and the cuts are.

# What is read

The scan asks for a page only where nothing that it has read stops it. So the
offset of a page is never past the entry at which the plain scan stops:
`scan_abides` carries this along, with the same invariant as `scan_ends`. No
page is asked for at the end of the queue either.
-/
import CheckGateway.Proofs.Tail.Scan

namespace CheckGateway.Tail

/-- The answers of a reader, over a queue that nothing changes, whose reads
succeed. -/
def Delivers {ε : Type} (w : World) : (c : Call) → Answer ε c → World → Prop
  | .watermark key, mark, w' => mark = w.watermarks.get? key ∧ w' = w
  | .length _, length, w' => length = .ok w.queue.length ∧ w' = w
  | .page _ offset count, page, w' =>
      (∃ entries, page = .ok entries ∧ IsPage w.queue offset count entries) ∧ w' = w
  | .note key entry, _, w' =>
      w' = { w with watermarks := w.watermarks.insert key entry }

/-- A reader that delivers is one that does not fail. -/
theorem Delivers.reads {ε : Type} {w w' : World} {c : Call} {x : Answer ε c}
    (h : Delivers w c x w') : Reads w c x w' := by
  cases c with
  | watermark key => exact h
  | length path => exact ⟨.inl h.1, h.2⟩
  | page path offset count => exact ⟨.inl h.1, h.2⟩
  | note key entry => exact h

/-- A page that the scan of a queue needs: it starts before the end of the
queue, and not past the entry that stops the scan. -/
def Needed (w : World) (mark : QueuedMessage) : Call → Prop
  | .page _ offset _ =>
      offset ≤ (newer mark w.queue.reverse).length ∧ offset < w.queue.length
  | _ => True

-- ============================================================ the scan

section

variable {ε : Type} {size : Nat} {path : String} {key : WatermarkKey}
  {mark : QueuedMessage} {w : World}

/-- What a scan goes through is part of what it reports. -/
theorem le_length_newer {entries : List QueuedMessage} {offset : Nat}
    (hoffset : offset ≤ entries.length)
    (hgone : (entries.take offset).any (stops mark) = false) :
    offset ≤ (newer mark entries).length := by
  have hsplit : newer mark entries = entries.take offset ++ newer mark (entries.drop offset) := by
    rw [← newer_append_of_not_stop hgone, List.take_append_drop]
  rw [hsplit, List.length_append, List.length_take]
  omega

/-- A scan whose pages are delivered ends, and asks only for pages that it
needs. -/
theorem scan_abides {rounds offset : Nat} {found : Found}
    (hgone : (w.queue.reverse.take offset).any (stops mark) = false) :
    (scan size path mark w.queue.length rounds offset found :
        Poll ε (Except ε Found)).Abides Delivers (Needed w mark)
      (fun r w' => (∃ found', r = .ok found') ∧ w' = w) w := by
  induction rounds generalizing offset found with
  | zero => exact ⟨⟨found, rfl⟩, rfl⟩
  | succ rounds ih =>
      rw [scan_succ]
      by_cases hend : w.queue.length ≤ offset
      · rw [if_pos hend]
        exact ⟨⟨found, rfl⟩, rfl⟩
      · rw [if_neg hend]
        have hneeded : offset ≤ (newer mark w.queue.reverse).length := by
          apply le_length_newer
          · rw [List.length_reverse]
            omega
          · exact hgone
        refine ⟨⟨hneeded, by omega⟩, fun page w' hpage => ?_⟩
        obtain ⟨⟨entries, rfl, n, hentries, -, -⟩, rfl⟩ := hpage
        cases entries with
        | nil => exact ⟨⟨found, rfl⟩, rfl⟩
        | cons m rest =>
            by_cases hstop : (m :: rest).any (stops mark) = true
            · simp only [hstop, if_true]
              exact ⟨⟨_, rfl⟩, rfl⟩
            · simp only [hstop]
              rw [Bool.not_eq_true] at hstop
              apply ih
              rw [take_add_length_page hentries, List.any_append, hgone, hstop]
              rfl

-- ============================================================ the poll

/-- A poll of an established key whose reads succeed ends with a report, and
asks only for pages that its scan needs. -/
theorem poll_abides (hmark : w.watermarks.get? key = some mark) :
    (poll size key path : Poll ε (Except ε Report)).Abides Delivers (Needed w mark)
      (fun r _ => ∃ report, r = .ok report) w := by
  refine ⟨trivial, fun look w₁ hlook => ?_⟩
  obtain ⟨rfl, rfl⟩ := hlook
  rw [hmark]
  refine ⟨trivial, fun length w₂ hlength => ?_⟩
  obtain ⟨rfl, rfl⟩ := hlength
  change Routine.Abides _ _ _ ((scan _ path mark _ _ 0 {}).bind _) w₂
  apply Routine.Abides.bind
  apply (scan_abides rfl).mono
  intro r w₃ hscan
  obtain ⟨⟨found, rfl⟩, rfl⟩ := hscan
  cases hnewest : found.newest with
  | none =>
      simp only [hnewest]
      exact ⟨_, rfl⟩
  | some entry =>
      simp only [hnewest]
      exact ⟨trivial, fun _ w₄ hnote => ⟨_, rfl⟩⟩

/-- The paged scan is the plain scan. Over any queue, with any watermark and
page size, and for any reader that delivers, a poll reports the longest run of
newest entries none of which is the watermark or older than it. It makes the
newest entry of the queue the watermark, if there is one. The pages that it
asks for start before the end of the queue, and none starts past the entry
that ends the run. -/
theorem poll_reports_plain_scan (size : Nat) (path : String) {σ : Type}
    {perform : (c : Call) → σ → Answer ε c × σ} {view : σ → World}
    (hdelivers : ∀ s c, Delivers (view s) c (perform c s).1 (view (perform c s).2))
    {s : σ} (hmark : (view s).watermarks.get? key = some mark) :
    ∃ fresh, fresh = (view s).queue.reverse.takeWhile
          (fun m => !(m.sameEntry mark || decide (m.date < mark.date)))
      ∧ ((poll size key path).run perform s).1 = .ok (.new fresh)
      ∧ view ((poll size key path).run perform s).2 = (view s).noted key
      ∧ ∀ path' offset count,
          Call.page path' offset count ∈ (poll size key path).calls perform s →
            offset ≤ fresh.length ∧ offset < (view s).queue.length := by
  have habides : (poll size key path : Poll ε (Except ε Report)).Abides Delivers
      (Needed (view s) mark) (fun r _ => ∃ report, r = .ok report) (view s) :=
    poll_abides hmark
  obtain ⟨⟨report, hreport⟩, hneeded⟩ := habides.run hdelivers
  have hends : Routine.Ends Reads (poll size key path) (view s)
      ((poll size key path).run perform s).1 (view ((poll size key path).run perform s).2) := by
    apply Routine.ends_run_view
    intro t c
    exact (hdelivers t c).reads
  obtain ⟨⟨e, herror⟩, -⟩ | ⟨hnew, hnoted⟩ := poll_ends_of_mark hmark hends
  · rw [hreport] at herror
    cases herror
  · refine ⟨_, rfl, hnew, hnoted, fun path' offset count hcall => ?_⟩
    exact hneeded _ hcall

end

-- ======================================== a reader that changes its mind

/-- A reader that cuts every other page after its first entry, and the others
after two. -/
def fickle {ε : Type} : (c : Call) → World × Nat → Answer ε c × World × Nat
  | .watermark key, (w, turn) => (w.watermarks.get? key, w, turn)
  | .length _, (w, turn) => (.ok w.queue.length, w, turn)
  | .page _ offset count, (w, turn) =>
      (.ok ((w.queue.reverse.drop offset).take (count.min (turn % 2 + 1))), w, turn + 1)
  | .note key entry, (w, turn) =>
      ((), { w with watermarks := w.watermarks.insert key entry }, turn)

theorem fickle_delivers {ε : Type} (s : World × Nat) (c : Call) :
    Delivers s.1 c (fickle c s : Answer ε c × World × Nat).1
      (fickle c s : Answer ε c × World × Nat).2.1 := by
  cases c with
  | watermark key => exact ⟨rfl, rfl⟩
  | length path => exact ⟨rfl, rfl⟩
  | page path offset count =>
      refine ⟨⟨_, rfl, _, rfl, Nat.min_le_left .., fun _ hcount => ?_⟩, rfl⟩
      exact Nat.lt_min.2 ⟨hcount, Nat.succ_pos _⟩
  | note key entry => rfl

/-- An entry of some second, told from the others of that second by its
severity. -/
def entryOf (second : Int) (severity : Int) : QueuedMessage :=
  { date := ⟨second, 0⟩, severity := severity }

/-- Dates that go up and down, and three entries of one second. -/
def unordered : World :=
  ⟨[entryOf 3 0, entryOf 2 10, entryOf 2 20, entryOf 4 0, entryOf 2 30],
    Table.empty.insert ⟨[]⟩ (entryOf 2 10)⟩

/-- Read in pages of two, one of which is cut short, with a watermark of the
same second as two of the entries above it. -/
theorem poll_reports_plain_scan_of_fickle :
    (unordered.watermarks.get? ⟨[]⟩ = some (entryOf 2 10)
        ∧ ∀ s c, Delivers s.1 c (fickle c s : Answer Unit c × World × Nat).1
            (fickle c s : Answer Unit c × World × Nat).2.1)
      ∧ ((poll 2 ⟨[]⟩ "" : Poll Unit (Except Unit Report)).run fickle (unordered, 0)).1
          = .ok (.new [entryOf 2 30, entryOf 4 0, entryOf 2 20])
      ∧ ((poll 2 ⟨[]⟩ "" : Poll Unit (Except Unit Report)).run fickle (unordered, 0)).2.1
          = unordered.noted ⟨[]⟩
      ∧ ∀ path offset count, Call.page path offset count
          ∈ (poll 2 ⟨[]⟩ "" : Poll Unit (Except Unit Report)).calls fickle (unordered, 0) →
            offset ≤ 3 := by
  have hmark : unordered.watermarks.get? ⟨[]⟩ = some (entryOf 2 10) := by decide
  obtain ⟨fresh, hfresh, hreport, hnoted, hpages⟩ :=
    poll_reports_plain_scan 2 "" (s := (unordered, 0)) fickle_delivers hmark
  have hrun : fresh = [entryOf 2 30, entryOf 4 0, entryOf 2 20] := by
    rw [hfresh]
    decide
  rw [hrun] at hreport hpages
  refine ⟨⟨hmark, fickle_delivers⟩, hreport, hnoted, fun path offset count hpage => ?_⟩
  exact (hpages path offset count hpage).1

end CheckGateway.Tail
