/-
How often a cache lets its remote be asked.

Reads that do not insist, on a clock that does not go back: from the end of one
fetch to the start of the next it takes at least the time to live, whether the
fetches fail or not. In between every read gets what the last fetch brought. So
a span of clock time holds one fetch more than it has times to live in it, and
no more, however many reads there are.

Times are measured on the scale of the clock (`Timestamp.onScale`), on which
spans add up. A span that the cache takes for old enough is at least as long
there.
-/
import CheckGateway.Proofs.Cache.History
import CheckGateway.Proofs.Time.Scale

namespace CheckGateway

open Timestamp (onScale Shown)

/-- Readings of a clock that does not go back, the latest first. -/
structure NeverBack (leaps : Finset Int) (readings : List Timestamp) : Prop where
  shown : ∀ t ∈ readings, Shown leaps t
  ordered : readings.Pairwise fun later earlier => earlier ≤ later

theorem NeverBack.sublist {leaps : Finset Int} {ts ts' : List Timestamp}
    (h : NeverBack leaps ts) (hsub : ts'.Sublist ts) : NeverBack leaps ts' :=
  ⟨fun t ht => h.shown t (hsub.subset ht), h.ordered.sublist hsub⟩

/-- The clock is read once more. -/
theorem NeverBack.push {leaps : Finset Int} {ts : List Timestamp} {t u : Timestamp}
    (h : NeverBack leaps (t :: ts)) (hle : t ≤ u) (hshown : Shown leaps u) :
    NeverBack leaps (u :: t :: ts) := by
  obtain ⟨hlast, -⟩ := List.pairwise_cons.1 h.ordered
  refine ⟨List.forall_mem_cons.2 ⟨hshown, h.shown⟩, List.pairwise_cons.2 ⟨?_, h.ordered⟩⟩
  intro t' ht'
  obtain rfl | ht' := List.mem_cons.1 ht'
  · exact hle
  · exact Timestamp.le_trans (hlast t' ht') hle

-- ===================================================== points apart

/-- Points that lie apart reach back from the last one. -/
theorem add_length_mul_le_of_spaced {d : Nat} {x t : Int} {ts : List Int}
    (hspaced : (t :: ts).Pairwise fun later earlier => earlier + (d : Int) ≤ later)
    (hfrom : ∀ s ∈ t :: ts, x ≤ s) : x + ts.length * d ≤ t := by
  induction ts generalizing t with
  | nil => simpa using hfrom
  | cons s ts ih =>
      obtain ⟨hlast, hrest⟩ := List.pairwise_cons.1 hspaced
      have hnext := hlast s (List.mem_cons_self ..)
      have hreach := ih hrest fun s' hs' => hfrom s' (List.mem_cons_of_mem _ hs')
      rw [List.length_cons, Int.natCast_succ, Int.add_mul]
      omega

/-- A span holds one point more than it holds distances between points. -/
theorem length_le_of_spaced {d L : Nat} {x : Int} {ts : List Int} (hd : 0 < d)
    (hspaced : ts.Pairwise fun later earlier => earlier + (d : Int) ≤ later)
    (hwithin : ∀ t ∈ ts, x ≤ t ∧ t ≤ x + L) : ts.length ≤ 1 + L / d := by
  cases ts with
  | nil => exact Nat.zero_le _
  | cons t ts =>
      have hreach := add_length_mul_le_of_spaced hspaced fun s hs => (hwithin s hs).1
      have hlast := (hwithin t (List.mem_cons_self ..)).2
      have hspan : ts.length * d ≤ L := by
        have hcast : ((ts.length * d : Nat) : Int) = ts.length * d := Int.natCast_mul ..
        omega
      have hcount := (Nat.le_div_iff_mul_le hd).2 hspan
      rw [List.length_cons]
      omega

/-- Few of what happens at points that lie apart happens within a span. -/
theorem length_filter_le_of_spaced {β : Type} {d : Nat} {point : β → Int} {vs : List β}
    (hd : 0 < d)
    (hspaced : vs.Pairwise fun later earlier => point earlier + (d : Int) ≤ point later)
    (x : Int) (L : Nat) :
    (vs.filter fun v => x ≤ point v ∧ point v ≤ x + L).length ≤ 1 + L / d := by
  have hwithin := hspaced.filter fun v => decide (x ≤ point v ∧ point v ≤ x + L)
  have hcount := length_le_of_spaced hd (List.pairwise_map.2 hwithin) (x := x) (L := L) ?_
  · rwa [List.length_map] at hcount
  · intro t ht
    obtain ⟨v, hv, rfl⟩ := List.mem_map.1 ht
    exact of_decide_eq_true (List.mem_filter.1 hv).2

namespace Cache

variable {α : Type} {name : String} {ttl : Span} {leaps : Finset Int}
  {past later : List (Visit α)} {u v : Visit α}

-- ============================================== fetches and their times

/-- The reads that fetched, the latest first. -/
def fetching (name : String) (ttl : Span) : List (Visit α) → List (Visit α)
  | [] => []
  | v :: past =>
      if ran name ttl past v then v :: fetching name ttl past else fetching name ttl past

/-- What the clock showed, the latest reading first: when a read came and, if
it fetched, when the fetch came back. -/
def readings (name : String) (ttl : Span) : List (Visit α) → List Timestamp
  | [] => []
  | v :: past =>
      if ran name ttl past v then v.fetch.endsAt :: v.now :: readings name ttl past
      else v.now :: readings name ttl past

theorem fetched_eq (name : String) (ttl : Span) (past : List (Visit α)) :
    fetched name ttl past = (fetching name ttl past).map Visit.fetch := by
  induction past with
  | nil => rfl
  | cons v past ih =>
      unfold fetched fetching
      split <;> simp [ih]

theorem fetching_suffix (later past : List (Visit α)) :
    fetching name ttl past <:+ fetching name ttl (later ++ past) := by
  induction later with
  | nil => exact List.suffix_refl _
  | cons v later ih =>
      rw [List.cons_append, fetching]
      split
      · exact ih.trans (List.suffix_cons ..)
      · exact ih

theorem readings_suffix (later past : List (Visit α)) :
    readings name ttl past <:+ readings name ttl (later ++ past) := by
  induction later with
  | nil => exact List.suffix_refl _
  | cons v later ih =>
      rw [List.cons_append, readings]
      split
      · exact (ih.trans (List.suffix_cons ..)).trans (List.suffix_cons ..)
      · exact ih.trans (List.suffix_cons ..)

theorem Dead.append (h : Dead name ttl past) : Dead name ttl (later ++ past) := by
  induction later with
  | nil => exact h
  | cons v later ih => exact ih.cons

/-- Both times of a fetch are on the clock, the start first. -/
theorem times_of_fetching (hclock : NeverBack leaps (readings name ttl past))
    (hu : u ∈ fetching name ttl past) :
    u.now ≤ u.fetch.endsAt ∧ u.now ∈ readings name ttl past
      ∧ u.fetch.endsAt ∈ readings name ttl past := by
  induction past with
  | nil => cases hu
  | cons v past ih =>
      have hbefore := ih (hclock.sublist (readings_suffix [v] past).sublist)
      simp only [fetching, readings] at hu hclock ⊢
      split at hu
      next hran =>
        rw [if_pos hran] at hclock ⊢
        obtain rfl | hu := List.mem_cons.1 hu
        · obtain ⟨hends, -⟩ := List.pairwise_cons.1 hclock.ordered
          exact ⟨hends u.now (List.mem_cons_self ..), by simp, by simp⟩
        · obtain ⟨hle, hnow, hends⟩ := hbefore hu
          exact ⟨hle, by simp [hnow], by simp [hends]⟩
      next hran =>
        rw [if_neg hran]
        obtain ⟨hle, hnow, hends⟩ := hbefore hu
        exact ⟨hle, by simp [hnow], by simp [hends]⟩

/-- A read comes after everything that the clock showed before. -/
theorem le_now_of_mem (hclock : NeverBack leaps (readings name ttl (v :: past)))
    {t : Timestamp} (ht : t ∈ readings name ttl past) : t ≤ v.now := by
  have hsub : (v.now :: readings name ttl past).Sublist (readings name ttl (v :: past)) := by
    rw [readings]
    split
    · exact List.sublist_cons_self ..
    · exact List.Sublist.refl _
  exact (List.pairwise_cons.1 (hclock.sublist hsub).ordered).1 t ht

/-- While no fetch dies, the last one that was made is the last that came
back. -/
theorem last_of_fetching {fs : List (Visit α)} (halive : ¬ Dead name ttl past)
    (hfs : fetching name ttl past = u :: fs) :
    ∃ o, u.fetch.returned? = some (o, u.fetch.endsAt)
      ∧ last? name ttl past = some (o, u.fetch.endsAt) := by
  have hfetched : fetched name ttl past = u.fetch :: fs.map Visit.fetch := by
    rw [fetched_eq, hfs, List.map_cons]
  have hreturned : u.fetch.returned? ≠ none := fun hnone =>
    halive ⟨u.fetch, by rw [hfetched]; exact List.mem_cons_self .., hnone⟩
  have hends : ∃ o, u.fetch.returned? = some (o, u.fetch.endsAt) := by
    unfold Fetch.returned? at hreturned ⊢
    split at hreturned
    · exact ⟨_, rfl⟩
    · exact ⟨_, rfl⟩
    · exact absurd rfl hreturned
  obtain ⟨o, ho⟩ := hends
  refine ⟨o, ho, ?_⟩
  unfold last?
  rw [hfetched, List.findSome?_cons, ho]

-- ====================================================== fetches apart

/-- What was fetched last is too old when a read that does not insist fetches
again. -/
theorem old_of_ran {fs : List (Visit α)} (hforce : v.force = false)
    (halive : ¬ Dead name ttl past) (hclock : NeverBack leaps (readings name ttl (v :: past)))
    (hfs : fetching name ttl past = u :: fs) (hran : ran name ttl past v = true) :
    onScale leaps u.fetch.endsAt + ttl.nanos ≤ onScale leaps v.now := by
  obtain ⟨o, -, hlast⟩ := last_of_fetching halive hfs
  have hpast := hclock.sublist (readings_suffix [v] past).sublist
  obtain ⟨-, -, hends⟩ := times_of_fetching hpast (u := u) (by simp [hfs])
  have hspan := Timestamp.nanosBetween_le_onScale (hpast.shown _ hends)
    (le_now_of_mem hclock hends)
  by_contra hyoung
  have hcontent : v.Content ttl u.fetch.endsAt := ⟨hforce, by omega⟩
  rw [(get_of_content halive hlast hcontent).1] at hran
  cases hran

/-- From the end of a fetch to the start of any later one it takes at least the
time to live. -/
theorem fetching_spaced (hunforced : ∀ v ∈ past, v.force = false)
    (halive : ¬ Dead name ttl past) (hclock : NeverBack leaps (readings name ttl past)) :
    (fetching name ttl past).Pairwise fun later earlier =>
      onScale leaps earlier.fetch.endsAt + ttl.nanos ≤ onScale leaps later.now := by
  induction past with
  | nil => exact List.Pairwise.nil
  | cons v past ih =>
      have hpast := hclock.sublist (readings_suffix [v] past).sublist
      have hbefore := ih (fun w hw => hunforced w (List.mem_cons_of_mem _ hw))
        (fun hdead => halive hdead.cons) hpast
      rw [fetching]
      split
      next hran =>
        refine List.pairwise_cons.2 ⟨fun w hw => ?_, hbefore⟩
        cases hfs : fetching name ttl past with
        | nil =>
            rw [hfs] at hw
            cases hw
        | cons u fs =>
            have hold := old_of_ran (hunforced v (List.mem_cons_self ..))
              (fun hdead => halive hdead.cons) hclock hfs hran
            rw [hfs] at hw hbefore
            obtain rfl | hw := List.mem_cons.1 hw
            · exact hold
            · -- an earlier fetch is followed by the last one first
              have hfirst := (List.pairwise_cons.1 hbefore).1 w hw
              obtain ⟨hle, hnow, -⟩ := times_of_fetching hpast (u := u) (by simp [hfs])
              have hlast := Timestamp.onScale_mono (hpast.shown _ hnow) hle
              omega
      next => exact hbefore

/-- Reads within the time to live after a fetch do not fetch, and get what it
brought. -/
theorem replayed_of_young {between earlier : List (Visit α)}
    (hunforced : ∀ w ∈ v :: (between ++ u :: earlier), w.force = false)
    (halive : ¬ Dead name ttl (between ++ u :: earlier))
    (hclock : NeverBack leaps (readings name ttl (v :: (between ++ u :: earlier))))
    (hran : ran name ttl earlier u = true)
    (hyoung : onScale leaps v.now < onScale leaps u.fetch.endsAt + ttl.nanos) :
    ran name ttl (between ++ u :: earlier) v = false
      ∧ ∃ o, u.fetch.returned? = some (o, u.fetch.endsAt)
        ∧ answer name ttl (between ++ u :: earlier) v
          = (shown name o u.fetch.endsAt true).mapError .failed := by
  have hpast := hclock.sublist (readings_suffix [v] (between ++ u :: earlier)).sublist
  have hspaced := fetching_spaced (fun w hw => hunforced w (List.mem_cons_of_mem _ hw)) halive hpast
  have hsuffix : fetching name ttl (u :: earlier) <:+ fetching name ttl (between ++ u :: earlier) :=
    fetching_suffix between (u :: earlier)
  obtain ⟨fs, hfs⟩ := hsuffix
  rw [fetching, if_pos hran] at hfs
  -- a fetch after this one would have to come after the read
  have hnone : fs = [] := by
    cases fs with
    | nil => rfl
    | cons w fs =>
        rw [← hfs] at hspaced
        have hafter := (List.pairwise_cons.1 hspaced).1 u (by simp)
        obtain ⟨-, hnow, -⟩ := times_of_fetching hpast (u := w) (by rw [← hfs]; simp)
        have hle := Timestamp.onScale_mono (hpast.shown _ hnow) (le_now_of_mem hclock hnow)
        omega
  rw [hnone, List.nil_append] at hfs
  obtain ⟨o, ho, hlast⟩ := last_of_fetching halive hfs.symm
  obtain ⟨-, -, hends⟩ := times_of_fetching hpast (u := u) (by rw [← hfs]; simp)
  have hspan := Timestamp.nanosBetween_le_onScale (hpast.shown _ hends)
    (le_now_of_mem hclock hends)
  have hcontent : v.Content ttl u.fetch.endsAt :=
    ⟨hunforced v (List.mem_cons_self ..), by omega⟩
  obtain ⟨hquiet, hanswer⟩ := get_of_content halive hlast hcontent
  exact ⟨hquiet, o, ho, hanswer⟩

-- ============================================================= the pace

/-- How a cache paces its fetches. -/
structure Paced (leaps : Finset Int) (name : String) (ttl : Span) (past : List (Visit α)) :
    Prop where
  /-- No fetch starts within the time to live after another one has ended. -/
  spaced : (fetching name ttl past).Pairwise fun later earlier =>
    onScale leaps earlier.fetch.endsAt + ttl.nanos ≤ onScale leaps later.now
  /-- Until then every read gets what that one brought. -/
  replayed : ∀ later v between u earlier, past = later ++ v :: (between ++ u :: earlier) →
    ran name ttl earlier u = true →
    onScale leaps v.now < onScale leaps u.fetch.endsAt + ttl.nanos →
    ran name ttl (between ++ u :: earlier) v = false
      ∧ ∃ o, u.fetch.returned? = some (o, u.fetch.endsAt)
        ∧ answer name ttl (between ++ u :: earlier) v
          = (shown name o u.fetch.endsAt true).mapError .failed
  /-- A span of clock time holds few starts of fetches. -/
  bounded : ∀ (x : Int) (L : Nat),
    ((fetching name ttl past).filter fun v =>
        x ≤ onScale leaps v.now ∧ onScale leaps v.now ≤ x + L).length
      ≤ 1 + L / ttl.nanos

/-- The starts of fetches lie apart, since none starts before the one before
has ended. -/
theorem starts_spaced (hunforced : ∀ v ∈ past, v.force = false)
    (halive : ¬ Dead name ttl past) (hclock : NeverBack leaps (readings name ttl past)) :
    (fetching name ttl past).Pairwise fun later earlier =>
      onScale leaps earlier.now + ttl.nanos ≤ onScale leaps later.now := by
  refine (fetching_spaced hunforced halive hclock).imp_of_mem ?_
  intro later earlier _ hearlier hspaced
  obtain ⟨hle, hnow, -⟩ := times_of_fetching hclock hearlier
  have hlast := Timestamp.onScale_mono (hclock.shown _ hnow) hle
  omega

/-- Reads that do not insist are paced, on a clock that does not go back. -/
theorem paced (httl : 0 < ttl.nanos) (hunforced : ∀ v ∈ past, v.force = false)
    (halive : ¬ Dead name ttl past) (hclock : NeverBack leaps (readings name ttl past)) :
    Paced leaps name ttl past where
  spaced := fetching_spaced hunforced halive hclock
  replayed := by
    intro later v between u earlier hpast hran hyoung
    subst hpast
    apply replayed_of_young _ _ _ hran hyoung
    · intro w hw
      exact hunforced w (List.mem_append_right _ hw)
    · intro hdead
      exact halive hdead.cons.append
    · exact hclock.sublist (readings_suffix later _).sublist
  bounded := length_filter_le_of_spaced httl (starts_spaced hunforced halive hclock)

end Cache

end CheckGateway
