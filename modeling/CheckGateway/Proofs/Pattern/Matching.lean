/-
What is computed about matches is what they mean.

`Regex.ends` goes from a set of positions to the set of positions where a match can
end, and a repetition goes on from there. These are the ends of the matches that start in
the set (`computed_of_bounded`, with a lemma for each way to put an expression together).
So `Regex.occurs` decides whether there is a match (`occurs_iff`), and an expression
between the conditions for the two ends of the text whether there is one of the whole text
(`occurs_whole_iff`).

# Repetition

Beyond the minimum, `reach` adds round by round what is new. Whether it is the number
of rounds that ends it or that nothing new came up, it holds all that so many rounds can
reach (`mem_reach_iff`). As many rounds as there are positions are enough for any number
of them: each round before the last adds a position that was not there
(`reach_closed`).
-/
import CheckGateway.Pattern.Regex
import Mathlib.Data.List.Basic

namespace CheckGateway.Pattern

section

variable {step : Nat → Nat → Prop} {f : List Nat → List Nat} {size n m i j k : Nat}
  {s seen last : List Nat}

-- ====================================================================== chains

theorem chain_zero_iff : Chain step 0 i j ↔ i = j := by
  constructor
  · intro h
    cases h
    rfl
  · rintro rfl
    exact .nil i

/-- A chain is a first step and a shorter chain. -/
theorem chain_succ_iff : Chain step (n + 1) i k ↔ ∃ j, step i j ∧ Chain step n j k := by
  constructor
  · intro h
    cases h with
    | cons hstep hrest => exact ⟨_, hstep, hrest⟩
  · rintro ⟨j, hstep, hrest⟩
    exact .cons hstep hrest

/-- Chains that meet make one. -/
theorem Chain.append (h : Chain step n i j) (h' : Chain step m j k) : Chain step (m + n) i k := by
  induction h with
  | nil i => exact h'
  | cons hstep _ ih => exact .cons hstep (ih h')

theorem Chain.snoc (h : Chain step n i j) (hstep : step j k) : Chain step (n + 1) i k := by
  have hone : Chain step 1 j k := .cons hstep (.nil k)
  rw [Nat.add_comm]
  exact h.append hone

/-- A chain may be cut in two. -/
theorem Chain.split (h : Chain step (m + n) i k) : ∃ j, Chain step m i j ∧ Chain step n j k := by
  induction m generalizing i with
  | zero =>
      rw [Nat.zero_add] at h
      exact ⟨i, .nil i, h⟩
  | succ m ih =>
      rw [Nat.add_right_comm] at h
      obtain ⟨i', hstep, hrest⟩ := chain_succ_iff.1 h
      obtain ⟨j, hfirst, hsecond⟩ := ih hrest
      exact ⟨j, .cons hstep hfirst, hsecond⟩

-- ================================================================ sets of positions

/-- The positions are those of a text. -/
def Within (size : Nat) (s : List Nat) : Prop := ∀ i ∈ s, i ≤ size

/-- A function goes from a set of positions to what a step leads to. -/
structure Follows (size : Nat) (step : Nat → Nat → Prop) (f : List Nat → List Nat) : Prop where
  mem_iff : ∀ s, Within size s → ∀ j, j ∈ f s ↔ ∃ i ∈ s, step i j
  within : ∀ i j, i ≤ size → step i j → j ≤ size

theorem mem_merge_iff {a b : List Nat} : i ∈ merge a b ↔ i ∈ a ∨ i ∈ b := by
  unfold merge
  rw [List.mem_append, List.mem_filter, Bool.not_eq_true', List.contains_eq_mem]
  by_cases h : i ∈ a
  · simp [h]
  · simp [h]

/-- Steps stay within the text. -/
theorem Follows.image_within (h : Follows size step f) (hs : Within size s) :
    Within size (f s) := by
  intro j hj
  obtain ⟨i, hi, hstep⟩ := (h.mem_iff s hs j).1 hj
  exact h.within i j (hs i hi) hstep

/-- What rounds of a fixed number reach is at the end of a chain of that length. -/
theorem mem_iterate_iff (h : Follows size step f) (hs : Within size s) :
    j ∈ iterate f n s ↔ ∃ i ∈ s, Chain step n i j := by
  induction n generalizing s with
  | zero =>
      unfold iterate
      simp only [chain_zero_iff, exists_eq_right]
  | succ n ih =>
      unfold iterate
      split
      next hempty =>
        rw [List.isEmpty_iff] at hempty
        subst hempty
        simp
      next =>
        rw [ih (h.image_within hs)]
        constructor
        · rintro ⟨i', hi', hrest⟩
          obtain ⟨i, hi, hstep⟩ := (h.mem_iff s hs i').1 hi'
          exact ⟨i, hi, .cons hstep hrest⟩
        · rintro ⟨i, hi, hchain⟩
          obtain ⟨i', hstep, hrest⟩ := chain_succ_iff.1 hchain
          exact ⟨i', (h.mem_iff s hs i').2 ⟨i, hi, hstep⟩, hrest⟩

-- ==================================================================== repetition

/-- What `reach` goes by: from what was there before the last round, nothing new comes. -/
structure Frontier (size : Nat) (step : Nat → Nat → Prop) (seen last : List Nat) : Prop where
  within : Within size seen
  lasts : ∀ i ∈ last, i ∈ seen
  old : ∀ i ∈ seen, i ∉ last → ∀ j, step i j → j ∈ seen

/-- What a round adds. -/
def fresh (f : List Nat → List Nat) (seen last : List Nat) : List Nat :=
  (f last).filter fun i => !seen.contains i

theorem mem_fresh_iff : i ∈ fresh f seen last ↔ i ∈ f last ∧ i ∉ seen := by
  unfold fresh
  rw [List.mem_filter, Bool.not_eq_true', List.contains_eq_mem, decide_eq_false_iff_not]

theorem reach_succ : reach f (n + 1) seen last
    = if (fresh f seen last).isEmpty then seen
      else reach f n (merge seen (fresh f seen last)) (fresh f seen last) := rfl

/-- The positions of the last round are within the text. -/
theorem Frontier.last_within (h : Frontier size step seen last) : Within size last :=
  fun i hi => h.within i (h.lasts i hi)

/-- Every step from what has been seen leads to what has been seen or is new now. -/
theorem Frontier.next (h : Frontier size step seen last) (hf : Follows size step f)
    (hi : i ∈ seen) (hstep : step i j) : j ∈ seen ∨ j ∈ fresh f seen last := by
  by_cases hseen : j ∈ seen
  · exact .inl hseen
  · by_cases hlast : i ∈ last
    · exact .inr (mem_fresh_iff.2 ⟨(hf.mem_iff last h.last_within j).2 ⟨i, hlast, hstep⟩, hseen⟩)
    · exact absurd (h.old i hi hlast j hstep) hseen

/-- A round adds what is one step further, and nothing that has been seen. -/
theorem Frontier.round (h : Frontier size step seen last) (hf : Follows size step f) :
    Frontier size step (merge seen (fresh f seen last)) (fresh f seen last) := by
  refine ⟨fun i hi => ?_, fun i hi => mem_merge_iff.2 (.inr hi), fun i hi hlast j hstep => ?_⟩
  · rcases mem_merge_iff.1 hi with hi | hi
    · exact h.within i hi
    · exact hf.image_within h.last_within i (mem_fresh_iff.1 hi).1
  · rcases mem_merge_iff.1 hi with hi | hi
    · exact mem_merge_iff.2 (h.next hf hi hstep)
    · exact absurd hi hlast

/-- Where nothing is new, nothing ever will be. -/
theorem Frontier.closed (h : Frontier size step seen last) (hf : Follows size step f)
    (hnone : (fresh f seen last).isEmpty = true) (hi : i ∈ seen) (hstep : step i j) : j ∈ seen := by
  rw [List.isEmpty_iff] at hnone
  rcases h.next hf hi hstep with hseen | hnew
  · exact hseen
  · rw [hnone] at hnew
    cases hnew

/-- When a round adds nothing, no chain leads out of what has been seen. -/
theorem Frontier.closed_chain (h : Frontier size step seen last) (hf : Follows size step f)
    (hnone : (fresh f seen last).isEmpty = true) (hi : i ∈ seen) (hchain : Chain step n i j) :
    j ∈ seen := by
  induction hchain with
  | nil => exact hi
  | cons hstep _ ih => exact ih (h.closed hf hnone hi hstep)

/-- All that so many rounds can lead to is there in the end, and nothing else. -/
theorem mem_reach_iff (h : Frontier size step seen last) (hf : Follows size step f) :
    j ∈ reach f n seen last ↔ ∃ i ∈ seen, ∃ m ≤ n, Chain step m i j := by
  induction n generalizing seen last with
  | zero =>
      unfold reach
      simp only [Nat.le_zero, exists_eq_left, chain_zero_iff, exists_eq_right]
  | succ n ih =>
      rw [reach_succ]
      split
      next hnone =>
        constructor
        · intro hj
          exact ⟨j, hj, 0, Nat.zero_le _, .nil j⟩
        · rintro ⟨i, hi, m, -, hchain⟩
          exact h.closed_chain hf hnone hi hchain
      next =>
        rw [ih (h.round hf)]
        constructor
        · rintro ⟨i, hi, m, hm, hchain⟩
          rcases mem_merge_iff.1 hi with hi | hi
          · exact ⟨i, hi, m, Nat.le_succ_of_le hm, hchain⟩
          · obtain ⟨i₀, hi₀, hstep⟩ := (hf.mem_iff last h.last_within i).1 (mem_fresh_iff.1 hi).1
            exact ⟨i₀, h.lasts i₀ hi₀, m + 1, Nat.succ_le_succ hm, .cons hstep hchain⟩
        · rintro ⟨i, hi, m, hm, hchain⟩
          cases hchain with
          | nil => exact ⟨j, mem_merge_iff.2 (.inl hi), 0, Nat.zero_le _, .nil j⟩
          | cons hstep hrest =>
              exact ⟨_, mem_merge_iff.2 (h.next hf hi hstep), _, Nat.le_of_succ_le_succ hm, hrest⟩

/-- How many positions have not been seen. -/
def unseen (size : Nat) (seen : List Nat) : Nat :=
  (List.range (size + 1)).countP fun i => !seen.contains i

/-- There are no more unseen positions than positions. -/
theorem unseen_le (size : Nat) (seen : List Nat) : unseen size seen ≤ size + 1 := by
  have hle := List.countP_le_length (p := fun i => !seen.contains i) (l := List.range (size + 1))
  rw [List.length_range] at hle
  exact hle

/-- A new position is one less that has not been seen. -/
theorem unseen_merge_lt (hi : i ≤ size) (hnew : i ∈ s) (hnot : i ∉ seen) :
    unseen size (merge seen s) < unseen size seen := by
  have hmono {l : List Nat} :
      l.countP (fun i => !(merge seen s).contains i) ≤ l.countP fun i => !seen.contains i := by
    refine List.countP_mono_left fun i _ h => ?_
    simp only [Bool.not_eq_true', List.contains_eq_mem, decide_eq_false_iff_not] at h ⊢
    exact fun hseen => h (mem_merge_iff.2 (.inl hseen))
  obtain ⟨before, after, hsplit⟩ := List.append_of_mem (List.mem_range.2 (Nat.lt_succ_of_le hi))
  have hold : (!seen.contains i) = true := by simp [hnot]
  have hgone : ¬ (!(merge seen s).contains i) = true := by simp [mem_merge_iff.2 (.inr hnew)]
  unfold unseen
  rw [hsplit, List.countP_append, List.countP_append, List.countP_cons, List.countP_cons,
    if_neg hgone, if_pos hold]
  have hbefore := hmono (l := before)
  have hafter := hmono (l := after)
  omega

/-- With as many rounds as there are positions still to be seen, nothing is left out. -/
theorem reach_closed (h : Frontier size step seen last) (hf : Follows size step f)
    (hn : unseen size seen ≤ n) (hj : j ∈ reach f n seen last) (hstep : step j k) :
    k ∈ reach f n seen last := by
  induction n generalizing seen last with
  | zero =>
      -- everything has been seen
      unfold reach at hj ⊢
      have hk : k ≤ size := hf.within j k (h.within j hj) hstep
      have hzero := List.countP_eq_zero.1 (Nat.le_zero.1 hn) k
        (List.mem_range.2 (Nat.lt_succ_of_le hk))
      simpa using hzero
  | succ n ih =>
      rw [reach_succ] at hj ⊢
      split at hj
      next hnone =>
        rw [if_pos hnone]
        exact h.closed hf hnone hj hstep
      next hsome =>
        rw [if_neg hsome]
        refine ih (h.round hf) ?_ hj
        obtain ⟨i, hi⟩ := List.exists_mem_of_ne_nil _ (mt List.isEmpty_iff.2 hsome)
        have hmem := mem_fresh_iff.1 hi
        have hlt := unseen_merge_lt (hf.image_within h.last_within i hmem.1) hi hmem.2
        omega

/-- With fuel for every unseen position, the rounds go on until nothing is added. -/
theorem reach_closed_chain (h : Frontier size step seen last) (hf : Follows size step f)
    (hn : unseen size seen ≤ n) (hj : j ∈ reach f n seen last) (hchain : Chain step m j k) :
    k ∈ reach f n seen last := by
  induction hchain with
  | nil => exact hj
  | cons hstep _ ih => exact ih (reach_closed h hf hn hj hstep)

/-- So many rounds as there are positions do for any number of them. -/
theorem mem_reach_all_iff (h : Frontier size step seen last) (hf : Follows size step f) :
    j ∈ reach f (size + 1) seen last ↔ ∃ i ∈ seen, ∃ m, Chain step m i j := by
  constructor
  · intro hj
    obtain ⟨i, hi, m, -, hchain⟩ := (mem_reach_iff h hf).1 hj
    exact ⟨i, hi, m, hchain⟩
  · rintro ⟨i, hi, m, hchain⟩
    have hstart : i ∈ reach f (size + 1) seen last :=
      (mem_reach_iff h hf).2 ⟨i, hi, 0, Nat.zero_le _, .nil i⟩
    exact reach_closed_chain h hf (unseen_le size seen) hstart hchain

/-- More rounds than there are positions reach no more. -/
theorem mem_reach_min_iff (h : Frontier size step seen last) (hf : Follows size step f) :
    j ∈ reach f (Nat.min n (size + 1)) seen last ↔ ∃ i ∈ seen, ∃ m ≤ n, Chain step m i j := by
  by_cases hle : n ≤ size + 1
  · rw [show Nat.min n (size + 1) = n from Nat.min_eq_left hle]
    exact mem_reach_iff h hf
  · rw [show Nat.min n (size + 1) = size + 1 from Nat.min_eq_right (by omega)]
    constructor
    · intro hj
      obtain ⟨i, hi, m, hm, hchain⟩ := (mem_reach_iff h hf).1 hj
      exact ⟨i, hi, m, by omega, hchain⟩
    · rintro ⟨i, hi, m, -, hchain⟩
      exact (mem_reach_all_iff h hf).2 ⟨i, hi, m, hchain⟩

end

-- ====================================================================== expressions

section

variable {text : List Char} {r : Regex} {i j : Nat} {s : List Nat}

/-- A match that starts in the text ends in it. -/
theorem Regex.Spans.le (h : r.Spans text i j) (hi : i ≤ text.length) : j ≤ text.length := by
  induction r generalizing i j with
  | empty =>
      obtain rfl : i = j := h
      exact hi
  | one set =>
      obtain ⟨rfl, c, hc, -⟩ := h
      exact (List.getElem?_eq_some_iff.1 hc).1
  | look cond =>
      obtain ⟨rfl, -⟩ := h
      exact hi
  | seq a b iha ihb =>
      obtain ⟨k, ha, hb⟩ := h
      exact ihb hb (iha ha hi)
  | alt a b iha ihb =>
      rcases h with ha | hb
      · exact iha ha hi
      · exact ihb hb hi
  | rep r min max ih =>
      obtain ⟨n, -, -, hchain⟩ := h
      induction hchain with
      | nil => exact hi
      | cons hstep _ ihchain => exact ihchain (ih hstep hi)

/-- What is left of a repetition after its minimum. -/
theorem spans_rep_iff {min : Nat} {max : Option Nat} :
    (Regex.rep r min max).Spans text i j ↔
      (∀ m, max = some m → min ≤ m)
        ∧ ∃ k, Chain (r.Spans text) min i k
          ∧ ∃ n, (∀ m, max = some m → n ≤ m - min) ∧ Chain (r.Spans text) n k j := by
  constructor
  · rintro ⟨n, hmin, hmax, hchain⟩
    obtain ⟨n, rfl⟩ := Nat.exists_eq_add_of_le hmin
    obtain ⟨k, hfirst, hrest⟩ := Chain.split hchain
    refine ⟨fun m hm => ?_, k, hfirst, n, fun m hm => ?_, hrest⟩
    · have hle := hmax m hm
      omega
    · have hle := hmax m hm
      omega
  · rintro ⟨hmin, k, hfirst, n, hmax, hrest⟩
    refine ⟨n + min, Nat.le_add_left _ _, fun m hm => ?_, hfirst.append hrest⟩
    have hle := hmin m hm
    have hle' := hmax m hm
    omega

/-- Where a repetition is bounded, its maximum is no less than its minimum. -/
def Regex.Bounded : Regex → Prop
  | .empty | .one _ | .look _ => True
  | .seq a b | .alt a b => a.Bounded ∧ b.Bounded
  | .rep r min max => r.Bounded ∧ ∀ m, max = some m → min ≤ m

/-- Before the first round, the start has been seen and nothing else. -/
theorem frontier_start (hs : Within text.length s) (step : Nat → Nat → Prop) :
    Frontier text.length step s.eraseDups s.eraseDups := by
  refine ⟨fun i hi => hs i (List.mem_eraseDups.1 hi), fun i hi => hi, fun i hi hnot => ?_⟩
  exact absurd hi hnot

/-- The positions that are computed for an expression are those where a match can end. -/
def Computed (text : List Char) (r : Regex) : Prop :=
  Follows text.length (r.Spans text) (r.ends text)

/-- Matches never go back, so an expression is computed if its ends are theirs. -/
theorem computed_of_mem_iff
    (h : ∀ s, Within text.length s → ∀ j, j ∈ r.ends text s ↔ ∃ i ∈ s, r.Spans text i j) :
    Computed text r := ⟨h, fun _ _ hi hspans => hspans.le hi⟩

/-- One character of a set. -/
theorem computed_one (set : CharSet) : Computed text (.one set) := by
  refine computed_of_mem_iff fun s _ j => ?_
  unfold Regex.ends
  rw [List.mem_filterMap]
  refine exists_congr fun i => and_congr_right fun hi => ?_
  show _ ↔ j = i + 1 ∧ ∃ c, text[i]? = some c ∧ set.mem c = true
  cases text[i]? with
  | none =>
      refine iff_of_false nofun fun h => ?_
      obtain ⟨-, c, hc, -⟩ := h
      cases hc
  | some c =>
      dsimp only
      rw [Option.ite_none_right_eq_some, Option.some.injEq, and_comm, eq_comm]
      refine and_congr_right fun _ => ⟨fun hmem => ⟨c, rfl, hmem⟩, ?_⟩
      rintro ⟨c', hc', hmem⟩
      cases hc'
      exact hmem

/-- A condition takes no character. -/
theorem computed_look (cond : Look) : Computed text (.look cond) := by
  refine computed_of_mem_iff fun s _ j => ?_
  show j ∈ s.filter (cond.holds text) ↔ ∃ i ∈ s, i = j ∧ cond.holds text i = true
  rw [List.mem_filter]
  constructor
  · rintro ⟨hj, hholds⟩
    exact ⟨j, hj, rfl, hholds⟩
  · rintro ⟨i, hi, rfl, hholds⟩
    exact ⟨hi, hholds⟩

/-- One pattern after another. -/
theorem Computed.seq {a b : Regex} (ha : Computed text a) (hb : Computed text b) :
    Computed text (.seq a b) := by
  refine computed_of_mem_iff fun s hs j => ?_
  have hmiddle : Within text.length (a.ends text s) := ha.image_within hs
  have hends : j ∈ (Regex.seq a b).ends text s ↔ j ∈ b.ends text (a.ends text s) := by
    show j ∈ (if (a.ends text s).isEmpty then [] else b.ends text (a.ends text s)) ↔ _
    split
    next hempty =>
      rw [List.isEmpty_iff] at hempty
      rw [hempty] at hmiddle ⊢
      rw [hb.mem_iff [] hmiddle j]
      simp
    next => rfl
  rw [hends, hb.mem_iff _ hmiddle j]
  constructor
  · rintro ⟨k, hk, hspans⟩
    obtain ⟨i, hi, hfirst⟩ := (ha.mem_iff s hs k).1 hk
    exact ⟨i, hi, k, hfirst, hspans⟩
  · rintro ⟨i, hi, k, hfirst, hspans⟩
    exact ⟨k, (ha.mem_iff s hs k).2 ⟨i, hi, hfirst⟩, hspans⟩

/-- One pattern or another. -/
theorem Computed.alt {a b : Regex} (ha : Computed text a) (hb : Computed text b) :
    Computed text (.alt a b) := by
  refine computed_of_mem_iff fun s hs j => ?_
  show j ∈ merge (a.ends text s) (b.ends text s) ↔ ∃ i ∈ s, a.Spans text i j ∨ b.Spans text i j
  rw [mem_merge_iff, ha.mem_iff s hs j, hb.mem_iff s hs j]
  simp only [and_or_left, exists_or]

/-- A repetition goes on from where its minimum of rounds has come to. -/
theorem Computed.rep (hr : Computed text r) {min : Nat} {max : Option Nat}
    (hbounds : ∀ m, max = some m → min ≤ m) : Computed text (.rep r min max) := by
  refine computed_of_mem_iff fun s hs j => ?_
  have hstart : Within text.length (iterate (r.ends text) min s) := by
    intro k hk
    obtain ⟨i, hi, hchain⟩ := (mem_iterate_iff hr hs).1 hk
    have hrep : (Regex.rep r min (some min)).Spans text i k :=
      ⟨min, Nat.le_refl _, fun m hm => Nat.le_of_eq (Option.some.inj hm), hchain⟩
    exact hrep.le (hs i hi)
  have hfrontier := frontier_start hstart (r.Spans text)
  have hends : j ∈ (Regex.rep r min max).ends text s
      ↔ ∃ k ∈ (iterate (r.ends text) min s).eraseDups,
        ∃ n, (∀ m, max = some m → n ≤ m - min) ∧ Chain (r.Spans text) n k j := by
    cases max with
    | none =>
        refine (mem_reach_all_iff hfrontier hr).trans ?_
        simp
    | some m =>
        refine (mem_reach_min_iff hfrontier hr).trans ?_
        simp
  rw [hends]
  simp only [List.mem_eraseDups, mem_iterate_iff hr hs, spans_rep_iff]
  constructor
  · rintro ⟨k, ⟨i, hi, hfirst⟩, hrest⟩
    exact ⟨i, hi, hbounds, k, hfirst, hrest⟩
  · rintro ⟨i, hi, -, k, hfirst, hrest⟩
    exact ⟨k, ⟨i, hi, hfirst⟩, hrest⟩

/-- One case for each way to put an expression together. -/
theorem computed_of_bounded (h : r.Bounded) : Computed text r := by
  induction r with
  | empty =>
      refine computed_of_mem_iff fun s _ j => ?_
      show j ∈ s ↔ ∃ i ∈ s, i = j
      rw [exists_eq_right]
  | one set => exact computed_one set
  | look cond => exact computed_look cond
  | seq a b iha ihb => exact (iha h.1).seq (ihb h.2)
  | alt a b iha ihb => exact (iha h.1).alt (ihb h.2)
  | rep r min max ih => exact (ih h.1).rep h.2

/-- There is a match if one is found. -/
theorem occurs_iff (h : r.Bounded) : r.occurs text = true ↔ r.Occurs text := by
  have hall : Within text.length (List.range (text.length + 1)) :=
    fun i hi => Nat.le_of_lt_succ (List.mem_range.1 hi)
  have hcomputed : Computed text r := computed_of_bounded h
  unfold Regex.occurs Regex.Occurs
  rw [Bool.not_eq_true', ← Bool.not_eq_true, List.isEmpty_iff]
  constructor
  · intro hsome
    obtain ⟨j, hj⟩ := List.exists_mem_of_ne_nil _ hsome
    obtain ⟨i, hi, hspans⟩ := (hcomputed.mem_iff _ hall j).1 hj
    exact ⟨i, j, hall i hi, hspans⟩
  · rintro ⟨i, j, hi, hspans⟩ hnone
    have hj : j ∈ r.ends text (List.range (text.length + 1)) :=
      (hcomputed.mem_iff _ hall j).2 ⟨i, List.mem_range.2 (Nat.lt_succ_of_le hi), hspans⟩
    rw [hnone] at hj
    cases hj

/-- An expression that must begin and end with the text. -/
def Regex.whole (r : Regex) : Regex := .seq (.look .startText) (.seq r (.look .endText))

/-- A pattern that must match as a whole occurs exactly if it spans the text. -/
theorem occurs_whole_iff (h : r.Bounded) :
    r.whole.occurs text = true ↔ r.Spans text 0 text.length := by
  have hbounded : r.whole.Bounded := ⟨trivial, h, trivial⟩
  rw [occurs_iff hbounded]
  constructor
  · rintro ⟨i, j, -, k, ⟨rfl, hstart⟩, l, hspans, rfl, hend⟩
    have hi : i = 0 := beq_iff_eq.1 hstart
    have hl : l = text.length := beq_iff_eq.1 hend
    rw [hi, hl] at hspans
    exact hspans
  · intro hspans
    have hend : Look.endText.holds text text.length = true := beq_self_eq_true text.length
    exact ⟨0, text.length, Nat.zero_le _, 0, ⟨rfl, rfl⟩, text.length, hspans, rfl, hend⟩

end

end CheckGateway.Pattern
