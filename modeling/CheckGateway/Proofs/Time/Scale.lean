/-
Readings of a clock on one scale.

The span between two timestamps counts a leap second if one of the two ends is
in it, and no other. So spans do not add up: from before a leap second to after
it may be a second less than the two parts. What a clock does over a longer
time is said on a scale of nanoseconds that counts every leap second that the
clock shows. `leaps` are these, each by the second that it follows; a clock
without leap seconds has none. The span between two readings is never longer
than their distance on the scale.
-/
import CheckGateway.Time.Timestamp
import Mathlib.Data.Finset.Card

namespace CheckGateway.Timestamp

variable {leaps : Finset Int} {a b c : Timestamp}

/-- The clock may show this: a time within a second, or within one of its leap
seconds. -/
def Shown (leaps : Finset Int) (t : Timestamp) : Prop :=
  t.nanos < perSecond ∨ t.seconds ∈ leaps ∧ t.nanos < 2 * perSecond

/-- Nanoseconds on the scale of a clock. -/
def onScale (leaps : Finset Int) (t : Timestamp) : Int :=
  (t.seconds + (leaps.filter (· < t.seconds)).card) * perSecond + t.nanos

/-- Leap seconds before an earlier second are before a later one. -/
theorem leaps_le_of_le {s s' : Int} (h : s ≤ s') :
    (leaps.filter (· < s)).card ≤ (leaps.filter (· < s')).card := by
  apply Finset.card_le_card
  intro l hl
  simp only [Finset.mem_filter] at hl ⊢
  exact ⟨hl.1, by omega⟩

/-- A leap second comes on top of those before it. -/
theorem leaps_lt_of_mem {s s' : Int} (hs : s ∈ leaps) (h : s < s') :
    (leaps.filter (· < s)).card < (leaps.filter (· < s')).card := by
  apply Finset.card_lt_card
  rw [Finset.ssubset_iff_of_subset]
  · exact ⟨s, by simp [hs, h], by simp⟩
  · intro l hl
    simp only [Finset.mem_filter] at hl ⊢
    exact ⟨hl.1, by omega⟩

theorem le_iff : a ≤ b ↔ a.seconds < b.seconds ∨ a.seconds = b.seconds ∧ a.nanos ≤ b.nanos := by
  change ¬ b < a ↔ _
  rw [lt_iff]
  omega

theorem le_refl (a : Timestamp) : a ≤ a := lt_irrefl a

theorem le_trans (hab : a ≤ b) (hbc : b ≤ c) : a ≤ c := by
  rw [le_iff] at *
  omega

theorem le_antisymm (hab : a ≤ b) (hba : b ≤ a) : a = b := by
  rw [le_iff] at hab hba
  have hseconds : a.seconds = b.seconds := by omega
  have hnanos : a.nanos = b.nanos := by omega
  cases a
  cases b
  rw [mk.injEq]
  exact ⟨hseconds, hnanos⟩

/-- The scale goes up with the clock. -/
theorem onScale_mono (hshown : Shown leaps a) (h : a ≤ b) : onScale leaps a ≤ onScale leaps b := by
  obtain hlt | ⟨heq, hnanos⟩ := le_iff.1 h
  · have hleaps : (leaps.filter (· < a.seconds)).card ≤ (leaps.filter (· < b.seconds)).card :=
      leaps_le_of_le (Int.le_of_lt hlt)
    unfold onScale
    obtain hwithin | ⟨hleap, hwithin⟩ := hshown
    · simp only [perSecond] at *
      omega
    · have hone := leaps_lt_of_mem hleap hlt
      simp only [perSecond] at *
      omega
  · unfold onScale
    rw [heq]
    omega

/-- The span between two readings counts no more than the scale does. -/
theorem nanosBetween_le_onScale (hshown : Shown leaps a) (h : a ≤ b) :
    nanosBetween a b ≤ onScale leaps b - onScale leaps a := by
  unfold nanosBetween onScale
  obtain hlt | ⟨heq, -⟩ := le_iff.1 h
  · have hleaps : (leaps.filter (· < a.seconds)).card ≤ (leaps.filter (· < b.seconds)).card :=
      leaps_le_of_le (Int.le_of_lt hlt)
    dsimp only
    split
    · -- the earlier reading is in a leap second, which the scale counts too
      next hleap =>
        obtain hwithin | ⟨hmem, -⟩ := hshown
        · omega
        · have hone := leaps_lt_of_mem hmem hlt
          simp only [perSecond] at *
          omega
    · split <;> simp only [perSecond] <;> omega
  · simp only [heq, Int.lt_irrefl, false_and, if_false, Int.sub_self, Int.zero_add, Int.zero_mul]
    omega

end CheckGateway.Timestamp
