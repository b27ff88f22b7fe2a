import PropertyTemplates.Proofs.Configuration.Inspection
import PropertyTemplates.Proofs.Configuration.Selection

namespace PropertyTemplates

section FirstBest

variable {α : Type} {rank : α → Option Nat} {x best : α} {xs ys : List α} {r : Nat}

theorem firstBest_cons_of_none (h : rank x = none) :
    firstBest rank (x :: xs) = firstBest rank xs := by
  rw [firstBest]
  simp only [h]

-- An element gives way only to one of a greater rank after it.
theorem firstBest_cons_of_le (h : rank x = some r)
    (hle : ∀ later, firstBest rank xs = some later → ∀ k, rank later = some k → k ≤ r) :
    firstBest rank (x :: xs) = some x := by
  rw [firstBest]
  simp only [h]
  cases hxs : firstBest rank xs with
  | none => rfl
  | some later =>
      have hnot : ¬(rank later).any (r < ·) = true := by
        rw [Option.any_eq_true]
        rintro ⟨k, hk, hlt⟩
        exact absurd (hle later hxs k hk) (by simpa using hlt)
      exact if_neg hnot

theorem firstBest_cons_of_lt {later : α} {k : Nat} (h : rank x = some r)
    (hxs : firstBest rank xs = some later) (hk : rank later = some k) (hlt : r < k) :
    firstBest rank (x :: xs) = some later := by
  rw [firstBest]
  simp [h, hxs, hk, hlt]

theorem firstBest_append_cons {before after : List α} (hbest : rank best = some r)
    (hbefore : ∀ x ∈ before, ∀ k, rank x = some k → k < r)
    (hafter : ∀ x ∈ after, ∀ k, rank x = some k → k ≤ r) :
    firstBest rank (before ++ best :: after) = some best := by
  induction before with
  | nil =>
      apply firstBest_cons_of_le hbest
      intro later hlater
      exact hafter later (mem_of_firstBest hlater)
  | cons x before ih =>
      obtain ⟨hx, hrest⟩ := List.forall_mem_cons.mp hbefore
      cases hr : rank x with
      | none => rw [List.cons_append, firstBest_cons_of_none hr, ih hrest]
      | some q => exact firstBest_cons_of_lt hr (ih hrest) hbest (hx q hr)

theorem exists_split_of_firstBest (h : firstBest rank xs = some best) :
    ∃ before after r, xs = before ++ best :: after ∧ rank best = some r ∧
      (∀ x ∈ before, ∀ k, rank x = some k → k < r) ∧
        ∀ x ∈ after, ∀ k, rank x = some k → k ≤ r := by
  induction xs generalizing best with
  | nil => cases h
  | cons x xs ih =>
      cases hx : rank x with
      | none =>
          rw [firstBest_cons_of_none hx] at h
          obtain ⟨before, after, r, rfl, hbest, hbefore, hafter⟩ := ih h
          refine ⟨x :: before, after, r, rfl, hbest, ?_, hafter⟩
          exact List.forall_mem_cons.mpr ⟨by simp [hx], hbefore⟩
      | some q =>
          cases hxs : firstBest rank xs with
          | none =>
              have hnone := firstBest_eq_none.mp hxs
              rw [firstBest_cons_of_le hx (by simp [hxs])] at h
              cases h
              refine ⟨[], xs, q, rfl, hx, by simp, fun y hy => ?_⟩
              simp [hnone y hy]
          | some later =>
              obtain ⟨before, after, r, rfl, hlater, hbefore, hafter⟩ := ih hxs
              rcases Nat.lt_or_ge q r with hlt | hge
              · rw [firstBest_cons_of_lt hx hxs hlater hlt] at h
                cases h
                refine ⟨x :: before, after, r, rfl, hlater, ?_, hafter⟩
                exact List.forall_mem_cons.mpr ⟨by simp [hx, hlt], hbefore⟩
              · rw [firstBest_cons_of_le hx (by simp [hxs, hlater, hge])] at h
                cases h
                refine ⟨[], _, q, rfl, hx, by simp, fun y hy k hk => ?_⟩
                rcases List.mem_append.mp hy with hy | hy
                · exact Nat.le_trans (Nat.le_of_lt (hbefore y hy k hk)) hge
                · rcases List.mem_cons.mp hy with rfl | hy
                  · rw [hlater] at hk
                    cases hk
                    exact hge
                  · exact Nat.le_trans (hafter y hy k hk) hge

-- The choice is where the greatest rank first comes up.
theorem firstBest_eq_some_iff :
    firstBest rank xs = some best ↔
      ∃ before after r, xs = before ++ best :: after ∧ rank best = some r ∧
        (∀ x ∈ xs, ∀ k, rank x = some k → k ≤ r) ∧ ∀ x ∈ before, rank x ≠ some r := by
  constructor
  · intro h
    obtain ⟨before, after, r, rfl, hbest, hbefore, hafter⟩ := exists_split_of_firstBest h
    refine ⟨before, after, r, rfl, hbest, ?_, ?_⟩
    · intro x hx k hk
      rcases List.mem_append.mp hx with hx | hx
      · exact Nat.le_of_lt (hbefore x hx k hk)
      · rcases List.mem_cons.mp hx with rfl | hx
        · rw [hbest] at hk
          cases hk
          exact Nat.le_refl r
        · exact hafter x hx k hk
    · intro x hx hr
      exact Nat.lt_irrefl r (hbefore x hx r hr)
  · rintro ⟨before, after, r, rfl, hbest, hle, hne⟩
    apply firstBest_append_cons hbest
    · intro x hx k hk
      refine Nat.lt_of_le_of_ne (hle x (by simp [hx]) k hk) ?_
      rintro rfl
      exact hne x hx hk
    · intro x hx
      exact hle x (by simp [hx])

-- The choice is the same among all lists with the same elements of each rank, in the same order.
theorem firstBest_of_filter
    (h : ∀ r, xs.filter (rank · == some r) = ys.filter (rank · == some r))
    (hxs : firstBest rank xs = some best) : firstBest rank ys = some best := by
  obtain ⟨before, after, r, rfl, hbest, hle, hne⟩ := firstBest_eq_some_iff.mp hxs
  have hfirst : (before ++ best :: after).filter (rank · == some r) =
      best :: after.filter (rank · == some r) := by
    have hnone : before.filter (rank · == some r) = [] := by
      rw [List.filter_eq_nil_iff]
      intro x hx
      simpa using hne x hx
    rw [List.filter_append, hnone, List.nil_append, List.filter_cons_of_pos (by simp [hbest])]
  rw [h r] at hfirst
  obtain ⟨before', after', rfl, hne', -, -⟩ := List.filter_eq_cons_iff.mp hfirst
  refine firstBest_eq_some_iff.mpr ⟨before', after', r, rfl, hbest, ?_, by simpa using hne'⟩
  intro y hy k hk
  have hmem : y ∈ (before' ++ best :: after').filter (rank · == some k) :=
    List.mem_filter.mpr ⟨hy, by simp [hk]⟩
  rw [← h k] at hmem
  exact hle y (List.mem_filter.mp hmem).1 k hk

theorem firstBest_congr
    (h : ∀ r, xs.filter (rank · == some r) = ys.filter (rank · == some r)) :
    firstBest rank xs = firstBest rank ys :=
  Option.ext fun _ => ⟨firstBest_of_filter h, firstBest_of_filter fun r => (h r).symm⟩

end FirstBest

namespace Section

variable {project step : String} {s t like : Section} {r : Nat}

-- The lists of a section have the project and the step, or stand for all of them.
def Applies (s : Section) (project step : String) : Prop :=
  (project ∈ s.projects ∨ wildcard ∈ s.projects) ∧ (step ∈ s.steps ∨ wildcard ∈ s.steps)

instance : Decidable (s.Applies project step) := inferInstanceAs (Decidable (_ ∧ _))

-- What names the project comes before what does not, and of two that are alike in this, what names
-- the step.
def MoreSpecific (project step : String) (s t : Section) : Prop :=
  (project ∈ s.projects ∧ project ∉ t.projects) ∨
    ((project ∈ s.projects ↔ project ∈ t.projects) ∧ step ∈ s.steps ∧ step ∉ t.steps)

def EquallySpecific (project step : String) (s t : Section) : Prop :=
  (project ∈ s.projects ↔ project ∈ t.projects) ∧ (step ∈ s.steps ↔ step ∈ t.steps)

instance : Decidable (EquallySpecific project step s t) := inferInstanceAs (Decidable (_ ∧ _))

-- The rank of a section that applies.
def score (s : Section) (project step : String) : Nat :=
  (if project ∈ s.projects then 2 else 0) + if step ∈ s.steps then 1 else 0

theorem applies_iff : s.applies project step = true ↔ s.Applies project step := by
  simp [applies, Applies]

theorem rank_eq_some_iff :
    s.rank project step = some r ↔ s.Applies project step ∧ s.score project step = r := by
  simp only [rank, applies_iff, List.contains_iff_mem]
  split <;> simp_all [score]

theorem isSome_rank_iff : (s.rank project step).isSome ↔ s.Applies project step := by
  simp [Option.isSome_iff_exists, rank_eq_some_iff]

theorem score_lt_score_iff :
    t.score project step < s.score project step ↔ MoreSpecific project step s t := by
  unfold score MoreSpecific
  split <;> split <;> split <;> split <;> simp_all

theorem score_eq_score_iff :
    s.score project step = t.score project step ↔ EquallySpecific project step s t := by
  unfold score EquallySpecific
  split <;> split <;> split <;> split <;> simp_all

end Section

namespace Configuration

open Section

variable {project step : String} {sections others : List Section} {s : Section}

-- A section that applies; none that applies is more specific, and none before it is as specific.
def IsChosen (project step : String) (sections : List Section) (s : Section) : Prop :=
  ∃ before after, sections = before ++ s :: after ∧ s.Applies project step ∧
    (∀ t ∈ sections, t.Applies project step → ¬MoreSpecific project step t s) ∧
      ∀ t ∈ before, t.Applies project step → ¬EquallySpecific project step t s

-- Those sections that apply and are as specific as a given one.
def peers (project step : String) (like : Section) (sections : List Section) : List Section :=
  sections.filter fun t => t.Applies project step ∧ EquallySpecific project step t like

-- The same sections apply, and equally specific ones come in the same order. What does not apply
-- may come and go.
def Rearranged (project step : String) (sections others : List Section) : Prop :=
  ∀ like, peers project step like sections = peers project step like others

theorem rearranged_remove {before after : List Section} (h : ¬s.Applies project step) :
    Rearranged project step (before ++ s :: after) (before ++ after) := by
  intro like
  simp [peers, h]

theorem rearranged_swap {before after : List Section} {t : Section}
    (h : s.Applies project step → t.Applies project step → ¬EquallySpecific project step s t) :
    Rearranged project step (before ++ s :: t :: after) (before ++ t :: s :: after) := by
  intro like
  simp only [peers, List.filter_append, List.filter_cons, decide_eq_true_eq]
  by_cases hs : s.Applies project step ∧ EquallySpecific project step s like
  · have ht : ¬(t.Applies project step ∧ EquallySpecific project step t like) := by
      rintro ⟨happlies, hproject, hstep⟩
      exact h hs.1 happlies ⟨hs.2.1.trans hproject.symm, hs.2.2.trans hstep.symm⟩
    rw [if_pos hs, if_neg ht, if_pos hs, if_neg ht]
  · rw [if_neg hs, if_neg hs]

theorem firstBest_rank_iff :
    firstBest (·.rank project step) sections = some s ↔ IsChosen project step sections s := by
  rw [firstBest_eq_some_iff]
  constructor
  · rintro ⟨before, after, r, he, hs, hle, hne⟩
    obtain ⟨happlies, rfl⟩ := rank_eq_some_iff.mp hs
    refine ⟨before, after, he, happlies, ?_, ?_⟩
    · intro t ht htapplies hmore
      have hscore := hle t ht _ (rank_eq_some_iff.mpr ⟨htapplies, rfl⟩)
      exact Nat.not_lt.mpr hscore (score_lt_score_iff.mpr hmore)
    · intro t ht htapplies hequal
      exact hne t ht (rank_eq_some_iff.mpr ⟨htapplies, score_eq_score_iff.mpr hequal⟩)
  · rintro ⟨before, after, he, happlies, hmore, hequal⟩
    refine ⟨before, after, _, he, rank_eq_some_iff.mpr ⟨happlies, rfl⟩, ?_, ?_⟩
    · intro t ht k hk
      obtain ⟨htapplies, rfl⟩ := rank_eq_some_iff.mp hk
      exact Nat.not_lt.mp (mt score_lt_score_iff.mp (hmore t ht htapplies))
    · intro t ht hk
      obtain ⟨htapplies, hscore⟩ := rank_eq_some_iff.mp hk
      exact hequal t ht htapplies (score_eq_score_iff.mp hscore)

-- Sections of a rank are the peers of any one of them.
theorem filter_rank_eq_peers {like : Section} {r : Nat} (h : like.rank project step = some r)
    (sections : List Section) :
    sections.filter (·.rank project step == some r) = peers project step like sections := by
  obtain ⟨-, rfl⟩ := rank_eq_some_iff.mp h
  apply List.filter_congr
  intro t _
  rw [Bool.eq_iff_iff, beq_iff_eq, rank_eq_some_iff, score_eq_score_iff, decide_eq_true_iff]

theorem Rearranged.filter_rank (h : Rearranged project step sections others) (r : Nat) :
    sections.filter (·.rank project step == some r) =
      others.filter (·.rank project step == some r) := by
  by_cases hlike : ∃ like : Section, like.rank project step = some r
  · obtain ⟨like, hlike⟩ := hlike
    rw [filter_rank_eq_peers hlike, filter_rank_eq_peers hlike, h like]
  · have hnone : ∀ t : Section, ¬(t.rank project step == some r) = true := by
      intro t ht
      exact hlike ⟨t, by simpa using ht⟩
    have hnil : ∀ sections : List Section,
        sections.filter (·.rank project step == some r) = [] :=
      fun _ => List.filter_eq_nil_iff.mpr fun t _ => hnone t
    rw [hnil, hnil]

theorem sectionFor_eq_ok_iff {c : Configuration} :
    c.sectionFor project step = .ok s ↔ IsChosen project step c.sections s := by
  rw [← firstBest_rank_iff, sectionFor]
  cases firstBest (·.rank project step) c.sections <;> simp

theorem sectionFor_eq_error_iff {c : Configuration} {e : ConfigurationError} :
    c.sectionFor project step = .error e ↔
      (∀ s ∈ c.sections, ¬s.Applies project step) ∧ e = .noMatchingSection project step := by
  have hnone : firstBest (·.rank project step) c.sections = none ↔
      ∀ s ∈ c.sections, ¬s.Applies project step := by
    simp only [firstBest_eq_none, rank_eq_none, ← applies_iff, Bool.not_eq_true]
  rw [← hnone, sectionFor]
  cases firstBest (·.rank project step) c.sections <;> simp [eq_comm]

theorem Rearranged.sectionFor_eq (h : Rearranged project step sections others) :
    sectionFor ⟨sections⟩ project step = sectionFor ⟨others⟩ project step := by
  unfold sectionFor
  rw [firstBest_congr h.filter_rank]

-- How a configuration finds the section for a project and a step.
structure FindsMostSpecific (c : Configuration) (project step : String) : Prop where
  applies : ∀ s : Section, (s.rank project step).isSome ↔ s.Applies project step
  chosen : ∀ s, c.sectionFor project step = .ok s ↔ IsChosen project step c.sections s
  refused : ∀ e, c.sectionFor project step = .error e ↔
    (∀ s ∈ c.sections, ¬s.Applies project step) ∧ e = .noMatchingSection project step
  -- A section that does not apply can be taken out, or put in.
  removed : ∀ before s after, c.sections = before ++ s :: after → ¬s.Applies project step →
    sectionFor ⟨before ++ after⟩ project step = c.sectionFor project step
  -- Neighbours can change places unless both apply and are equally specific.
  swapped : ∀ before s t after, c.sections = before ++ s :: t :: after →
    (s.Applies project step → t.Applies project step → ¬EquallySpecific project step s t) →
      sectionFor ⟨before ++ t :: s :: after⟩ project step = c.sectionFor project step
  rearranged : ∀ others, Rearranged project step c.sections others →
    sectionFor ⟨others⟩ project step = c.sectionFor project step

-- The first of the most specific sections is found, and only the sections that apply, in the order
-- of those that are equally specific, matter for it.
theorem sectionFor_mostSpecific (c : Configuration) (project step : String) :
    c.FindsMostSpecific project step where
  applies := fun _ => isSome_rank_iff
  chosen := fun _ => sectionFor_eq_ok_iff
  refused := fun _ => sectionFor_eq_error_iff
  removed := by
    intro before s after he hs
    obtain ⟨sections⟩ := c
    cases he
    exact (rearranged_remove hs).sectionFor_eq.symm
  swapped := by
    intro before s t after he hne
    obtain ⟨sections⟩ := c
    cases he
    exact (rearranged_swap hne).sectionFor_eq.symm
  rearranged := fun _ h => h.sectionFor_eq.symm

-- Asked for, the wildcard is a name like any other.
example :
    sectionFor ⟨[⟨["Archive"], ["Scan"], []⟩, ⟨["*"], ["*"], []⟩, ⟨["*"], ["Scan", "*"], []⟩,
      ⟨["*"], ["Scan"], []⟩]⟩ "*" "Scan" = .ok ⟨["*"], ["Scan", "*"], []⟩ := by
  decide

end Configuration

end PropertyTemplates
