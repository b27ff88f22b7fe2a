import PropertyTemplates.Pattern.Replace
import Mathlib.Data.List.TakeWhile

namespace PropertyTemplates.Pattern

-- As many characters of a set as there are.
def Expr.star (set : CharSet) : Expr := .repeat (.char set) 0 none true

-- What is left to do where a search for characters of a set can stop: all of it, or what comes
-- after a turn that has read a character.
inductive Task.IsStar (set : CharSet) : Task → Prop where
  | first : IsStar set (.run (.star set))
  | later : IsStar set (.again (.char set) true true)

variable {set : CharSet} {t : Task}

-- One more turn is preferred to none, so the thread that waits for a character is ahead of the
-- one that is complete.
theorem Task.IsStar.ofThreads (h : t.IsStar set) (place : Place) :
    ∃ met, Frontier.ofThreads place [⟨[t], []⟩] =
      ⟨met, [(set, ⟨[.again (.char set) true false], []⟩)], some []⟩ := by
  cases h with
  | first =>
      simp [Expr.star, Frontier.ofThreads, Frontier.follow, Task.ways, Task.turns, Task.prefer,
        Task.edge?, List.attach, List.attachWith]
  | later =>
      simp [Frontier.ofThreads, Frontier.follow, Task.ways, Task.prefer, Task.edge?, List.attach,
        List.attachWith]

-- The search reads on as long as characters of the set follow, and each place that it comes to
-- completes a longer match.
theorem Task.IsStar.search (h : t.IsStar set) (found : Option Match) (before : Option Char)
    (offset : Nat) (cs : List Char) :
    Pattern.search found before offset [⟨[t], []⟩] cs =
      some ⟨offset + (cs.takeWhile set.contains).length, []⟩ := by
  induction cs generalizing t found before offset with
  | nil =>
      obtain ⟨met, hfrontier⟩ := h.ofThreads ⟨before, none, offset⟩
      simp [Pattern.search, hfrontier]
  | cons c cs ih =>
      obtain ⟨met, hfrontier⟩ := h.ofThreads ⟨before, some c, offset⟩
      by_cases hc : set.contains c = true
      · have hsearch := ih .later (some ⟨offset, []⟩) (some c) (offset + 1)
        have hlength : offset + 1 + (cs.takeWhile set.contains).length =
            offset + ((c :: cs).takeWhile set.contains).length := by
          rw [List.takeWhile_cons_of_pos hc, List.length_cons]
          omega
        rw [hlength] at hsearch
        simpa [Pattern.search, hfrontier, Frontier.read, hc, Task.advance] using hsearch
      · simp [Pattern.search, hfrontier, Frontier.read, hc]

theorem matchAt_star (set : CharSet) (before : Option Char) (cs : List Char) :
    matchAt ⟨.star set⟩ before cs = some ⟨(cs.takeWhile set.contains).length, []⟩ := by
  have hstar : (Task.run (.star set)).IsStar set := .first
  have hsearch := hstar.search none before 0 cs
  rwa [Nat.zero_add] at hsearch

-- What a text becomes from its first character outside of the set on: each such character stays,
-- and what is put for the run after it follows.
def betweenRuns (set : CharSet) (put cs : List Char) : List Char :=
  (cs.filter fun c => !set.contains c).flatMap fun c => c :: put

variable {put : List Char} {c : Char}

theorem betweenRuns_eq_nil_iff {cs : List Char} :
    betweenRuns set put cs = [] ↔ ∀ c ∈ cs, set.contains c = true := by
  simp [betweenRuns]

theorem betweenRuns_cons_of_not_contains (h : ¬set.contains c = true) (cs : List Char) :
    betweenRuns set put (c :: cs) = c :: (put ++ betweenRuns set put cs) := by
  simp [betweenRuns, h]

-- A run in front of a text does not show.
theorem betweenRuns_dropWhile (cs : List Char) :
    betweenRuns set put (cs.dropWhile set.contains) = betweenRuns set put cs := by
  induction cs with
  | nil => rfl
  | cons c cs ih =>
      by_cases hc : set.contains c = true
      · rw [List.dropWhile_cons_of_pos hc, ih]
        simp [betweenRuns, hc]
      · rw [List.dropWhile_cons_of_neg hc]

-- Behind a match the run in front is over, and the empty match there does not count.
theorem replaceFrom_star (before : Option Char) (afterMatch : Bool) (cs : List Char)
    (hover : afterMatch = true → ∀ c ∈ cs.head?, ¬set.contains c = true) :
    replaceFrom ⟨.star set⟩ (fun _ _ => put) before afterMatch cs =
      (if afterMatch then [] else put) ++ betweenRuns set put cs := by
  induction hn : cs.length using Nat.strongRecOn generalizing cs before afterMatch with
  | ind n ih =>
      cases cs with
      | nil =>
          unfold replaceFrom
          simp [matchAt_star, betweenRuns]
      | cons c cs =>
          have hmatch := matchAt_star set before (c :: cs)
          by_cases hc : set.contains c = true
          · have hfirst : afterMatch = false := by
              cases afterMatch with
              | false => rfl
              | true => exact absurd hc (hover rfl c rfl)
            have hsplit := List.takeWhile_append_dropWhile (p := set.contains) (l := cs)
            have hrest : cs.drop (cs.takeWhile set.contains).length = cs.dropWhile set.contains :=
              (congrArg (List.drop _) hsplit.symm).trans List.drop_left
            have hlength : (cs.dropWhile set.contains).length < n := by
              have hle := (List.dropWhile_suffix set.contains (l := cs)).length_le
              rw [← hn, List.length_cons]
              omega
            have hborder : ∀ d ∈ (cs.dropWhile set.contains).head?, ¬set.contains d = true := by
              intro d hd
              have hnot := List.head?_dropWhile_not set.contains cs
              rw [Option.mem_def.mp hd] at hnot
              simpa using hnot
            have hdrop := ih _ hlength (c :: cs)[(cs.takeWhile set.contains).length]? true
              (cs.dropWhile set.contains) (fun _ => hborder) rfl
            have hskip : betweenRuns set put (c :: cs) = betweenRuns set put cs := by
              simp [betweenRuns, hc]
            rw [List.takeWhile_cons_of_pos hc] at hmatch
            unfold replaceFrom
            simp only [hmatch, List.length_cons, hrest, hdrop, betweenRuns_dropWhile, hskip, hfirst]
            simp
          · have htail := ih cs.length (by simp [← hn]) (some c) false cs (by simp) rfl
            rw [List.takeWhile_cons_of_neg hc] at hmatch
            rw [betweenRuns_cons_of_not_contains hc]
            unfold replaceFrom
            simp only [hmatch, List.length_nil, htail]
            simp

-- Every longest run of characters of the set is replaced, also where it is empty.
theorem replaceAll_star (set : CharSet) (put cs : List Char) :
    replaceAll ⟨.star set⟩ (fun _ _ => put) cs = put ++ betweenRuns set put cs := by
  unfold replaceAll
  rw [replaceFrom_star none false cs (by simp)]
  rfl

end PropertyTemplates.Pattern
