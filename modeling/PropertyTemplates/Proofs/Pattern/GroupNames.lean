import PropertyTemplates.Pattern.Basic
import PropertyTemplates.Proofs.Decimal.Numeral
import PropertyTemplates.Proofs.Except

namespace PropertyTemplates.Pattern

namespace Expr

variable {g : Nat × Option String} {parts : List Expr}

theorem mem_groups_factors (e : Expr) : (∃ f ∈ e.factors, g ∈ f.groups) ↔ g ∈ e.groups := by
  induction e with
  | seq a b iha ihb => simp [factors, groups, or_and_right, exists_or, iha, ihb]
  | empty | char _ | assertion _ => simp [factors, groups]
  | group _ _ _ _ | alt _ _ _ _ | «repeat» _ _ _ _ _ => simp [factors]

theorem mem_groups_branches (e : Expr) : (∃ f ∈ e.branches, g ∈ f.groups) ↔ g ∈ e.groups := by
  induction e with
  | alt a b iha ihb => simp [branches, groups, or_and_right, exists_or, iha, ihb]
  | empty | char _ | assertion _ | group _ _ _ _ | seq _ _ _ _ | «repeat» _ _ _ _ _ =>
      simp [branches]

theorem mem_groups_ofFactors (parts : List Expr) :
    g ∈ (ofFactors parts).groups ↔ ∃ e ∈ parts, g ∈ e.groups := by
  induction parts with
  | nil => simp [ofFactors, groups]
  | cons e parts ih =>
      cases parts with
      | nil => simp [ofFactors]
      | cons f parts => simp [ofFactors, groups, ih]

theorem mem_groups_ofBranches (parts : List Expr) :
    g ∈ (ofBranches parts).groups ↔ ∃ e ∈ parts, g ∈ e.groups := by
  induction parts with
  | nil => simp [ofBranches, groups]
  | cons e parts ih =>
      cases parts with
      | nil => simp [ofBranches]
      | cons f parts => simp [ofBranches, groups, ih]

theorem mem_groups_sequence (h : g ∈ (sequence parts).groups) : ∃ e ∈ parts, g ∈ e.groups := by
  obtain ⟨f, hf, hg⟩ := (mem_groups_ofFactors _).mp h
  obtain ⟨e, he, hfe⟩ := List.mem_flatMap.mp hf
  exact ⟨e, he, (mem_groups_factors e).mp ⟨f, hfe, hg⟩⟩

theorem mem_of_commonStart {a b : List Expr} {e : Expr} (h : e ∈ commonStart a b) : e ∈ a := by
  induction a generalizing b with
  | nil => simp [commonStart] at h
  | cons x a ih =>
      cases b with
      | nil => simp [commonStart] at h
      | cons y b =>
          unfold commonStart at h
          split at h
          · rcases List.mem_cons.mp h with rfl | h
            · exact List.mem_cons_self
            · exact List.mem_cons_of_mem _ (ih h)
          · simp at h

theorem mem_of_foldl_commonStart {first : List Expr} {rest : List (List Expr)} {e : Expr}
    (h : e ∈ rest.foldl commonStart first) : e ∈ first := by
  induction rest generalizing first with
  | nil => exact h
  | cons b rest ih => exact mem_of_commonStart (ih h)

theorem mem_groups_dropped {count : Nat} {bs : List (List Expr)}
    (h : g ∈ (ofBranches (bs.map fun b => ofFactors (b.drop count))).groups) :
    ∃ b ∈ bs, ∃ f ∈ b, g ∈ f.groups := by
  obtain ⟨e, he, hg⟩ := (mem_groups_ofBranches _).mp h
  obtain ⟨b, hb, rfl⟩ := List.mem_map.mp he
  obtain ⟨f, hf, hg⟩ := (mem_groups_ofFactors _).mp hg
  exact ⟨b, hb, f, List.mem_of_mem_drop hf, hg⟩

theorem mem_groups_flattened (h : g ∈ (ofBranches (parts.flatMap branches)).groups) :
    g ∈ (ofBranches parts).groups := by
  obtain ⟨f, hf, hg⟩ := (mem_groups_ofBranches _).mp h
  obtain ⟨e, he, hfe⟩ := List.mem_flatMap.mp hf
  exact (mem_groups_ofBranches _).mpr ⟨e, he, (mem_groups_branches e).mp ⟨f, hfe, hg⟩⟩

theorem mem_groups_shared {first shared : List Expr} {bs : List (List Expr)} (hfirst : first ∈ bs)
    (hshared : ∀ e ∈ shared, e ∈ first)
    (h : g ∈ (ofFactors (shared ++
      if shared.isEmpty then [ofBranches (bs.map fun b => ofFactors (b.drop shared.length))]
      else [ofBranches ((bs.map fun b => ofFactors (b.drop shared.length)).flatMap
        branches)])).groups) :
    ∃ b ∈ bs, ∃ f ∈ b, g ∈ f.groups := by
  obtain ⟨e, he, hg⟩ := (mem_groups_ofFactors _).mp h
  rcases List.mem_append.mp he with he | he
  · exact ⟨first, hfirst, e, hshared e he, hg⟩
  · split at he
    · obtain rfl := List.mem_singleton.mp he
      exact mem_groups_dropped hg
    · obtain rfl := List.mem_singleton.mp he
      exact mem_groups_dropped (mem_groups_flattened hg)

-- Taking out what all branches start with brings no group in.
theorem mem_groups_choice (h : g ∈ (choice parts).groups) : ∃ e ∈ parts, g ∈ e.groups := by
  have hbranch : (∃ b ∈ (parts.flatMap branches).map factors, ∃ f ∈ b, g ∈ f.groups) →
      ∃ e ∈ parts, g ∈ e.groups := by
    rintro ⟨b, hb, f, hf, hg⟩
    obtain ⟨branch, hbranch, rfl⟩ := List.mem_map.mp hb
    obtain ⟨e, he, hbe⟩ := List.mem_flatMap.mp hbranch
    exact ⟨e, he, (mem_groups_branches e).mp
      ⟨branch, hbe, (mem_groups_factors branch).mp ⟨f, hf, hg⟩⟩⟩
  apply hbranch
  unfold choice at h
  split at h
  · exact absurd h List.not_mem_nil
  · rename_i one heq
    obtain ⟨f, hf, hg⟩ := (mem_groups_ofFactors one).mp h
    exact ⟨one, by simp [heq], f, hf, hg⟩
  · rename_i first rest _ heq
    rw [heq]
    refine mem_groups_shared List.mem_cons_self ?_ h
    intro e he
    split at he
    · exact mem_of_foldl_commonStart he
    · exact absurd he List.not_mem_nil

theorem mem_groups_repetition {body : Expr} {min : Nat} {max : Option Nat} {greedy : Bool}
    (h : g ∈ (repetition body min max greedy).groups) : g ∈ body.groups := by
  have hcases : ∀ bounds : Nat × Option Nat,
      g ∈ (if bounds.2 = some 0 then .empty
        else if bounds.1 = 1 ∧ bounds.2 = some 1 then body
        else Expr.repeat body bounds.1 bounds.2 greedy).groups → g ∈ body.groups := by
    intro bounds h
    split at h
    · simp [groups] at h
    · split at h <;> exact h
  exact hcases _ h

end Expr

-- Names of groups start as names do.
def IsGroupName (name : String) : Prop :=
  ∃ c cs, name.toList = c :: cs ∧ Reading.isNameStart c = true

theorem Reading.isNameStart_of_isDigit {c : Char} (h : Decimal.isDigit c = true) :
    isNameStart c = false := by
  have hdigits : ∀ n, n < 10 → isNameStart (Char.ofNat (48 + n)) = false := by decide
  obtain ⟨hlow, hhigh⟩ := Decimal.toNat_of_isDigit h
  have hc := hdigits (c.toNat - 48) (by omega)
  rwa [show 48 + (c.toNat - 48) = c.toNat by omega, Char.ofNat_toNat] at hc

-- A name is never a number.
theorem IsGroupName.not_digits {name : String} (h : IsGroupName name) :
    name.toList.all Decimal.isDigit = false := by
  obtain ⟨c, cs, hname, hstart⟩ := h
  rw [hname, List.all_cons]
  by_cases hc : Decimal.isDigit c = true
  · rw [Reading.isNameStart_of_isDigit hc] at hstart
    cases hstart
  · simp [hc]

def Expr.WellNamed (e : Expr) : Prop :=
  ∀ index name, (index, some name) ∈ e.groups → IsGroupName name

theorem Expr.wellNamed_of_groups {e : Expr} (h : e.groups = []) : e.WellNamed := by
  intro index name hg
  rw [h] at hg
  exact absurd hg List.not_mem_nil

structure Level.WellNamed (l : Level) : Prop where
  branches : ∀ p ∈ l.branches, p.expr.WellNamed
  parts : ∀ p ∈ l.parts, p.expr.WellNamed

namespace Level

variable {l : Level} {p : Part}

theorem WellNamed.sequence (h : l.WellNamed) : l.sequence.expr.WellNamed := by
  intro index name hg
  unfold Level.sequence at hg
  split at hg
  · exact absurd hg List.not_mem_nil
  · rename_i p heq
    exact h.parts p (by simp [heq]) index name hg
  · obtain ⟨e, he, hg⟩ := Expr.mem_groups_sequence hg
    obtain ⟨p, hp, rfl⟩ := List.mem_map.mp he
    exact h.parts p (List.mem_reverse.mp hp) index name hg

theorem WellNamed.whole (h : l.WellNamed) : l.whole.expr.WellNamed := by
  intro index name hg
  unfold Level.whole at hg
  split at hg
  · exact h.sequence index name hg
  · obtain ⟨e, he, hg⟩ := Expr.mem_groups_choice hg
    obtain ⟨p, hp, rfl⟩ := List.mem_map.mp he
    rcases List.mem_cons.mp (List.mem_reverse.mp hp) with rfl | hp
    · exact h.sequence index name hg
    · exact h.branches p hp index name hg

theorem WellNamed.add (h : l.WellNamed) (hp : p.expr.WellNamed) : (l.add p).WellNamed :=
  ⟨h.branches, List.forall_mem_cons.mpr ⟨hp, h.parts⟩⟩

theorem WellNamed.bar (h : l.WellNamed) : l.bar.WellNamed :=
  ⟨List.forall_mem_cons.mpr ⟨h.sequence, h.branches⟩, nofun⟩

theorem wellNamed_empty : ({} : Level).WellNamed := ⟨nofun, nofun⟩

end Level

-- What a reading has found so far, the groups that are still open included.
structure Reading.WellNamed (r : Reading) : Prop where
  level : r.level.WellNamed
  outside : ∀ g ∈ r.opened, g.outside.WellNamed
  captures : ∀ g ∈ r.opened, ∀ index name, g.capture = some (index, some name) → IsGroupName name

namespace Reading

variable {r r' : Reading} {cs rest : List Char}

theorem WellNamed.add {p : Part} (h : r.WellNamed) (hp : p.expr.WellNamed) (rest : List Char) :
    (r.add p rest).WellNamed := ⟨h.level.add hp, h.outside, h.captures⟩

theorem WellNamed.openGroup (h : r.WellNamed) {capture : Option (Nat × Option String)}
    (hname : ∀ index name, capture = some (index, some name) → IsGroupName name) (inside : Flags)
    (rest : List Char) : (r.openGroup capture inside rest).WellNamed where
  level := Level.wellNamed_empty
  outside := List.forall_mem_cons.mpr ⟨h.level, h.outside⟩
  captures := List.forall_mem_cons.mpr ⟨hname, h.captures⟩

theorem WellNamed.closeGroup (h : r.WellNamed) (hr : r.closeGroup rest = .ok r') :
    r'.WellNamed := by
  unfold Reading.closeGroup at hr
  split at hr
  · cases hr
  · rename_i g opened hopened
    cases hr
    have hg : g ∈ r.opened := by simp [hopened]
    have hrest : ∀ g' ∈ opened, g' ∈ r.opened := fun g' hg' => by simp [hopened, hg']
    refine ⟨(h.outside g hg).add ?_, fun g' hg' => h.outside g' (hrest g' hg'),
      fun g' hg' => h.captures g' (hrest g' hg')⟩
    intro index name hmem
    simp only at hmem
    split at hmem
    · rename_i i n hcapture
      rcases List.mem_cons.mp hmem with heq | hmem
      · cases heq
        exact h.captures g hg index name hcapture
      · exact h.level.whole index name hmem
    · exact h.level.whole index name hmem

theorem WellNamed.readName (h : r.WellNamed) (hr : r.readName cs = .ok r') : r'.WellNamed := by
  unfold Reading.readName at hr
  split at hr
  · rename_i c name _ rest _ _
    simp only at hr
    split at hr
    · cases hr
    · rename_i hstart
      split at hr
      · cases hr
      · cases hr
        refine h.openGroup ?_ _ _
        intro index name' hcapture
        cases hcapture
        exact ⟨c, name, String.toList_ofList, (Decidable.not_not.mp hstart).1⟩
  · cases hr

theorem WellNamed.readFlags (h : r.WellNamed) (hr : r.readFlags cs = .ok r') : r'.WellNamed := by
  unfold Reading.readFlags at hr
  simp only at hr
  split at hr
  · cases hr
  · obtain ⟨flags, -, hr⟩ := Except.bind_eq_ok.mp hr
    split at hr
    · cases hr
      exact h.openGroup (by simp) _ _
    · split at hr
      · cases hr
      · cases hr
        exact ⟨h.level.add (Expr.wellNamed_of_groups rfl), h.outside, h.captures⟩

theorem WellNamed.readGroup (h : r.WellNamed) (hr : r.readGroup cs = .ok r') : r'.WellNamed := by
  unfold Reading.readGroup at hr
  split at hr
  iterate 4 cases hr
  · exact h.readName hr
  · exact h.readName hr
  · exact h.readFlags hr
  · cases hr
    exact h.openGroup (by simp) _ _

theorem WellNamed.repeatLast (h : r.WellNamed) {min : Nat} {max : Option Nat} {lazy : Bool}
    (hr : r.repeatLast min max lazy rest = .ok r') : r'.WellNamed := by
  unfold Reading.repeatLast at hr
  split at hr
  · cases hr
  · rename_i p parts hparts
    have hmem : ∀ q ∈ p :: parts, q.expr.WellNamed := by
      rw [← hparts]
      exact h.level.parts
    split at hr
    · cases hr
      obtain ⟨hp, hrest⟩ := List.forall_mem_cons.mp hmem
      refine ⟨⟨h.level.branches, List.forall_mem_cons.mpr ⟨?_, hrest⟩⟩, h.outside, h.captures⟩
      exact fun index name hg => hp index name (Expr.mem_groups_repetition hg)
    · cases hr

theorem WellNamed.readCount (h : r.WellNamed) (hr : r.readCount cs = .ok r') : r'.WellNamed := by
  unfold Reading.readCount at hr
  split at hr
  · cases hr
  · split at hr <;> exact h.repeatLast hr

theorem WellNamed.readSign (h : r.WellNamed) {min : Nat} {max : Option Nat}
    (hr : r.readSign min max cs = .ok r') : r'.WellNamed := by
  unfold Reading.readSign at hr
  split at hr <;> exact h.repeatLast hr

theorem groups_dot {f : Flags} {e : Expr} (h : f.dot = .ok e) : e.groups = [] := by
  unfold Flags.dot at h
  split at h
  · cases h
  · cases h
    rfl

-- A step keeps to the groups that have been opened.
theorem WellNamed.step (h : r.WellNamed) (hr : r.step cs = .ok r') : r'.WellNamed := by
  unfold Reading.step at hr
  split at hr
  · cases hr
    exact h
  · exact h.readGroup hr
  · exact h.closeGroup hr
  · cases hr
    exact ⟨h.level.bar, h.outside, h.captures⟩
  · obtain ⟨set, -, hr⟩ := Except.bind_eq_ok.mp hr
    cases hr
    exact h.add (Expr.wellNamed_of_groups rfl) _
  · exact h.readSign hr
  · exact h.readSign hr
  · exact h.readSign hr
  · exact h.readCount hr
  · obtain ⟨dot, hdot, hr⟩ := Except.bind_eq_ok.mp hr
    cases hr
    exact h.add (Expr.wellNamed_of_groups (groups_dot hdot)) _
  · cases hr
    exact h.add (Expr.wellNamed_of_groups rfl) _
  · cases hr
    exact h.add (Expr.wellNamed_of_groups rfl) _
  · obtain ⟨⟨atom, rest⟩, -, hr⟩ := Except.bind_eq_ok.mp hr
    cases hr
    exact h.add (Expr.wellNamed_of_groups (by cases atom <;> rfl)) _
  · cases hr
    exact h.add (Expr.wellNamed_of_groups rfl) _

theorem WellNamed.run (h : r.WellNamed) {fuel : Nat} (hr : r.run fuel = .ok r') : r'.WellNamed := by
  induction fuel generalizing r with
  | zero =>
      cases hr
      exact h
  | succ fuel ih =>
      unfold Reading.run at hr
      split at hr
      · cases hr
        exact h
      · obtain ⟨next, hnext, hr⟩ := Except.bind_eq_ok.mp hr
        exact ih (h.step hnext) hr

end Reading

theorem wellNamed_of_parse {text : String} {p : Pattern} (h : parse text = .ok p) :
    p.expr.WellNamed := by
  have hstart : ({ rest := text.toList } : Reading).WellNamed :=
    ⟨Level.wellNamed_empty, nofun, nofun⟩
  obtain ⟨r, hrun, hfinish⟩ := Except.bind_eq_ok.mp h
  have hr := hstart.run hrun
  unfold Reading.finish at hfinish
  split at hfinish
  · cases hfinish
  · simp only at hfinish
    split at hfinish
    · cases hfinish
    · split at hfinish
      · cases hfinish
      · cases hfinish
        exact hr.level.whole

theorem isGroupName_of_parse {text : String} {p : Pattern} (h : parse text = .ok p) {name : String}
    (hname : name ∈ p.groupNames) : IsGroupName name := by
  obtain ⟨⟨index, found⟩, hg, rfl⟩ := List.mem_filterMap.mp hname
  exact wellNamed_of_parse h index name hg

end PropertyTemplates.Pattern
