import PropertyTemplates.Application
import PropertyTemplates.Host.Folder
import PropertyTemplates.Proofs.Command.Consistency
import PropertyTemplates.Proofs.Variables.Precedence
import PropertyTemplates.Proofs.Variables.Substitution

namespace PropertyTemplates

open Variables

-- The variables that describe a process, with their paths.
inductive Describes : String → String → Prop
  | title : Describes "processtitle" "titel"
  | id : Describes "processid" "id"
  | project : Describes "projectname" "projekt.titel"

-- The value of a name in a run: what the command assigns to it last, or else what the settings say,
-- or else what describes the process.
inductive RunValue (texts : List String) (settings : Settings) (root : Object) (name : String) :
    Option String → Prop
  | assigned {value : String} (h : LastAssigns texts name value) :
      RunValue texts settings root name (some value)
  | configured {value : String} (hunassigned : ∀ t ∈ texts, ∀ other, ¬Assigns t name other)
      (h : (name, value) ∈ settings.values.entries) :
      RunValue texts settings root name (some value)
  | described {path value : String} (hunassigned : ∀ t ∈ texts, ∀ other, ¬Assigns t name other)
      (hunset : ∀ other, (name, other) ∉ settings.values.entries)
      (hpath : Describes name path) (h : root.evaluate path = .ok (some value)) :
      RunValue texts settings root name (some value)
  | unknown (hunassigned : ∀ t ∈ texts, ∀ other, ¬Assigns t name other)
      (hunset : ∀ other, (name, other) ∉ settings.values.entries)
      (h : ∀ path, Describes name path → ∀ value, root.evaluate path ≠ .ok (some value)) :
      RunValue texts settings root name none

-- The token of a name, as a text.
def tokenOf (name : List Char) : String := String.ofList (written name)

-- What the variables of a run put for a token, wherever it stands.
structure Overrides (v : Variables) (texts : List String) (settings : Settings) (root : Object) :
    Prop where
  value : ∀ name given, v.get? name = given ↔ RunValue texts settings root name given
  replaced : ∀ name given, IsName name →
    RunValue texts settings root (String.ofList name) given → ∀ front back,
      v.replace (front ++ tokenOf name ++ back) =
        v.replace front ++ given.getD (tokenOf name) ++ v.replace back

-- A property that a definition makes: the variables are put into its template once the placeholders
-- are resolved, and the rules are applied to what comes out.
structure FilledIn (v : Variables) (root : Object) (d : Definition) (q : Property) : Prop where
  name : q.name = d.name
  value : ∃ resolved, resolvePlaceholders root defaultRounds d.template = .ok resolved ∧
    Rule.applyAll d.rules (v.replace resolved) = .ok q.value

-- What a run with the variables of all three sources does on what it finds.
structure Substituted (found : Findings) (options : RunOptions) (texts : List String)
    (settings : Settings) (result : Except CommandError Unit) (effects : List Effect) : Prop where
  unusable : found.Unusable options settings → effects = [] ∧ ∃ e, result = .error e
  usable : ¬found.Unusable options settings → ∃ subject ds v generated,
    found.Selects options settings subject ds ∧ Overrides v texts settings subject.root ∧
    List.Forall₂ (FilledIn v subject.root) (ds.take generated.length) generated ∧
    Reported options found.stamp
      (Definition.execute ds subject.root v.replace (Store.saving fun _ => none) subject.store).1
      generated result effects

section Token

variable {name front back : List Char}

-- No token goes across the ends of another one.
theorem Variables.TokenAt.uncut {text : List Char} {start : Nat} (h : TokenAt text start name) :
    Uncut text start ∧ Uncut text (start + (written name).length) := by
  constructor <;> intro other place hother <;> have hdisjoint := h.disjoint hother
  · rcases hdisjoint with ⟨rfl, rfl⟩ | hafter | hbefore
    · exact .inr (Nat.le_refl _)
    · exact .inr (by omega)
    · exact .inl hbefore
  · rcases hdisjoint with ⟨rfl, rfl⟩ | hafter | hbefore
    · exact .inl (Nat.le_refl _)
    · exact .inr hafter
    · exact .inl (by omega)

theorem Variables.replaceIn_written (v : Variables) (h : IsName name) (front back : List Char) :
    v.replaceIn (front ++ written name ++ back) =
      v.replaceIn front ++ (Piece.token name).fill v ++ v.replaceIn back := by
  have htoken : token? (written name ++ back) = some (name, back) :=
    token?_eq_some_iff.mpr ⟨rfl, h⟩
  have hat : TokenAt (front ++ (written name ++ back)) (front.length + 0) name :=
    tokenAt_append.mpr (tokenAt_zero.mpr ⟨back, htoken⟩)
  rw [List.append_assoc, replaceIn_append v hat.uncut.1, replaceIn_token v htoken,
    List.append_assoc]

theorem Variables.replace_token (v : Variables) (h : IsName name) (front back : String) :
    v.replace (front ++ tokenOf name ++ back) =
      v.replace front ++ (v.get? (String.ofList name)).getD (tokenOf name) ++ v.replace back := by
  have hfill : String.ofList ((Piece.token name).fill v) =
      (v.get? (String.ofList name)).getD (tokenOf name) := by
    rw [Piece.fill]
    cases v.get? (String.ofList name) with
    | none => rfl
    | some value => exact String.ofList_toList
  unfold replace
  rw [String.toList_append, String.toList_append, tokenOf, String.toList_ofList,
    replaceIn_written v h, String.ofList_append, String.ofList_append, hfill]
  rfl

end Token

section Sources

variable {texts : List String} {settings : Settings} {root : Object} {v : Variables}
  {name value : String}

theorem mem_processPaths {path : String} : (name, path) ∈ processPaths ↔ Describes name path := by
  simp only [processPaths, List.mem_cons, List.not_mem_nil, or_false, Prod.mk.injEq]
  constructor
  · rintro (⟨rfl, rfl⟩ | ⟨rfl, rfl⟩ | ⟨rfl, rfl⟩)
    · exact .title
    · exact .id
    · exact .project
  · rintro (_ | _ | _) <;> simp

theorem mem_processTokens :
    (name, value) ∈ processTokens root ↔
      ∃ path, Describes name path ∧ root.evaluate path = .ok (some value) := by
  have hjoin : ∀ path, (root.evaluate path).toOption.join = some value ↔
      root.evaluate path = .ok (some value) := by
    intro path
    rw [Option.join_eq_some_iff, Except.toOption_eq_some]
  simp only [processTokens, List.mem_filterMap, Option.map_eq_some_iff, Prod.exists,
    Prod.mk.injEq, ← hjoin, ← mem_processPaths]
  constructor
  · rintro ⟨_, path, hpath, _, h, rfl, rfl⟩
    exact ⟨path, hpath, h⟩
  · rintro ⟨path, hpath, h⟩
    exact ⟨name, path, hpath, value, h, rfl, rfl⟩

theorem noRepeats_processTokens (root : Object) : NoRepeats (processTokens root) := by
  have hpaths : NoRepeats processPaths := by
    simp [NoRepeats, processPaths]
  refine List.pairwise_filterMap.mpr (hpaths.imp fun {a b} hne => ?_)
  intro first hfirst second hsecond
  obtain ⟨_, -, rfl⟩ := Option.map_eq_some_iff.mp hfirst
  obtain ⟨_, -, rfl⟩ := Option.map_eq_some_iff.mp hsecond
  exact hne

-- The variables of the settings go over those of the process, and the assigned ones over both.
theorem get?_runVariables (settings : Settings) (assigned : List (String × String))
    (root : Object) (name : String) :
    (runVariables (settings.withVariables (ofList assigned)) root).get? name =
      (lastOf? assigned name).or
        ((settings.values.entries.lookup name).or ((processTokens root).lookup name)) := by
  calc (runVariables (settings.withVariables (ofList assigned)) root).get? name
      = (lastOf? (settings.values.insertAll (ofList assigned).entries).entries name).or
          ((ofList (processTokens root)).get? name) := get?_insertAll _ _ name
    _ = ((settings.values.insertAll (ofList assigned).entries).get? name).or
          ((processTokens root).lookup name) := by
        rw [lastOf?_eq_lookup (noRepeats _), get?_ofList,
          lastOf?_eq_lookup (noRepeats_processTokens root)]
        rfl
    _ = ((lastOf? assigned name).or (settings.values.entries.lookup name)).or
          ((processTokens root).lookup name) := by
        rw [get?_insertAll, lastOf?_eq_lookup (noRepeats _), ← get?_ofList]
        rfl
    _ = _ := Option.or_assoc

theorem runValue_iff {assigned : List (String × String)}
    (hassigned : List.Forall₂ (fun text e => Assigns text e.1 e.2) texts assigned)
    {given : Option String} :
    (lastOf? assigned name).or
        ((settings.values.entries.lookup name).or ((processTokens root).lookup name)) = given ↔
      RunValue texts settings root name given := by
  have hunassigned : lastOf? assigned name = none ↔ ∀ t ∈ texts, ∀ other, ¬Assigns t name other :=
    lastOf?_eq_none_iff hassigned
  have hset : ∀ value, settings.values.entries.lookup name = some value ↔
      (name, value) ∈ settings.values.entries :=
    fun _ => lookup_eq_some_iff settings.values.noRepeats
  have hunset : settings.values.entries.lookup name = none ↔
      ∀ other, (name, other) ∉ settings.values.entries := by
    simp only [Option.eq_none_iff_forall_ne_some, ne_eq, hset]
  have hdescribed : ∀ value, (processTokens root).lookup name = some value ↔
      ∃ path, Describes name path ∧ root.evaluate path = .ok (some value) := by
    intro value
    rw [lookup_eq_some_iff (noRepeats_processTokens root), mem_processTokens]
  have hundescribed : (processTokens root).lookup name = none ↔
      ∀ path, Describes name path → ∀ value, root.evaluate path ≠ .ok (some value) := by
    simp only [Option.eq_none_iff_forall_ne_some, ne_eq, hdescribed, not_exists, not_and]
    exact ⟨fun h path hpath value => h value path hpath,
      fun h value path hpath => h path hpath value⟩
  constructor
  · rintro rfl
    cases hlast : lastOf? assigned name with
    | some value => exact .assigned ((lastOf?_eq_some_iff hassigned).mp hlast)
    | none =>
        have hno := hunassigned.mp hlast
        rw [Option.none_or]
        cases hconfigured : settings.values.entries.lookup name with
        | some value => exact .configured hno ((hset value).mp hconfigured)
        | none =>
            rw [Option.none_or]
            cases htoken : (processTokens root).lookup name with
            | some value =>
                obtain ⟨path, hpath, hvalue⟩ := (hdescribed value).mp htoken
                exact .described hno (hunset.mp hconfigured) hpath hvalue
            | none => exact .unknown hno (hunset.mp hconfigured) (hundescribed.mp htoken)
  · intro hvalue
    cases hvalue with
    | assigned hlast =>
        rw [(lastOf?_eq_some_iff hassigned).mpr hlast, Option.some_or]
    | configured hno hmem =>
        rw [hunassigned.mpr hno, (hset _).mpr hmem, Option.none_or, Option.some_or]
    | described hno hnone hpath hvalue =>
        rw [hunassigned.mpr hno, hunset.mpr hnone, (hdescribed _).mpr ⟨_, hpath, hvalue⟩,
          Option.none_or, Option.none_or]
    | unknown hno hnone hvalue =>
        rw [hunassigned.mpr hno, hunset.mpr hnone, hundescribed.mpr hvalue, Option.none_or,
          Option.none_or]

theorem overrides_runVariables (hv : ofAssignments texts = .ok v) (root : Object) :
    Overrides (runVariables (settings.withVariables v) root) texts settings root := by
  obtain ⟨assigned, hassigned, rfl⟩ := ofAssignments_eq_ok_iff.mp hv
  have hvalue : ∀ name given,
      (runVariables (settings.withVariables (ofList assigned)) root).get? name = given ↔
        RunValue texts settings root name given := by
    intro name given
    rw [get?_runVariables, runValue_iff hassigned]
  refine ⟨hvalue, fun name given hname hgiven front back => ?_⟩
  rw [replace_token _ hname, (hvalue _ _).mpr hgiven]

end Sources

section Runs

variable {σ : Type} {host : Host (StateM σ)} {options : RunOptions} {settings : Settings}
  {texts : List String} {assigned v : Variables} {s : σ}

theorem filledIn_of_generate {root : Object} {d : Definition} {q : Property}
    (hname : q.name = d.name) (h : d.generate root v.replace = .ok q.value) :
    FilledIn v root d q := by
  obtain ⟨resolved, hresolved, hrules⟩ := Except.bind_eq_ok.mp h
  exact ⟨hname, resolved, Except.mapError_eq_ok.mp hresolved, Except.mapError_eq_ok.mp hrules⟩

-- Neither the project nor the step of a run depends on the variables.
theorem Findings.unusable_withVariables {found : Findings} (v : Variables) :
    found.Unusable options (settings.withVariables v) ↔ found.Unusable options settings := by
  constructor
  all_goals
    intro h
    cases h with
    | config h => exact .config h
    | unreadable h => exact .unreadable h
    | malformed htext h => exact .malformed htext h
    | noSection hdecoded h => exact .noSection hdecoded h
    | incomplete hdecoded hs hentry h => exact .incomplete hdecoded hs hentry h

theorem runCommand_substituted (hassigned : ofAssignments texts = .ok assigned) :
    ∃ result last effects,
      runCommand host (settings.withVariables assigned) options s = (result, last) ∧
      runCommand host.recording (settings.withVariables assigned) options (s, []) =
        (result, last, effects) ∧
      Substituted (options.findings host s).1 options texts settings result effects := by
  by_cases h : (options.findings host s).1.Unusable options (settings.withVariables assigned)
  · obtain ⟨e, last, hrun, hrecorded⟩ := runCommand_of_unusable h
    exact ⟨_, last, [], hrun, hrecorded, fun _ => ⟨rfl, e, rfl⟩,
      fun husable => absurd ((Findings.unusable_withVariables assigned).mp h) husable⟩
  · obtain ⟨result, last, effects, subject, ds, generated, hrun, hrecorded, hselects, hreported⟩ :=
      runCommand_of_usable h
    have hgenerated := Definition.forall₂_of_filter_generated hreported.entries
    refine ⟨result, last, effects, hrun, hrecorded, fun hunusable => ?_, fun _ => ?_⟩
    · exact absurd ((Findings.unusable_withVariables assigned).mpr hunusable) h
    · exact ⟨subject, ds, _, generated, hselects, overrides_runVariables hassigned subject.root,
        hgenerated.imp fun _ _ hq => filledIn_of_generate hq.1 hq.2, hreported⟩

end Runs

namespace Application

-- A run fails at the first argument that assigns nothing before it asks anything of its host. Else
-- the properties that it prints and writes are made with the variables of all three sources.
theorem perform_overrides (settings : Settings) (options : RunOptions) (texts : List String) :
    ((∃ t ∈ texts, '=' ∉ t.toList) →
      ∃ before text after, texts = before ++ text :: after ∧ (∀ t ∈ before, '=' ∈ t.toList) ∧
        '=' ∉ text.toList ∧ ∀ {m : Type → Type} [Monad m] (host : Host m),
          perform host settings (.run options texts) = pure (.error (.assignment ⟨text⟩))) ∧
    ((∀ t ∈ texts, '=' ∈ t.toList) → ∀ {σ : Type} (host : Host (StateM σ)) (s : σ),
      ∃ result last effects,
        perform host settings (.run options texts) s = (result.mapError .command, last) ∧
        perform host.recording settings (.run options texts) (s, []) =
          (result.mapError .command, last, effects) ∧
        Substituted (options.findings host s).1 options texts settings result effects) := by
  constructor
  · rintro ⟨t, ht, hbad⟩
    have hfails : ¬∃ v, ofAssignments texts = .ok v := by
      rw [exists_ofAssignments_iff]
      exact fun hall => hbad (hall t ht)
    rw [Except.exists_eq_ok_iff, not_not] at hfails
    obtain ⟨e, he⟩ := hfails
    obtain ⟨before, text, after, htexts, hbefore, htext, rfl⟩ := ofAssignments_eq_error_iff.mp he
    refine ⟨before, text, after, htexts, hbefore, htext, fun host => ?_⟩
    rw [perform, he]
  · intro hall σ host s
    obtain ⟨assigned, hassigned⟩ := exists_ofAssignments_iff.mpr hall
    obtain ⟨result, last, effects, hrun, hrecorded, hsubstituted⟩ :=
      runCommand_substituted hassigned
    refine ⟨result, last, effects, ?_, ?_, hsubstituted⟩
    · rw [perform, hassigned]
      dsimp only
      rw [StateM.bind_apply, hrun]
      rfl
    · rw [perform, hassigned]
      dsimp only
      rw [StateM.bind_apply, hrecorded]
      rfl

-- A site that is configured and assigned twice, a title that is configured over the one of the
-- process, and a place that nothing says anything about.
theorem perform_overrides_site :
    let settings : Settings := { values := ofList [("site", "Bern"), ("processtitle", "Karte")] }
    let options : RunOptions := ⟨"band.yaml", "plugin.yaml", none, none, true, none⟩
    let config :=
      "config:\n- property:\n  - name: Ort\n    value: '{site} {processtitle} {ort}'\n"
    let host : Host (StateM Folder) := { Folder.host (fun _ => none) "run" 0 with
      read := fun path f => (.ok (if path = "plugin.yaml" then config else "titel: Plan"), f) }
    perform host settings (.run options ["site=Chur", "ort"]) =
        pure (.error (.assignment ⟨"ort"⟩)) ∧
      ∃ result last closing,
        perform host.recording settings (.run options ["site=Zug", "site=Chur=1"]) ({}, []) =
          (result, last, .print "Ort = Chur=1 Karte {ort}" :: closing) := by
  intro settings options config host
  constructor
  · obtain ⟨before, text, after, htexts, -, htext, hperform⟩ :=
      (perform_overrides settings options ["site=Chur", "ort"]).1 ⟨"ort", by simp, by decide⟩
    cases before with
    | nil =>
        cases htexts
        exact absurd (by decide) htext
    | cons first before =>
        cases before with
        | nil =>
            cases htexts
            exact hperform host
        | cons second before => simp at htexts
  · let c : Configuration := ⟨[⟨[wildcard], [wildcard],
      [⟨some "Ort", some "{site} {processtitle} {ort}", []⟩]⟩]⟩
    let band : Subject := .ofTable (.table [(.text "titel", .text "Plan")])
    have htable : Subject.ofYaml true "titel: Plan" = .ok band := by
      have htokens : Yaml.Token.ofText "titel: Plan" =
          .ok [.blockTableStart, .key, .scalar true "titel", .value, .scalar true "Plan",
            .blockEnd] := Except.toOption_eq_some.mp (by decide +kernel)
      unfold Subject.ofYaml Object.tableOfYaml Yaml.decode Yaml.Node.ofText?
      rw [if_pos rfl, htokens]
      rfl
    have hconfig : Configuration.ofFile (.ok config) = .ok c :=
      Except.toOption_eq_some.mp (by decide +kernel)
    have hdefinitions : options.definitions c settings band =
        .ok [⟨"Ort", "{site} {processtitle} {ort}", []⟩] :=
      Except.toOption_eq_some.mp (by decide +kernel)
    have hdecoded : (options.findings host {}).1.Decoded options c band :=
      ⟨hconfig, "titel: Plan", rfl, htable⟩
    obtain ⟨result, last, effects, -, hrecorded, hsubstituted⟩ :=
      (perform_overrides settings options ["site=Zug", "site=Chur=1"]).2 (by decide) host {}
    obtain ⟨subject, ds, v, generated, hselects, hoverrides, -, hreported⟩ :=
      hsubstituted.usable (hdecoded.not_unusable hdefinitions)
    obtain ⟨rfl, hds⟩ := hdecoded.selects_iff.mp hselects
    cases hdefinitions.symm.trans hds
    have hgenerated : generated = [⟨"Ort", v.replace "{site} {processtitle} {ort}"⟩] :=
      List.map_injective_iff.mpr Definition.generatedEntry_injective hreported.entries.symm
    have hassigned : List.Forall₂ (fun text (e : String × String) => Assigns text e.1 e.2)
        ["site=Zug", "site=Chur=1"] [("site", "Zug"), ("site", "Chur=1")] :=
      .cons ⟨rfl, by decide⟩ (.cons ⟨rfl, by decide⟩ .nil)
    have hsite : v.replace "{site} {processtitle} {ort}" =
        v.replace "" ++ "Chur=1" ++ v.replace " {processtitle} {ort}" :=
      hoverrides.replaced "site".toList (some "Chur=1") (by decide)
        ((runValue_iff hassigned).mp rfl) "" " {processtitle} {ort}"
    have htitle : v.replace " {processtitle} {ort}" =
        v.replace " " ++ "Karte" ++ v.replace " {ort}" :=
      hoverrides.replaced "processtitle".toList (some "Karte") (by decide)
        ((runValue_iff hassigned).mp rfl) " " " {ort}"
    have hort : v.replace " {ort}" = v.replace " " ++ "{ort}" ++ v.replace "" :=
      hoverrides.replaced "ort".toList none (by decide)
        ((runValue_iff hassigned).mp (by decide +kernel)) " " ""
    have hempty : v.replace "" = "" := v.replace_of_not_mem (by decide)
    have hblank : v.replace " " = " " := v.replace_of_not_mem (by decide)
    have hreplaced : v.replace "{site} {processtitle} {ort}" = "Chur=1 Karte {ort}" := by
      rw [hsite, htitle, hort, hempty, hblank]
      rfl
    obtain ⟨document, answer, closing, -, -, -, heffects⟩ := hreported.effects
    refine ⟨result.mapError .command, last, closing, ?_⟩
    rw [hrecorded, heffects, hgenerated, hreplaced]
    rfl

end Application

end PropertyTemplates
