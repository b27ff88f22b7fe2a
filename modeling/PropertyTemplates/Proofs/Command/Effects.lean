import PropertyTemplates.Command.Run

namespace PropertyTemplates

-- What a command prints, complains about and writes.
inductive Effect where
  | print (line : String)
  | complain (line : String)
  | write (path text : String) (answer : Except String Unit)

namespace Host

variable {σ α : Type}

-- A step that has no effect.
def silently (step : StateM σ α) : StateM (σ × List Effect) α := fun (s, effects) =>
  let (a, s) := step s
  (a, s, effects)

-- Keeps the effects beside the state of a host, with the answers that the host gives.
def recording (host : Host (StateM σ)) : Host (StateM (σ × List Effect)) where
  isPresent path := silently (host.isPresent path)
  read path := silently (host.read path)
  write path text := fun (s, effects) =>
    let (answer, s) := host.write path text s
    (answer, s, effects ++ [.write path text answer])
  print line := fun (s, effects) =>
    let (_, s) := host.print line s
    ((), s, effects ++ [.print line])
  complain line := fun (s, effects) =>
    let (_, s) := host.complain line s
    ((), s, effects ++ [.complain line])
  environment name := silently (host.environment name)
  newName := silently host.newName
  now := silently host.now

end Host

-- What a run finds in its files, and the stamp that it gets.
structure Findings where
  stamp : Stamp
  config : Except String String
  snapshot : Except String String

-- Asks a host for all of it, also where a run would stop at the files.
def RunOptions.findings {m : Type → Type} [Monad m] (options : RunOptions) (host : Host m) :
    m Findings := do
  let config ← host.read options.pluginConfig
  let snapshot ← host.read options.snapshot
  let run ← host.newName
  let start ← host.now
  let finish ← host.now
  return ⟨⟨run, start, finish⟩, config, snapshot⟩

-- The report of a run on what it finds.
def Findings.report (found : Findings) (options : RunOptions) (settings : Settings) :
    Except CommandError Report := do
  let config ← (Configuration.ofFile found.config).mapError (.pluginConfig options.pluginConfig)
  let snapshot ← found.snapshot.mapError (.unreadableSnapshot options.snapshot)
  options.report config settings snapshot

-- What a run does with its document and its last line after it has printed what it generated, and
-- its answer in the end. A document that cannot be written takes the place of both.
inductive Closes (options : RunOptions) (document line : String)
    (answer : Except CommandError Unit) : Except CommandError Unit → List Effect → Prop
  | unasked (h : options.output = none) :
      Closes options document line answer answer [.print line]
  | written {path : String} (h : options.output = some path) :
      Closes options document line answer answer [.write path document (.ok ()), .print line]
  | unwritten {path cause : String} {e : CommandError} (h : options.output = some path)
      (he : e.message = "Failed to write output file '" ++ path ++ "': " ++ cause) :
      Closes options document line answer (.error e) [.write path document (.error cause)]

variable {σ : Type} {host : Host (StateM σ)} {options : RunOptions} {settings : Settings}
  {found : Findings} {r : Report} {e : CommandError} {s last : σ}

namespace StateM

variable {α β : Type}

theorem bind_apply (x : StateM σ α) (f : α → StateM σ β) (s : σ) :
    (x >>= f) s = f (x s).1 (x s).2 := rfl

end StateM

theorem Host.printAll_recording (host : Host (StateM σ)) (lines : List String) (s : σ)
    (effects : List Effect) :
    host.recording.printAll lines (s, effects) =
      ((), (host.printAll lines s).2, effects ++ lines.map .print) := by
  induction lines generalizing s effects with
  | nil =>
      rw [List.map_nil, List.append_nil]
      rfl
  | cons line lines ih =>
      have hstep : host.recording.printAll (line :: lines) (s, effects) =
          host.recording.printAll lines ((host.print line s).2, effects ++ [.print line]) := rfl
      rw [hstep, ih, List.append_assoc]
      rfl

theorem Host.stamp_recording (host : Host (StateM σ)) (s : σ) (effects : List Effect) :
    host.recording.stamp (s, effects) = ((host.stamp s).1, (host.stamp s).2, effects) := rfl

-- Loading reads the two files one after the other, the snapshot only where the configuration is of
-- use.
theorem RunOptions.load_eq (options : RunOptions) (host : Host (StateM σ)) (settings : Settings)
    (s : σ) :
    options.load host settings s =
      let config := host.read options.pluginConfig s
      let snapshot := host.read options.snapshot config.2
      match Configuration.ofFile config.1 with
      | .error e => (.error (.pluginConfig options.pluginConfig e), config.2)
      | .ok c =>
        match snapshot.1 with
        | .error cause => (.error (.unreadableSnapshot options.snapshot cause), snapshot.2)
        | .ok text => (options.report c settings text, snapshot.2) := by
  rw [RunOptions.load, StateM.bind_apply]
  dsimp only
  cases Configuration.ofFile (host.read options.pluginConfig s).1 with
  | error e => rfl
  | ok c =>
      dsimp only
      rw [StateM.bind_apply]
      cases (host.read options.snapshot (host.read options.pluginConfig s).2).1 <;> rfl

theorem RunOptions.load_recording (options : RunOptions) (host : Host (StateM σ))
    (settings : Settings) (s : σ) (effects : List Effect) :
    options.load host.recording settings (s, effects) =
      ((options.load host settings s).1, (options.load host settings s).2, effects) := by
  have hread (path : String) (s : σ) : host.recording.read path (s, effects) =
      ((host.read path s).1, (host.read path s).2, effects) := rfl
  rw [load_eq, load_eq]
  simp only [hread]
  cases Configuration.ofFile (host.read options.pluginConfig s).1 with
  | error e => rfl
  | ok c => cases (host.read options.snapshot (host.read options.pluginConfig s).2).1 <;> rfl

theorem RunOptions.findings_eq (options : RunOptions) (host : Host (StateM σ)) (s : σ) :
    options.findings host s =
      let config := host.read options.pluginConfig s
      let snapshot := host.read options.snapshot config.2
      let stamp := host.stamp snapshot.2
      (⟨stamp.1, config.1, snapshot.1⟩, stamp.2) := rfl

-- Loading tells what a run finds. Where it yields a report, only the stamp is left to ask for.
theorem RunOptions.load_of_findings (options : RunOptions) (host : Host (StateM σ))
    (settings : Settings) (s : σ) :
    ∃ reached, options.load host settings s =
        ((options.findings host s).1.report options settings, reached) ∧
      ∀ r, (options.findings host s).1.report options settings = .ok r →
        host.stamp reached =
          ((options.findings host s).1.stamp, (options.findings host s).2) := by
  rw [load_eq, findings_eq]
  dsimp only [Findings.report]
  cases Configuration.ofFile (host.read options.pluginConfig s).1 with
  | error e => exact ⟨_, rfl, nofun⟩
  | ok c =>
      dsimp only
      cases (host.read options.snapshot (host.read options.pluginConfig s).2).1 with
      | error cause => exact ⟨_, rfl, nofun⟩
      | ok text => exact ⟨_, rfl, fun _ _ => rfl⟩

theorem Report.close_eq (r : Report) (host : Host (StateM σ)) (name : String) (s : σ) :
    r.close host name s = (r.answer, (host.print (r.outcomeLine name) s).2) := rfl

theorem RunOptions.deliver_eq_of_none (h : options.output = none) (host : Host (StateM σ))
    (stamp : Stamp) (r : Report) (s : σ) :
    options.deliver host stamp r s = r.close host stamp.run (host.printAll r.lines s).2 := by
  unfold deliver writeReport
  rw [h]
  rfl

theorem RunOptions.deliver_eq_of_some {path : String} (h : options.output = some path)
    (host : Host (StateM σ)) (stamp : Stamp) (r : Report) (s : σ) :
    options.deliver host stamp r s =
      let written := host.write path (r.toJson stamp).toText (host.printAll r.lines s).2
      match written.1 with
      | .error cause => (.error (.unwrittenReport path cause), written.2)
      | .ok () => r.close host stamp.run written.2 := by
  unfold deliver writeReport
  rw [h, StateM.bind_apply, StateM.bind_apply]
  dsimp only
  rw [StateM.bind_apply]
  cases (host.write path (r.toJson stamp).toText (host.printAll r.lines s).2).1 <;> rfl

-- A report is delivered alike whether or not the effects are kept.
theorem RunOptions.deliver_recording (options : RunOptions) (host : Host (StateM σ)) (stamp : Stamp)
    (r : Report) (s : σ) :
    ∃ result last closing, options.deliver host stamp r s = (result, last) ∧
      Closes options (r.toJson stamp).toText (r.outcomeLine stamp.run) r.answer result closing ∧
      ∀ effects, options.deliver host.recording stamp r (s, effects) =
        (result, last, effects ++ (r.lines.map .print ++ closing)) := by
  have hprint (line : String) (s : σ) (effects : List Effect) :
      host.recording.print line (s, effects) =
        ((), (host.print line s).2, effects ++ [.print line]) := rfl
  cases houtput : options.output with
  | none =>
      refine ⟨_, _, _, (deliver_eq_of_none houtput ..).trans (Report.close_eq ..),
        .unasked houtput, fun effects => ?_⟩
      rw [deliver_eq_of_none houtput, Host.printAll_recording, Report.close_eq, hprint,
        List.append_assoc]
  | some path =>
      have hwrite (s : σ) (effects : List Effect) :
          host.recording.write path (r.toJson stamp).toText (s, effects) =
            let written := host.write path (r.toJson stamp).toText s
            (written.1, written.2, effects ++ [.write path (r.toJson stamp).toText written.1]) :=
        rfl
      simp only [deliver_eq_of_some houtput, Host.printAll_recording, hwrite]
      cases (host.write path (r.toJson stamp).toText (host.printAll r.lines s).2).1 with
      | error cause =>
          refine ⟨_, _, _, rfl, .unwritten houtput rfl, fun effects => ?_⟩
          rw [List.append_assoc]
      | ok u =>
          refine ⟨_, _, _, Report.close_eq .., .written houtput, fun effects => ?_⟩
          dsimp only
          rw [Report.close_eq, hprint, List.append_assoc, List.append_assoc, List.singleton_append]

theorem runCommand_of_load_error (h : options.load host settings s = (.error e, last)) :
    runCommand host settings options s = (.error e, last) := by
  rw [runCommand, StateM.bind_apply, h]
  rfl

theorem runCommand_of_load_ok {stamp : Stamp} {reached : σ}
    (h : options.load host settings s = (.ok r, reached))
    (hstamp : host.stamp reached = (stamp, last)) :
    runCommand host settings options s = options.deliver host stamp r last := by
  rw [runCommand, StateM.bind_apply, h]
  dsimp only
  rw [StateM.bind_apply, hstamp]

-- A run without a report ends before it has any effect.
theorem runCommand_of_error (h : (options.findings host s).1.report options settings = .error e) :
    ∃ last, runCommand host settings options s = (.error e, last) ∧
      ∀ effects, runCommand host.recording settings options (s, effects) =
        (.error e, last, effects) := by
  obtain ⟨reached, hload, -⟩ := options.load_of_findings host settings s
  rw [h] at hload
  refine ⟨reached, runCommand_of_load_error hload, fun effects => ?_⟩
  have hrecorded := options.load_recording host settings s effects
  rw [hload] at hrecorded
  exact runCommand_of_load_error hrecorded

theorem runCommand_of_ok (h : (options.findings host s).1.report options settings = .ok r) :
    let stamp := (options.findings host s).1.stamp
    ∃ result last closing, runCommand host settings options s = (result, last) ∧
      Closes options (r.toJson stamp).toText (r.outcomeLine stamp.run) r.answer result closing ∧
      ∀ effects, runCommand host.recording settings options (s, effects) =
        (result, last, effects ++ (r.lines.map .print ++ closing)) := by
  intro stamp
  obtain ⟨reached, hload, hstamp⟩ := options.load_of_findings host settings s
  have hreached : host.stamp reached = (stamp, (options.findings host s).2) := hstamp r h
  rw [h] at hload
  obtain ⟨result, last, closing, hdeliver, hcloses, hrecorded⟩ :=
    options.deliver_recording host stamp r (options.findings host s).2
  refine ⟨result, last, closing, ?_, hcloses, fun effects => ?_⟩
  · rw [runCommand_of_load_ok hload hreached]
    exact hdeliver
  · have hrecordedLoad := options.load_recording host settings s effects
    rw [hload] at hrecordedLoad
    have hrecordedStamp : host.recording.stamp (reached, effects) =
        (stamp, (options.findings host s).2, effects) := by
      rw [Host.stamp_recording, hreached]
    rw [runCommand_of_load_ok hrecordedLoad hrecordedStamp]
    exact hrecorded effects

end PropertyTemplates
