import ShellInit.Proofs.Run.Effect

/-!
# How many warnings a build raises

The only warnings of a build are those that show the findings of its configuration, below a heading
that announces their number. The heading is a warning as well, so where there are findings, one more
warning is counted than is announced.
-/

namespace ShellInit

/-! ## The warnings among events -/

def warnings (events : List Event) : List Event := events.filter (·.level = .warn)

theorem warningCount_eq_length (events : List Event) :
    warningCount events = (warnings events).length := List.countP_eq_length_filter

@[simp]
theorem warnings_append (events events' : List Event) :
    warnings (events ++ events') = warnings events ++ warnings events' := List.filter_append _ _

@[simp]
theorem warnings_cons_of_ne {e : Event} (h : e.level ≠ .warn) (events : List Event) :
    warnings (e :: events) = warnings events := by
  simp [warnings, h]

theorem warnings_map_of_ne {event : String → Event} (h : ∀ note, (event note).level ≠ .warn)
    (notes : List String) : warnings (notes.map event) = [] := by
  simp [warnings, h]

/-! ## The warnings of a build -/

/-- Findings as warnings below the heading that announces them; nothing if there are none. -/
def Config.findingWarnings (c : Config) : List Event :=
  if c.findings = [] then []
  else
    Event.warn s!"found {c.findings.length} configuration warning(s):" ::
      c.findings.map fun f ↦ Event.warn f.text

/-- Where there are findings, the heading is one more. -/
theorem Config.length_findingWarnings (c : Config) :
    c.findingWarnings.length = if c.findings = [] then 0 else c.findings.length + 1 := by
  unfold findingWarnings
  split <;> simp

/-- Details of the search are no warnings. -/
theorem Config.warnings_findingEvents (c : Config) :
    warnings c.findingEvents = c.findingWarnings := by
  have hlint (note : String) : (Event.lint note).level ≠ .warn := by simp [Event.lint]
  rw [findingEvents, findingWarnings, warnings_append, warnings_map_of_ne hlint, List.nil_append]
  by_cases hnone : c.findings = []
  · simp [hnone, warnings]
  · have hempty : ¬c.findings.isEmpty := by simpa using hnone
    rw [if_neg hempty, if_neg hnone, warnings, List.filter_eq_self]
    simp [Event.warn]

theorem Config.warnings_buildEvents (c : Config) (m : Machine) (fileCount : Nat)
    (shellName : String) : warnings (c.buildEvents m fileCount shellName) = c.findingWarnings := by
  have hdebug (note : String) : (Event.debug note).level ≠ .warn := by simp [Event.debug]
  have hcompile (note : String) : (Event.compile note).level ≠ .warn := by simp [Event.compile]
  simp [buildEvents, warnings_findingEvents, warnings_map_of_ne hdebug, warnings_map_of_ne hcompile,
    Event.debug, Event.stage]

section Build

variable {m : Machine} {paths : List String} {shellName : String}

theorem warnings_build_of_load_eq_error {error : LoadError}
    (h : Config.load m.read paths m.pick = .error error) :
    warnings (build m paths shellName).events = [] := by
  simp [build, h, warnings, Event.stage]

/-- Whether the compilation succeeds makes no difference. -/
theorem warnings_build_of_load_eq_ok {config : Config}
    (h : Config.load m.read paths m.pick = .ok config) :
    warnings (build m paths shellName).events = config.findingWarnings := by
  have hbuild := config.warnings_buildEvents m paths.length shellName
  cases hcompile : config.compile shellName m.platform with
  | error error => simp [build, h, hcompile, hbuild, Event.stage]
  | ok script =>
    have hlast (message : String) : warnings [Event.debug message] = [] := by
      simp [warnings, Event.debug]
    simp [build, h, hcompile, hbuild, hlast, Event.stage]

theorem warningCount_build_of_load_eq_ok {config : Config}
    (h : Config.load m.read paths m.pick = .ok config) :
    warningCount (build m paths shellName).events =
      if config.findings = [] then 0 else config.findings.length + 1 := by
  rw [warningCount_eq_length, warnings_build_of_load_eq_ok h, config.length_findingWarnings]

end Build

/-! ## The summary of a run -/

namespace Command

variable {c : Command} {w : World}

theorem warningCount_prepare (c : Command) (m : Machine) :
    warningCount (c.prepare m).events = warningCount (build m c.files c.shell).events := by
  simp [warningCount_eq_length, prepare, Event.debug]

/-- A run that succeeds reports at its end what it has put out and how often it has warned. -/
theorem exists_events_run_eq (h : (c.run w).1.result = .ok ()) :
    ∃ output, (c.prepare w.machine).result = .ok output ∧
      (c.run w).1.events = (c.prepare w.machine).events ++
        closing output.destination (warningCount (build w.machine c.files c.shell).events) := by
  cases hprepare : (c.prepare w.machine).result with
  | error failure => simp [run, hprepare] at h
  | ok output =>
    obtain ⟨⟨written, after⟩, hput⟩ : ∃ outcome, w.put output = outcome := ⟨_, rfl⟩
    cases written with
    | error fault => simp [run, hprepare, hput, conclude] at h
    | ok _ =>
      refine ⟨output, rfl, ?_⟩
      simp only [run, hprepare, hput, conclude, warningCount_prepare]

/-- The end of a report tells the file, if there is one, and the number, unless it is zero. -/
theorem closing_of_prepare_eq_ok {output : Output} (h : (c.prepare w.machine).result = .ok output)
    (count : Nat) :
    closing output.destination count =
      (match c.out with
        | some path => [Event.info s!"wrote {path}"]
        | none => []) ++
      if count = 0 then [] else [Event.info s!"completed with {count} warning(s)"] := by
  have hdestination : output.destination = c.out.elim .stdout .file := by
    rw [prepare] at h
    cases hbuild : (build w.machine c.files c.shell).result with
    | error failure => simp [hbuild, Except.map] at h
    | ok script =>
      simp only [hbuild, Except.map, Except.ok.injEq] at h
      subst h
      unfold Command.output
      cases c.out <;> rfl
  unfold closing
  rw [hdestination]
  cases c.out <;> rcases Nat.eq_zero_or_pos count with rfl | hpos
  · rfl
  · simp [hpos, Nat.ne_of_gt hpos]
  · rfl
  · simp [hpos, Nat.ne_of_gt hpos]

end Command

/-- Without a configuration a build raises no warning. With one, and whether it compiles or not, its
warnings are the findings below a heading, and those of a run that succeeds are counted as such at
its end: one more than there are findings, if there are any. -/
theorem warningCount_build (m : Machine) (paths : List String) (shellName : String) :
    (∀ error, Config.load m.read paths m.pick = .error error →
      warningCount (build m paths shellName).events = 0) ∧
    (∀ config, Config.load m.read paths m.pick = .ok config →
      warnings (build m paths shellName).events = config.findingWarnings ∧
      warningCount (build m paths shellName).events =
        if config.findings = [] then 0 else config.findings.length + 1) ∧
    ∀ (c : Command) (w : World) (config : Config),
      Config.load w.files.readText c.files w.pick = .ok config → (c.run w).1.result = .ok () →
        (c.run w).1.events = (c.prepare w.machine).events ++
          ((match c.out with
            | some path => [Event.info s!"wrote {path}"]
            | none => []) ++
          if config.findings = [] then []
          else [Event.info s!"completed with {config.findings.length + 1} warning(s)"]) := by
  refine ⟨?unloaded, ?loaded, ?run⟩
  case unloaded =>
    intro error hload
    rw [warningCount_eq_length, warnings_build_of_load_eq_error hload, List.length_nil]
  case loaded =>
    intro config hload
    exact ⟨warnings_build_of_load_eq_ok hload, warningCount_build_of_load_eq_ok hload⟩
  case run =>
    intro c w config hload hresult
    obtain ⟨output, hprepare, hevents⟩ := Command.exists_events_run_eq hresult
    have hcount : warningCount (build w.machine c.files c.shell).events = _ :=
      warningCount_build_of_load_eq_ok hload
    rw [hevents, hcount, Command.closing_of_prepare_eq_ok hprepare]
    by_cases hnone : config.findings = []
    · rw [if_pos hnone, if_pos hnone, if_pos rfl]
    · rw [if_neg hnone, if_neg hnone, if_neg (Nat.succ_ne_zero _)]

/-- Two commands with one label. -/
def World.twins : World where
  files :=
    { nodes := [
        (["twins.toml"], .file ("[[evaluates]]\ncommand = \"A\"\nlabel = \"a\"\n\n" ++
          "[[evaluates]]\ncommand = \"B\"\nlabel = \"a\"\n").toUTF8 false)] }
  signs := { os := "linux", arch := "x86_64" }

def Config.twins : Config where
  evaluates := [⟨"A", { label := some "a" }⟩, ⟨"B", { label := some "a" }⟩]

def Command.twins : Command := ⟨["twins.toml"], "bash", none, false⟩

theorem Config.load_twins :
    Config.load World.twins.files.readText ["twins.toml"] 0 = .ok Config.twins := by
  decide +kernel

theorem Config.findings_twins : Config.twins.findings = [.sharedLabel "a" 2] := by
  decide +kernel

/-- The heading and the finding that it announces are both counted, and so says the summary. -/
theorem warningCount_build_twins :
    warnings (build World.twins.machine ["twins.toml"] "bash").events =
        [Event.warn "found 1 configuration warning(s):",
          Event.warn "  labels [a]: declared by 2 entries; dependents wait for all of them"] ∧
      warningCount (build World.twins.machine ["twins.toml"] "fish").events = 2 ∧
      warningCount (build World.twins.machine ["gone.toml"] "bash").events = 0 ∧
      (Command.twins.run World.twins).1.events.getLast? =
        some (Event.info "completed with 2 warning(s)") := by
  have hgone : Config.load World.twins.machine.read ["gone.toml"] 0 =
      .error (.unreadable "gone.toml" .notFound) := by
    decide +kernel
  have hcompile : Config.twins.compile Command.twins.shell World.twins.machine.platform =
      .ok "A\nB" := by
    decide +kernel
  have hbuilds : Command.twins.Builds World.twins "A\nB" := ⟨_, Config.load_twins, hcompile⟩
  have hrun : (Command.twins.run World.twins).1.result = .ok () :=
    (hbuilds.ends_of_put_eq_ok (Command.output_of_out_eq_none rfl _) rfl).1
  have hsome : Config.twins.findings ≠ [] := by
    rw [Config.findings_twins]
    exact List.cons_ne_nil _ _
  obtain ⟨hunloaded, _⟩ := warningCount_build World.twins.machine ["gone.toml"] "bash"
  obtain ⟨_, hbash, hsummary⟩ := warningCount_build World.twins.machine ["twins.toml"] "bash"
  obtain ⟨_, hfish, _⟩ := warningCount_build World.twins.machine ["twins.toml"] "fish"
  obtain ⟨hwarnings, _⟩ := hbash Config.twins Config.load_twins
  obtain ⟨_, hcount⟩ := hfish Config.twins Config.load_twins
  have hevents := hsummary Command.twins World.twins Config.twins Config.load_twins hrun
  refine ⟨hwarnings.trans ?_, ?_, hunloaded _ hgone, ?_⟩
  · rw [Config.findingWarnings, if_neg hsome, Config.findings_twins]
    decide +kernel
  · rw [hcount, if_neg hsome, Config.findings_twins]
    rfl
  · rw [hevents, if_neg hsome, ← List.append_assoc, List.getLast?_concat, Config.findings_twins]
    decide +kernel

/-- What is counted is not the number of findings. -/
theorem warningCount_twins_ne :
    Config.load World.twins.machine.read ["twins.toml"] 0 = .ok Config.twins ∧
      warningCount (build World.twins.machine ["twins.toml"] "bash").events ≠
        Config.twins.findings.length := by
  have hcount : warningCount (build World.twins.machine ["twins.toml"] "bash").events = _ :=
    warningCount_build_of_load_eq_ok Config.load_twins
  refine ⟨Config.load_twins, ?_⟩
  rw [hcount, Config.findings_twins]
  decide

end ShellInit
