import ShellInit.Proofs.Config.Loading
import ShellInit.Proofs.Files.Writing
import ShellInit.Run

/-!
# The effect of a run

A run puts out all of the script or nothing. The script is complete before anything is changed, so
a run that fails leaves the world as it was, and a run that succeeds has changed one thing: the file
it was told to write, be it one of those that it has read, or else the standard output. Only if the
output is refused in the middle, a part of it is left there.
-/

namespace ShellInit

variable {c : Command} {w : World} {config : Config} {text : String}

/-! ## Up to the output -/

section Build

variable {m : Machine} {paths : List String} {shellName : String}

theorem result_build_of_load_eq_error {error : LoadError}
    (h : Config.load m.read paths m.pick = .error error) :
    (build m paths shellName).result = .error (.load error) := by
  simp only [build, h]

theorem result_build_of_compile_eq_error {error : CompileError}
    (hload : Config.load m.read paths m.pick = .ok config)
    (hcompile : config.compile shellName m.platform = .error error) :
    (build m paths shellName).result = .error (.compile error) := by
  simp only [build, hload, hcompile]

theorem result_build_of_compile_eq_ok (hload : Config.load m.read paths m.pick = .ok config)
    (hcompile : config.compile shellName m.platform = .ok text) :
    (build m paths shellName).result = .ok text := by
  simp only [build, hload, hcompile]

end Build

/-- The documents of the command can be loaded and compiled, and this is the script. -/
def Command.Builds (c : Command) (w : World) (script : String) : Prop :=
  ∃ config, Config.load w.files.readText c.files w.pick = .ok config ∧
    config.compile c.shell (.ofSigns w.signs) = .ok script

theorem Command.Builds.result_eq (h : c.Builds w text) :
    (build w.machine c.files c.shell).result = .ok text := by
  obtain ⟨config, hload, hcompile⟩ := h
  exact result_build_of_compile_eq_ok hload hcompile

/-! ## What is taken of the output -/

namespace World

/-- What is not refused is taken as a whole. -/
theorem taken_of_accept_eq_ok (h : w.accept text = .ok ()) : w.taken text = text.toUTF8 := by
  unfold accept at h
  unfold taken
  cases hlimit : w.limit with
  | none => rfl
  | some limit =>
    rw [hlimit] at h
    by_cases hroom : text.utf8ByteSize ≤ limit.room
    · have hmax : max limit.room text.toUTF8.size = limit.room := Nat.max_eq_left hroom
      calc
        text.toUTF8.extract 0 limit.room
            = text.toUTF8.extract 0 (max limit.room text.toUTF8.size) := by rw [hmax]
        _ = text.toUTF8 := ByteArray.extract_zero_max_size
    · simp [hroom] at h

/-- What is refused has been taken up to some byte. -/
theorem exists_taken_of_accept_eq_error {fault : Fault} (h : w.accept text = .error fault) :
    ∃ room < text.utf8ByteSize, w.taken text = text.toUTF8.extract 0 room := by
  unfold accept at h
  unfold taken
  cases hlimit : w.limit with
  | none => simp [hlimit] at h
  | some limit =>
    rw [hlimit] at h
    by_cases hroom : text.utf8ByteSize ≤ limit.room
    · simp [hroom] at h
    · exact ⟨limit.room, Nat.lt_of_not_le hroom, rfl⟩

theorem target_of_openFile_eq_ok {path : String} {place : Place}
    (h : w.openFile path = .ok place) : w.files.target path = .ok place := by
  rw [openFile, bind_eq_ok_iff] at h
  obtain ⟨target, htarget, h⟩ := h
  cases hlock : w.lock with
  | none =>
    rw [hlock] at h
    exact Except.ok.inj h ▸ htarget
  | some fault => simp [hlock] at h

end World

/-! ## How a run ends -/

namespace Command

/-- A run of the command ends with this result and leaves this world. -/
def Ends (c : Command) (w : World) (result : Except Failure Unit) (after : World) : Prop :=
  (c.run w).1.result = result ∧ (c.run w).2 = after

/-- A failure before the output leaves the world as it was. -/
theorem ends_of_build_eq_error {failure : Failure}
    (h : (build w.machine c.files c.shell).result = .error failure) :
    c.Ends w (.error failure) w := by
  have hprepare : (c.prepare w.machine).result = .error failure := by
    simp [prepare, h, Except.map]
  constructor <;> simp only [run, hprepare]

section Put

variable {output : Output} {after : World}

theorem Builds.prepare_eq (h : c.Builds w text) :
    (c.prepare w.machine).result = .ok (c.output text) := by
  simp [prepare, h.result_eq, Except.map]

theorem Builds.ends_of_put_eq_ok (h : c.Builds w text) (houtput : c.output text = output)
    (hput : w.put output = (.ok (), after)) : c.Ends w (.ok ()) after := by
  have hprepare := h.prepare_eq
  constructor <;> simp only [run, hprepare, houtput, hput, conclude]

theorem Builds.ends_of_put_eq_error {fault : Fault} (h : c.Builds w text)
    (houtput : c.output text = output) (hput : w.put output = (.error fault, after)) :
    c.Ends w (.error (.unwritable output.destination fault)) after := by
  have hprepare := h.prepare_eq
  constructor <;> simp only [run, hprepare, houtput, hput, conclude]

end Put

theorem output_of_out_eq_none (h : c.out = none) (text : String) :
    c.output text = ⟨.stdout, text ++ "\n"⟩ := by
  simp only [output, h]

theorem output_of_out_eq_some {path : String} (h : c.out = some path) (text : String) :
    c.output text = ⟨.file path, text⟩ := by
  simp only [output, h]

end Command

/-! ## The exit code -/

theorem Report.exitCode_eq_zero_iff {report : Report Unit} :
    report.exitCode = 0 ↔ report.result = .ok () := by
  unfold exitCode
  cases report.result <;> simp

theorem Report.exitCode_eq_one_iff {report : Report Unit} :
    report.exitCode = 1 ↔ report.result ≠ .ok () := by
  unfold exitCode
  cases report.result <;> simp

/-- A command line that can be used leads to a run of its command, and to nothing else. -/
theorem execute_of_ofArgs_eq_ok {args : List String} (h : Command.ofArgs args = .ok c)
    (console : Console) (w : World) :
    (execute args console w).code = (c.run w).1.exitCode ∧
      (execute args console w).world = (c.run w).2 := by
  constructor <;> simp only [execute, h]

/-! ## All or nothing -/

namespace Command

/-- What a run of the command does to a world, by how far it gets. -/
structure AllOrNothing (c : Command) (w : World) : Prop where
  /-- Documents that cannot be read, parsed or checked: one of them is reported, or what is wrong
  with all of them together, and the world stays as it was. -/
  unloaded : ∀ error, Config.load w.files.readText c.files w.pick = .error error →
    c.Ends w (.error (.load error)) w ∧
      ((∃ path ∈ c.files, loadDocument w.files.readText path = .error error) ∨
        ∃ docs, c.files.mapM (loadDocument w.files.readText) = .ok docs ∧
          Config.check (Toml.Table.mergeAll docs) = .error error)
  /-- A configuration that cannot be compiled. -/
  uncompiled : ∀ config error, Config.load w.files.readText c.files w.pick = .ok config →
    config.compile c.shell (.ofSigns w.signs) = .error error →
    c.Ends w (.error (.compile error)) w
  /-- Without a file to write, the script and a newline follow what has been put out before. -/
  shown : ∀ script, c.Builds w script → c.out = none → w.accept (script ++ "\n") = .ok () →
    c.Ends w (.ok ()) { w with stdout := w.stdout ++ (script ++ "\n").toUTF8 }
  /-- Standard output that breaks off. -/
  unshown : ∀ script fault, c.Builds w script → c.out = none →
    w.accept (script ++ "\n") = .error fault →
    ∃ room < (script ++ "\n").utf8ByteSize, c.Ends w (.error (.unwritable .stdout fault))
      { w with stdout := w.stdout ++ (script ++ "\n").toUTF8.extract 0 room }
  /-- The file holds the script, and whatever stands elsewhere in the tree is what stood there. -/
  written : ∀ script path place, c.Builds w script → c.out = some path →
    w.openFile path = .ok place → w.accept script = .ok () →
    ∃ files, c.Ends w (.ok ()) { w with files } ∧ files.readText path = .ok script ∧
      files.resolve path = .ok place ∧ w.files.WrittenAt files place script.toUTF8 ∧
      ∀ other held, w.files.read other = .ok held →
        files.read other = .ok held ∨ files.resolve other = .ok place
  /-- A file that cannot be opened. -/
  unopened : ∀ script path fault, c.Builds w script → c.out = some path →
    w.openFile path = .error fault → c.Ends w (.error (.unwritable (.file path) fault)) w
  /-- A file that takes a part of the script only; it is the one that has changed. -/
  unwritten : ∀ script path place fault, c.Builds w script → c.out = some path →
    w.openFile path = .ok place → w.accept script = .error fault →
    ∃ room < script.utf8ByteSize, ∃ files,
      c.Ends w (.error (.unwritable (.file path) fault)) { w with files } ∧
        w.files.WrittenAt files place (script.toUTF8.extract 0 room)
  /-- The exit code of the program tells success from failure, and the run is all it does. -/
  executed : ∀ args console, ofArgs args = .ok c →
    (execute args console w).world = (c.run w).2 ∧
      ((execute args console w).code = 0 ↔ (c.run w).1.result = .ok ()) ∧
      ((execute args console w).code = 1 ↔ (c.run w).1.result ≠ .ok ())

/-- Every run puts out all of the script or nothing, unless it is refused in the middle. -/
theorem run_allOrNothing (c : Command) (w : World) : c.AllOrNothing w where
  unloaded error hload :=
    ⟨ends_of_build_eq_error (result_build_of_load_eq_error hload),
      Config.exists_of_load_eq_error hload⟩
  uncompiled config error hload hcompile :=
    ends_of_build_eq_error (result_build_of_compile_eq_error hload hcompile)
  shown script hbuilds hout haccept := by
    rw [← World.taken_of_accept_eq_ok haccept]
    exact hbuilds.ends_of_put_eq_ok (output_of_out_eq_none hout _)
      (by simp only [World.put, haccept])
  unshown script fault hbuilds hout haccept := by
    obtain ⟨room, hroom, htaken⟩ := World.exists_taken_of_accept_eq_error haccept
    refine ⟨room, hroom, ?_⟩
    rw [← htaken]
    exact hbuilds.ends_of_put_eq_error (output_of_out_eq_none hout _)
      (by simp only [World.put, haccept])
  written script path place hbuilds hout hopen haccept := by
    obtain ⟨hresolve, hwritten⟩ :=
      FileTree.writtenAt_of_target (World.target_of_openFile_eq_ok hopen) script.toUTF8
    refine ⟨_, hbuilds.ends_of_put_eq_ok (output_of_out_eq_some hout _) ?_,
      hwritten.readText hresolve, hresolve, hwritten, fun _ _ ↦ hwritten.read_or_resolve⟩
    simp only [World.put, hopen, haccept, World.taken_of_accept_eq_ok haccept]
  unopened script path fault hbuilds hout hopen :=
    hbuilds.ends_of_put_eq_error (output_of_out_eq_some hout _) (by simp only [World.put, hopen])
  unwritten script path place fault hbuilds hout hopen haccept := by
    obtain ⟨room, hroom, htaken⟩ := World.exists_taken_of_accept_eq_error haccept
    refine ⟨room, hroom, _, hbuilds.ends_of_put_eq_error (output_of_out_eq_some hout _) ?_,
      (FileTree.writtenAt_of_target (World.target_of_openFile_eq_ok hopen) _).2⟩
    simp only [World.put, hopen, haccept, htaken]
  executed args console hargs := by
    obtain ⟨hcode, hworld⟩ := execute_of_ofArgs_eq_ok hargs console w
    rw [hcode]
    exact ⟨hworld, Report.exitCode_eq_zero_iff, Report.exitCode_eq_one_iff⟩

end Command

/-- Two documents, one of them in the working directory, where the source waits for itself, and a
file that cannot be read. -/
def World.desk : World where
  files :=
    { nodes := [
        (["etc"], .directory), (["home"], .directory),
        (["etc", "init.toml"], .file "[[paths]]\npath = \"/opt/bin\"\n".toUTF8 false),
        (["home", "loop.toml"],
          .file "[[sources]]\npath = \"a\"\nlabel = \"a\"\ndepends = \"a\"\n".toUTF8 false),
        (["home", "secret.toml"], .barred (.system 13))]
      workDirectory := ["home"] }
  stdout := "ready\n".toUTF8
  signs := { os := "linux", arch := "x86_64" }

/-- The same, but no output of more than six bytes is taken. -/
def World.fullDesk : World := { World.desk with limit := some ⟨6, .system 28⟩ }

/-- A run may replace one of its own documents, even by another path, or fail and leave it as it is,
or spoil it if there is too little space. -/
theorem Command.run_allOrNothing_desk :
    (∃ files, Ends ⟨["/etc/init.toml"], "bash", some "../etc/init.toml", false⟩ World.desk (.ok ())
        { World.desk with files } ∧
      files.readText "../etc/init.toml" = .ok "export PATH=/opt/bin:$PATH") ∧
    Ends ⟨["/etc/init.toml"], "bash", none, false⟩ World.desk (.ok ())
      { World.desk with
        stdout := "ready\n".toUTF8 ++ ("export PATH=/opt/bin:$PATH" ++ "\n").toUTF8 } ∧
    Ends ⟨["/etc/init.toml", "loop.toml"], "bash", some "/etc/init.toml", false⟩ World.desk
      (.error (.compile .circular)) World.desk ∧
    Ends ⟨["gone.toml", "secret.toml"], "bash", none, false⟩ { World.desk with pick := 1 }
      (.error (.load (.unreadable "secret.toml" (.system 13)))) { World.desk with pick := 1 } ∧
    Ends ⟨["/etc/init.toml"], "bash", some "gone/init.sh", false⟩ World.desk
      (.error (.unwritable (.file "gone/init.sh") .notFound)) World.desk ∧
    (∃ room < ("export PATH=/opt/bin:$PATH" ++ "\n").utf8ByteSize,
      Ends ⟨["/etc/init.toml"], "bash", none, false⟩ World.fullDesk
        (.error (.unwritable .stdout (.system 28)))
        { World.fullDesk with
          stdout := "ready\n".toUTF8 ++
            ("export PATH=/opt/bin:$PATH" ++ "\n").toUTF8.extract 0 room }) ∧
    (∃ room < "export PATH=/opt/bin:$PATH".utf8ByteSize, ∃ files,
      Ends ⟨["/etc/init.toml"], "bash", some "init.sh", false⟩ World.fullDesk
        (.error (.unwritable (.file "init.sh") (.system 28))) { World.fullDesk with files } ∧
      World.fullDesk.files.WrittenAt files ["home", "init.sh"]
        ("export PATH=/opt/bin:$PATH".toUTF8.extract 0 room)) ∧
    (execute ["-s", "bash", "/etc/init.toml", "-o", "../etc/init.toml"] {} World.desk).code = 0 := by
  have hload : Config.load World.desk.files.readText ["/etc/init.toml"] 0 =
      .ok { paths := [⟨"/opt/bin", {}⟩] } := by
    decide +kernel
  have hloop : Config.load World.desk.files.readText ["/etc/init.toml", "loop.toml"] 0 =
      .ok { paths := [⟨"/opt/bin", {}⟩]
            sources := [⟨"a", { label := some "a", depends := some (.one "a") }⟩] } := by
    decide +kernel
  have hcompile : Config.compile { paths := [⟨"/opt/bin", {}⟩] } "bash"
      (.ofSigns World.desk.signs) = .ok "export PATH=/opt/bin:$PATH" := by
    decide +kernel
  have hopen : World.desk.openFile "../etc/init.toml" = .ok ["etc", "init.toml"] := by
    decide +kernel
  have hfull : World.fullDesk.openFile "init.sh" = .ok ["home", "init.sh"] := by
    decide +kernel
  obtain ⟨files, hends, hread, _⟩ :=
    (run_allOrNothing ⟨["/etc/init.toml"], "bash", some "../etc/init.toml", false⟩
      World.desk).written _ _ _ ⟨_, hload, hcompile⟩ rfl hopen rfl
  refine ⟨⟨_, hends, hread⟩, ?shown, ?circular, ?unreadable, ?unopened, ?unshown, ?unwritten, ?code⟩
  case shown =>
    exact (run_allOrNothing _ World.desk).shown _ ⟨_, hload, hcompile⟩ rfl rfl
  case circular =>
    exact (run_allOrNothing _ World.desk).uncompiled _ _ hloop (by decide +kernel)
  case unreadable =>
    exact ((run_allOrNothing _ { World.desk with pick := 1 }).unloaded _ (by decide +kernel)).1
  case unopened =>
    exact (run_allOrNothing _ World.desk).unopened _ _ _ ⟨_, hload, hcompile⟩ rfl
      (by decide +kernel)
  case unshown =>
    exact (run_allOrNothing _ World.fullDesk).unshown _ _ ⟨_, hload, hcompile⟩ rfl
      (by decide +kernel)
  case unwritten =>
    exact (run_allOrNothing _ World.fullDesk).unwritten _ _ _ _ ⟨_, hload, hcompile⟩ rfl
      hfull (by decide +kernel)
  case code =>
    have hargs : ofArgs ["-s", "bash", "/etc/init.toml", "-o", "../etc/init.toml"] =
        .ok ⟨["/etc/init.toml"], "bash", some "../etc/init.toml", false⟩ := by
      decide +kernel
    exact ((run_allOrNothing _ World.desk).executed _ {} hargs).2.1.mpr hends.1

end ShellInit
