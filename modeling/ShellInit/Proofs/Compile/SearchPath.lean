import ShellInit.Proofs.Compile.Guarding
import ShellInit.Proofs.Compile.Target

/-!
# The search path

The commands of a script that only adds directories, read as updates of the list in which a shell
looks for executables. One dialect puts a directory in front of the list and the other behind it, so a
script for bash or zsh ends with its last directory first, and one for fish with its first directory
behind those that were there. From one configuration the two shells get the same list only if there is
no directory.
-/

namespace ShellInit

/-! ## Commands as updates -/

/-- What a command that adds a directory makes of the search path. -/
inductive Updates : String → List String → List String → Prop
  | front (directory : String) (path : List String) :
    Updates ("export PATH=" ++ directory ++ ":$PATH") path (directory :: path)
  | back (directory : String) (path : List String) :
    Updates ("set --path PATH $PATH " ++ directory) path (path ++ [directory])

/-- What commands make of the search path one after the other. -/
inductive Executes : List String → List String → List String → Prop
  | done (path : List String) : Executes [] path path
  | step {command : String} {commands path next final : List String}
    (first : Updates command path next) (rest : Executes commands next final) :
    Executes (command :: commands) path final

theorem executes_nil_iff {path final : List String} : Executes [] path final ↔ final = path := by
  constructor
  · rintro ⟨⟩
    rfl
  · rintro rfl
    exact .done final

theorem executes_cons_iff {command : String} {commands path final : List String} :
    Executes (command :: commands) path final ↔
      ∃ next, Updates command path next ∧ Executes commands next final := by
  constructor
  · rintro ⟨⟩
    exact ⟨_, ‹_›, ‹_›⟩
  · rintro ⟨_, first, rest⟩
    exact .step first rest

namespace Dialect

/-- The search path after directories have been added in turn. -/
def searchPath (d : Dialect) (directories path : List String) : List String :=
  match d with
  | .posix => directories.reverse ++ path
  | .fish => path ++ directories

@[simp] theorem searchPath_nil (d : Dialect) (path : List String) : d.searchPath [] path = path := by
  cases d <;> simp [searchPath]

/-- The first directory is added, and then the others. -/
theorem searchPath_cons (d : Dialect) (directory : String) (directories path : List String) :
    d.searchPath (directory :: directories) path =
      d.searchPath directories (d.searchPath [directory] path) := by
  cases d <;> simp [searchPath]

/-- A command that adds a directory tells which one. -/
theorem addPath_injective (d : Dialect) : Function.Injective d.addPath := by
  intro directory other h
  cases d with
  | posix =>
    rwa [addPath_posix, addPath_posix, String.append_left_inj, String.append_right_inj] at h
  | fish => rwa [addPath_fish, addPath_fish, String.append_right_inj] at h

/-- The two dialects never write the same command. -/
theorem addPath_posix_ne_addPath_fish (directory other : String) :
    posix.addPath directory ≠ fish.addPath other := by
  intro h
  have hchars := congrArg String.toList h
  simp [addPath_posix, addPath_fish, String.toList_append] at hchars

/-- One command adds its directory where the dialect puts it. -/
theorem updates_addPath_iff {d : Dialect} {directory : String} {path next : List String} :
    Updates (d.addPath directory) path next ↔ next = d.searchPath [directory] path := by
  constructor
  · generalize hcommand : d.addPath directory = command
    intro hupdates
    cases hupdates with
    | front other =>
      rw [← addPath_posix] at hcommand
      cases d with
      | posix =>
        rw [posix.addPath_injective hcommand]
        rfl
      | fish => exact absurd hcommand.symm (addPath_posix_ne_addPath_fish other directory)
    | back other =>
      rw [← addPath_fish] at hcommand
      cases d with
      | posix => exact absurd hcommand (addPath_posix_ne_addPath_fish directory other)
      | fish =>
        rw [fish.addPath_injective hcommand]
        rfl
  · rintro rfl
    cases d with
    | posix => exact .front directory path
    | fish => exact .back directory path

/-- The commands for directories have one result, the directories added in turn. -/
theorem executes_map_addPath_iff {d : Dialect} {directories path final : List String} :
    Executes (directories.map d.addPath) path final ↔ final = d.searchPath directories path := by
  induction directories generalizing path with
  | nil => rw [List.map_nil, executes_nil_iff, searchPath_nil]
  | cons directory directories ih =>
    rw [List.map_cons, executes_cons_iff, searchPath_cons]
    simp only [updates_addPath_iff, exists_eq_left, ih]

/-- In front and behind are the same for every list only if nothing is added. -/
theorem eq_nil_of_searchPath_eq {directories : List String}
    (h : ∀ path, posix.searchPath directories path = fish.searchPath directories path) :
    directories = [] := by
  induction directories using List.reverseRecOn with
  | nil => rfl
  | append_singleton directories last =>
    -- a directory that is already there, and longer than the last one, stays first in fish
    have hheads : last = last ++ "/" := by
      simpa [searchPath] using congrArg List.head? (h [last ++ "/"])
    have hlengths := congrArg String.length hheads
    simp at hlengths

/-- Two dialects make the same of every search path only if they are the same, or nothing is
added. -/
theorem executes_congr_iff {d₁ d₂ : Dialect} {directories : List String} :
    (∀ path final, Executes (directories.map d₁.addPath) path final ↔
        Executes (directories.map d₂.addPath) path final) ↔
      d₁ = d₂ ∨ directories = [] := by
  simp only [executes_map_addPath_iff]
  constructor
  · intro h
    have hpath (path : List String) :
        d₁.searchPath directories path = d₂.searchPath directories path := (h path _).mp rfl
    cases d₁ <;> cases d₂
    · exact .inl rfl
    · exact .inr (eq_nil_of_searchPath_eq hpath)
    · exact .inr (eq_nil_of_searchPath_eq fun path ↦ (hpath path).symm)
    · exact .inl rfl
  · rintro (rfl | rfl) path final
    · rfl
    · simp

end Dialect

/-! ## Scripts that add directories -/

theorem Action.kind_eq_paths_iff {a : Action} : a.kind = .paths ↔ a ∈ Set.range addPath := by
  cases a <;> simp [kind]

/-- A directive that adds a directory, whatever is there when the shell starts. -/
def Directive.AddsAlways (d : Directive) : Prop := d.action.kind = .paths ∧ d.unguarded = d

instance (d : Directive) : Decidable d.AddsAlways := inferInstanceAs (Decidable (_ ∧ _))

theorem Directive.AddsAlways.line_eq {d : Directive} (h : d.AddsAlways) (dialect : Dialect) :
    d.line dialect = d.action.render dialect := by
  conv_lhs => rw [← h.2]
  exact d.line_unguarded dialect

/-- The lines of directives that only add directories, and the directories. -/
theorem exists_map_line_eq {out : List (Config.Place × Directive)}
    (h : ∀ x ∈ out, x.2.AddsAlways) :
    ∃ directories : List String, out.map (·.2.action) = directories.map .addPath ∧
      ∀ dialect : Dialect, out.map (·.2.line dialect) = directories.map dialect.addPath := by
  have hrange : out.map (·.2.action) ∈ Set.range (List.map Action.addPath) := by
    rw [Set.range_list_map]
    simp only [Set.mem_ofPred_eq, List.forall_mem_map]
    intro x hx
    exact Action.kind_eq_paths_iff.mp (h x hx).1
  obtain ⟨directories, hactions⟩ := hrange
  refine ⟨directories, hactions.symm, fun dialect ↦ ?_⟩
  calc
    out.map (·.2.line dialect) = out.map fun x ↦ x.2.action.render dialect :=
      List.map_congr_left fun x hx ↦ (h x hx).line_eq dialect
    _ = (out.map (·.2.action)).map (Action.render dialect) := by
      rw [List.map_map]
      rfl
    _ = directories.map dialect.addPath := by
      rw [← hactions, List.map_map]
      rfl

namespace Config

/-- Directories alone are emitted in the same order for two shells for which the same apply. What
their commands make of the search path depends on the dialect: both shells end with the same list,
whatever they start from, only if they have one dialect, or nothing is emitted. -/
theorem compile_paths (c : Config) (s₁ s₂ : Shell) (platform : Platform)
    (happlies : ∀ d ∈ c.directives, d.Applies s₁ platform ↔ d.Applies s₂ platform)
    (hadds : ∀ d ∈ c.directives, d.Applies s₁ platform → d.AddsAlways)
    (hok : ∃ text, c.compile (tag s₁) platform = .ok text) :
    ∃ (out : List (Place × Directive)) (directories : List String),
      out.Perm (c.placed.filter (·.2.Applies s₁ platform)) ∧
      out.map (·.2.action) = directories.map .addPath ∧
      (∀ s ∈ [s₁, s₂],
        c.plan s platform = .ok (out.map Prod.snd) ∧
        c.compile (tag s) platform = .ok (script (directories.map s.dialect.addPath)) ∧
        ∀ path final, Executes (directories.map s.dialect.addPath) path final ↔
          final = s.dialect.searchPath directories path) ∧
      ((∀ path final, Executes (directories.map s₁.dialect.addPath) path final ↔
          Executes (directories.map s₂.dialect.addPath) path final) ↔
        s₁.dialect = s₂.dialect ∨ directories = []) := by
  obtain ⟨hdeclared, hacyclic⟩ := exists_compile_eq_ok_iff.mp hok
  have hperm := emitted_perm hacyclic
  have hemitted : ∀ x ∈ c.emitted s₁ platform, x.2.AddsAlways := by
    intro x hx
    have hkept := List.mem_filter.mp (hperm.mem_iff.mp hx)
    exact hadds x.2 (mem_directives_of_mem_placed hkept.1) (of_decide_eq_true hkept.2)
  obtain ⟨directories, hactions, hlines⟩ := exists_map_line_eq hemitted
  refine ⟨c.emitted s₁ platform, directories, hperm, hactions, ?_, Dialect.executes_congr_iff⟩
  intro s hs
  have hsame : ∀ d ∈ c.directives, d.Applies s₁ platform ↔ d.Applies s platform := by
    rcases List.mem_pair.mp hs with rfl | rfl
    · exact fun _ _ ↦ .rfl
    · exact happlies
  rw [kept_congr hsame] at hacyclic
  rw [emitted_congr hsame] at hlines ⊢
  refine ⟨plan_of_not_cyclic hdeclared hacyclic, ?_, fun _ _ ↦ Dialect.executes_map_addPath_iff⟩
  rw [compile_of_not_cyclic hdeclared hacyclic, hlines]

/-- Two directories, the first of which waits for the second. -/
def toolPaths : Config where
  paths := [⟨"/opt/bin", { depends := some (.one "tools") }⟩,
    ⟨"/srv/bin", { label := some "tools" }⟩]

/-- Zsh and fish add them in one order, and differ in the search path that this makes. -/
theorem compile_paths_toolPaths :
    ∃ directories : List String,
      "export PATH=/srv/bin:$PATH\nexport PATH=/opt/bin:$PATH" =
        script (directories.map Dialect.posix.addPath) ∧
      "set --path PATH $PATH /srv/bin\nset --path PATH $PATH /opt/bin" =
        script (directories.map Dialect.fish.addPath) ∧
      ((∀ path final, Executes (directories.map Dialect.posix.addPath) path final ↔
          Executes (directories.map Dialect.fish.addPath) path final) ↔
        Dialect.posix = Dialect.fish ∨ directories = []) := by
  have hzsh : toolPaths.compile (tag Shell.zsh) ⟨none, none⟩ =
      .ok "export PATH=/srv/bin:$PATH\nexport PATH=/opt/bin:$PATH" := by
    decide +kernel
  have hfish : toolPaths.compile (tag Shell.fish) ⟨none, none⟩ =
      .ok "set --path PATH $PATH /srv/bin\nset --path PATH $PATH /opt/bin" := by
    decide +kernel
  obtain ⟨_, directories, _, _, hscripts, hsame⟩ :=
    compile_paths toolPaths .zsh .fish ⟨none, none⟩ (by decide) (by decide) ⟨_, hzsh⟩
  obtain ⟨_, hzsh', _⟩ := hscripts .zsh (by decide)
  obtain ⟨_, hfish', _⟩ := hscripts .fish (by decide)
  exact ⟨directories, Except.ok.inj (hzsh.symm.trans hzsh'),
    Except.ok.inj (hfish.symm.trans hfish'), hsame⟩

/-- One directory, for every shell. -/
def onePath : Config where
  paths := [⟨"/opt/bin", {}⟩]

/-- The directory shadows what is there in bash, and is shadowed by it in fish. -/
theorem executes_onePath :
    (∀ d ∈ onePath.directives, d.AddsAlways ∧ ∀ shell platform, d.Applies shell platform) ∧
    onePath.compile (tag Shell.bash) ⟨some .linux, some .x64⟩ =
      .ok (script ["export PATH=/opt/bin:$PATH"]) ∧
    onePath.compile (tag Shell.fish) ⟨some .linux, some .x64⟩ =
      .ok (script ["set --path PATH $PATH /opt/bin"]) ∧
    (∀ final, Executes ["export PATH=/opt/bin:$PATH"] ["/bin"] final ↔
      final = ["/opt/bin", "/bin"]) ∧
    (∀ final, Executes ["set --path PATH $PATH /opt/bin"] ["/bin"] final ↔
      final = ["/bin", "/opt/bin"]) ∧
    ["/opt/bin", "/bin"] ≠ ["/bin", "/opt/bin"] := by
  refine ⟨?_, by decide +kernel, by decide +kernel, ?_, ?_, by decide⟩
  · intro d hd
    rw [List.mem_singleton.mp hd]
    exact ⟨by decide, fun _ _ ↦ ⟨nofun, nofun, nofun⟩⟩
  · intro final
    have hcommands : ["export PATH=/opt/bin:$PATH"] = ["/opt/bin"].map Dialect.posix.addPath := by
      decide
    rw [hcommands, Dialect.executes_map_addPath_iff]
    rfl
  · intro final
    have hcommands : ["set --path PATH $PATH /opt/bin"] =
        ["/opt/bin"].map Dialect.fish.addPath := by
      decide
    rw [hcommands, Dialect.executes_map_addPath_iff]
    rfl

end Config

end ShellInit
