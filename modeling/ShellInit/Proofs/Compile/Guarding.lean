import ShellInit.Proofs.Compile.Comparison
import ShellInit.Proofs.Compile.Place

/-!
# Guards

The guards of a directive are put in front of its command when the line is written, and are looked at
nowhere else. Without them the same error is met, or the same directives stand in the same order, each
line being what was behind its guards.
-/

namespace ShellInit

def Options.unguarded (o : Options) : Options :=
  { o with
    ifExecutable := none
    ifExists := none }

abbrev Directive.unguarded : Directive → Directive := Directive.mapOptions Options.unguarded

def Config.unguarded (c : Config) : Config := c.mapOptions Options.unguarded

/-- What stands before the command of a directive: the guard for the path that has to exist, then the
one for the executable, each if it is set. -/
def Directive.guards (d : Directive) (dialect : Dialect) : String :=
  d.options.ifExists.elim "" dialect.existenceGuard ++
    d.options.ifExecutable.elim "" dialect.executableGuard

namespace Directive

variable (d : Directive)

theorem depends_unguarded : d.unguarded.depends = d.depends := rfl

theorem applies_unguarded (shell : Shell) (platform : Platform) :
    d.unguarded.Applies shell platform ↔ d.Applies shell platform := Iff.rfl

theorem waitsFor_unguarded (e : Directive) : e.unguarded.waitsFor d.unguarded = e.waitsFor d := rfl

theorem line_unguarded (dialect : Dialect) : d.unguarded.line dialect = d.command dialect := rfl

/-- Guards are put in front, and do not look at the command. -/
theorem guarded_eq_append (dialect : Dialect) (command : String) :
    d.guarded dialect command = d.guards dialect ++ command := by
  rw [guarded, guards]
  cases d.options.ifExists <;> cases d.options.ifExecutable <;>
    simp [Dialect.ifExists, Dialect.ifExecutable, String.append_assoc]

/-- A line is what it is without guards, behind its guards. -/
theorem guards_append_line_unguarded (dialect : Dialect) :
    d.guards dialect ++ d.unguarded.line dialect = d.line dialect := by
  rw [line_unguarded, line, guarded_eq_append]

end Directive

namespace Config

theorem directives_unguarded (c : Config) :
    c.unguarded.directives = c.directives.map Directive.unguarded :=
  c.directives_mapOptions _

/-- Guards decide nothing about what applies. -/
theorem kept_unguarded (c : Config) (shell : Shell) (platform : Platform) :
    c.unguarded.kept shell platform = (c.kept shell platform).map Directive.unguarded :=
  kept_mapOptions (fun d ↦ d.applies_unguarded shell platform) c

/-- The same directive is refused, for the same label. -/
theorem firstUndeclared_unguarded (ds : List Directive) :
    firstUndeclared (ds.map Directive.unguarded) =
      (firstUndeclared ds).map fun x ↦ (x.1.unguarded, x.2) := by
  apply firstUndeclared_map id
  · intro d
    rw [List.map_id, Directive.depends_unguarded]
  · intro label
    rw [id, declares_congr]
    rw [List.map_map]
    rfl

/-- Without guards the same directives are planned in the same order. -/
theorem plan_unguarded (c : Config) (shell : Shell) (platform : Platform) :
    c.unguarded.plan shell platform =
      (c.plan shell platform).map (List.map Directive.unguarded) := by
  rw [plan_eq_match, plan_eq_match, directives_unguarded,
    firstUndeclared_unguarded, kept_unguarded,
    arrange_map fun d _ e _ ↦ d.waitsFor_unguarded e]
  cases firstUndeclared c.directives <;> rfl

/-- Guards decide neither whether there is a script nor why there is none, and change nothing in it
but what stands before the commands. -/
theorem compile_unguarded (c : Config) (name : String) (platform : Platform) :
    (∃ error, c.compile name platform = .error error ∧
        c.unguarded.compile name platform = .error error ∧
        ∀ label command, error = .undeclared label command →
          ∃ (shell : Shell) (d : Directive), tag shell = name ∧
            IsFirstUndeclared c.directives d label ∧ command = d.command shell.dialect) ∨
      ∃ (shell : Shell) (out : List (Place × Directive)), tag shell = name ∧
        out.Perm (c.placed.filter (·.2.Applies shell platform)) ∧
        c.plan shell platform = .ok (out.map Prod.snd) ∧
        c.unguarded.plan shell platform = .ok (out.map (·.2.unguarded)) ∧
        c.unguarded.compile name platform =
          .ok (script (out.map (·.2.unguarded.line shell.dialect))) ∧
        c.compile name platform =
          .ok (script (out.map fun x ↦
            x.2.guards shell.dialect ++ x.2.unguarded.line shell.dialect)) := by
  by_cases hname : name ∈ ["bash", "zsh", "fish"]
  · obtain ⟨shell, rfl⟩ := Shell.mem_names_iff.mp hname
    have hplan' := c.plan_unguarded shell platform
    cases hplan : c.plan shell platform with
    | error error =>
      left
      rw [hplan] at hplan'
      refine ⟨error, compile_tag_eq_error_iff.mpr hplan, compile_tag_eq_error_iff.mpr hplan', ?_⟩
      rintro label command rfl
      obtain ⟨d, hfirst, hcommand⟩ := plan_eq_error_undeclared_iff.mp hplan
      exact ⟨shell, d, rfl, hfirst, hcommand⟩
    | ok out =>
      right
      obtain ⟨hdeclared, hacyclic, _⟩ := plan_eq_ok_iff.mp hplan
      have hplan := plan_of_not_cyclic hdeclared hacyclic
      rw [hplan, Except.map, List.map_map] at hplan'
      refine ⟨shell, c.emitted shell platform, rfl, emitted_perm hacyclic, hplan, hplan', ?_, ?_⟩
      · rw [compile_tag, hplan', Except.map, List.map_map]
        rfl
      · simp only [Directive.guards_append_line_unguarded]
        exact compile_of_not_cyclic hdeclared hacyclic
  · left
    refine ⟨.unsupportedShell name, compile_of_not_mem c platform hname,
      compile_of_not_mem c.unguarded platform hname, ?_⟩
    rintro label command herror
    cases herror

example :
    prompt.unguarded.compile "bash" ⟨some .linux, some .x64⟩ =
      .ok "source ~/.colors\nexport PATH=/opt/bin:$PATH\neval prompt" := by
  decide +kernel

end Config

end ShellInit
