import ShellInit.Proofs.Compile.Guarding

/-!
# Guarded lines

A guard stands once before the command of a directive. A command of several lines has it before the
first one only, and the others run unguarded unless they begin with the guard themselves.
-/

namespace ShellInit

def textLines (text : String) : List String := (text.toList.splitOn '\n').map .ofList

def BeginsWith (guard line : String) : Prop := ∃ command, line = guard ++ command

theorem beginsWith_iff {guard line : String} :
    BeginsWith guard line ↔ guard.toList <+: line.toList := by
  constructor
  · rintro ⟨command, rfl⟩
    exact ⟨command.toList, String.toList_append.symm⟩
  · rintro ⟨command, hline⟩
    exact ⟨.ofList command, String.toList_injective (by simp [hline])⟩

instance (guard line : String) : Decidable (BeginsWith guard line) :=
  decidable_of_iff _ beginsWith_iff.symm

/-! ## Lines of texts -/

theorem textLines_of_not_mem {text : String} (h : '\n' ∉ text.toList) : textLines text = [text] := by
  rw [textLines, List.splitOn_eq_singleton h, List.map_singleton, String.ofList_toList]

/-- A newline separates the lines before it from those behind it. -/
theorem textLines_append_newline (s t : String) :
    textLines (s ++ "\n" ++ t) = textLines s ++ textLines t := by
  have hnewline : "\n".toList = ['\n'] := rfl
  simp only [textLines, String.toList_append, hnewline, List.append_assoc, List.singleton_append,
    List.splitOn_append_cons_self, List.map_append]

/-- The lines of a script are those of its parts, one part after the other. -/
theorem textLines_script {parts : List String} (h : parts ≠ []) :
    textLines (script parts) = parts.flatMap textLines := by
  induction parts with
  | nil => exact absurd rfl h
  | cons part parts ih =>
    cases parts with
    | nil => simp [script]
    | cons next parts =>
      rw [script, String.intercalate_cons_cons, textLines_append_newline, List.flatMap_cons]
      rw [script] at ih
      rw [ih (List.cons_ne_nil _ _)]

/-- What stands before the first newline is the first line. -/
theorem textLines_of_split {text : String} {front back : List Char}
    (hfront : '\n' ∉ front) (h : text.toList = front ++ '\n' :: back) :
    textLines text = .ofList front :: textLines (.ofList back) := by
  rw [textLines, textLines, h, List.splitOn_append_cons_self_of_not_mem hfront, List.map_cons,
    String.toList_ofList]

section Guards

variable {guard command : String}

/-- A guard of one line goes before the first line only. -/
theorem exists_textLines_append (h : '\n' ∉ guard.toList) (command : String) :
    ∃ first rest, textLines command = first :: rest ∧
      textLines (guard ++ command) = (guard ++ first) :: rest := by
  by_cases hcommand : '\n' ∈ command.toList
  · obtain ⟨front, back, hsplit, hfront⟩ := List.eq_append_cons_of_mem hcommand
    refine ⟨.ofList front, textLines (.ofList back), textLines_of_split hfront hsplit, ?_⟩
    have hlines : textLines (guard ++ command) =
        .ofList (guard.toList ++ front) :: textLines (.ofList back) := by
      apply textLines_of_split
      · rw [List.mem_append, not_or]
        exact ⟨h, hfront⟩
      · rw [String.toList_append, hsplit, List.append_assoc]
    rw [hlines, String.ofList_append, String.ofList_toList]
  · refine ⟨command, [], textLines_of_not_mem hcommand, textLines_of_not_mem ?_⟩
    rw [String.toList_append, List.mem_append, not_or]
    exact ⟨h, hcommand⟩

/-- All lines of a guarded command begin with the guard only if the guard is a single line. -/
theorem not_mem_of_beginsWith (h : ∀ line ∈ textLines (guard ++ command), BeginsWith guard line) :
    '\n' ∉ guard.toList := by
  intro hguard
  obtain ⟨front, back, hsplit, hfront⟩ := List.eq_append_cons_of_mem hguard
  have hlines : textLines (guard ++ command) =
      .ofList front :: textLines (.ofList (back ++ command.toList)) := by
    apply textLines_of_split hfront
    rw [String.toList_append, hsplit, List.append_assoc, List.cons_append]
  obtain ⟨rest, hrest⟩ := h (.ofList front) (hlines ▸ List.mem_cons_self)
  have hlength := congrArg (·.toList.length) hrest
  simp [hsplit] at hlength

/-- Of a command behind a guard all lines begin with the guard only if the guard is a single line,
and the later lines of the command begin with it by themselves. -/
theorem forall_beginsWith_iff :
    (∀ line ∈ textLines (guard ++ command), BeginsWith guard line) ↔
      '\n' ∉ guard.toList ∧ ∀ line ∈ (textLines command).tail, BeginsWith guard line := by
  constructor
  · intro h
    have hguard := not_mem_of_beginsWith h
    obtain ⟨first, rest, hcommand, hlines⟩ := exists_textLines_append hguard command
    rw [hlines, List.forall_mem_cons] at h
    rw [hcommand]
    exact ⟨hguard, h.2⟩
  · rintro ⟨hguard, htail⟩
    obtain ⟨first, rest, hcommand, hlines⟩ := exists_textLines_append hguard command
    rw [hcommand] at htail
    rw [hlines, List.forall_mem_cons]
    exact ⟨⟨first, rfl⟩, htail⟩

end Guards

/-! ## Lines of directives -/

namespace Directive

/-- Whether every line of the directive begins with its guards, as they stand before no command. -/
def IsGuarded (d : Directive) (dialect : Dialect) : Prop :=
  ∀ line ∈ textLines (d.line dialect), BeginsWith (d.guarded dialect "") line

instance (d : Directive) (dialect : Dialect) : Decidable (d.IsGuarded dialect) :=
  inferInstanceAs (Decidable (∀ line ∈ textLines (d.line dialect), _))

def texts (d : Directive) : List String :=
  d.options.ifExists.toList ++ d.options.ifExecutable.toList ++ d.action.fields.map Prod.snd

variable {d : Directive} {dialect : Dialect}

theorem newline_mem_command_iff :
    '\n' ∈ (d.command dialect).toList ↔ ∃ field ∈ d.action.fields, '\n' ∈ field.2.toList := by
  have htoString (text : String) : toString text = text := rfl
  rw [command]
  cases d.action with
  | run | sourceFile => simp [Action.render, Action.fields, Dialect.run, Dialect.sourceFile, htoString]
  | addPath =>
    cases dialect <;>
      simp [Action.render, Action.fields, Dialect.addPath_posix, Dialect.addPath_fish]
  | defineAlias =>
    cases dialect <;>
      simp [Action.render, Action.fields, Dialect.defineAlias, htoString, or_comm]
  | exportVariable =>
    cases dialect <;>
      simp [Action.render, Action.fields, Dialect.exportVariable_posix, Dialect.exportVariable_fish,
        or_comm]

/-- Guards are more than one line only if what they test is. -/
theorem newline_mem_guards_iff :
    '\n' ∈ (d.guards dialect).toList ↔
      ∃ text ∈ d.options.ifExists.toList ++ d.options.ifExecutable.toList, '\n' ∈ text.toList := by
  have htoString (text : String) : toString text = text := rfl
  rw [guards]
  cases d.options.ifExists <;> cases d.options.ifExecutable <;> cases dialect <;>
    simp [Dialect.existenceGuard, Dialect.executableGuard, htoString]

/-- A directive is written in a single line if all its texts are single lines. -/
theorem newline_mem_line_iff :
    '\n' ∈ (d.line dialect).toList ↔ ∃ text ∈ d.texts, '\n' ∈ text.toList := by
  rw [line, guarded_eq_append, String.toList_append, List.mem_append, newline_mem_guards_iff,
    newline_mem_command_iff]
  simp only [texts, List.mem_append, or_and_right, exists_or, List.mem_map, exists_exists_and_eq_and]

theorem line_eq_append : d.line dialect = d.guarded dialect "" ++ d.command dialect := by
  rw [line, guarded_eq_append, guarded_eq_append, String.append_empty]

/-- The guards are a single line, and the later lines of the command begin with them by
themselves. -/
theorem isGuarded_iff :
    d.IsGuarded dialect ↔
      '\n' ∉ (d.guarded dialect "").toList ∧
        ∀ line ∈ (textLines (d.command dialect)).tail, BeginsWith (d.guarded dialect "") line := by
  rw [IsGuarded, line_eq_append, forall_beginsWith_iff]

end Directive

/-! ## Lines of scripts -/

namespace Config

/-- The lines of a script are those of its directives. Of a directive, the first line begins with the
guards, and the others are those of the command as they stand: all lines are guarded only if the guards
have no newline and the command itself repeats them. Without newlines there is but one line. -/
theorem compile_guardedLines {c : Config} {shell : Shell} {platform : Platform} {text : String}
    (h : c.compile (tag shell) platform = .ok text) :
    ∃ out : List (Place × Directive),
      out.Perm (c.placed.filter (·.2.Applies shell platform)) ∧
      text = script (out.map (·.2.line shell.dialect)) ∧
      (out ≠ [] → textLines text = out.flatMap (textLines <| ·.2.line shell.dialect)) ∧
      ∀ x ∈ out,
        (x.2.IsGuarded shell.dialect ↔
          '\n' ∉ (x.2.guarded shell.dialect "").toList ∧
            ∀ line ∈ (textLines (x.2.command shell.dialect)).tail,
              BeginsWith (x.2.guarded shell.dialect "") line) ∧
        ('\n' ∉ (x.2.guarded shell.dialect "").toList →
          ∃ first rest, textLines (x.2.command shell.dialect) = first :: rest ∧
            textLines (x.2.line shell.dialect) =
              (x.2.guarded shell.dialect "" ++ first) :: rest) ∧
        ((∀ text ∈ x.2.texts, '\n' ∉ text.toList) →
          textLines (x.2.line shell.dialect) =
            [x.2.guarded shell.dialect "" ++ x.2.command shell.dialect]) := by
  obtain ⟨hdeclared, hacyclic⟩ := exists_compile_eq_ok_iff.mp ⟨text, h⟩
  have htext : text = script ((c.emitted shell platform).map (·.2.line shell.dialect)) :=
    Except.ok.inj (h.symm.trans (compile_of_not_cyclic hdeclared hacyclic))
  refine ⟨c.emitted shell platform, emitted_perm hacyclic, htext, ?_, ?_⟩
  · intro hne
    rw [htext, textLines_script (List.map_eq_nil_iff.not.mpr hne), List.flatMap_map]
  · rintro ⟨place, d⟩ _
    refine ⟨Directive.isGuarded_iff, ?_, ?_⟩
    · intro hguards
      rw [Directive.line_eq_append]
      exact exists_textLines_append hguards _
    · intro htexts
      rw [← Directive.line_eq_append]
      apply textLines_of_not_mem
      rw [Directive.newline_mem_line_iff]
      rintro ⟨text, hmem, hnewline⟩
      exact htexts text hmem hnewline

/-- Two commands for those who have the tool, written as one directive. -/
def toolCommands : Config where
  evaluates := [⟨"tool init\ntool start", { ifExecutable := some "tool" }⟩]

theorem compile_toolCommands :
    toolCommands.compile (tag Shell.bash) ⟨some .linux, some .x64⟩ =
      .ok "command -v tool >/dev/null 2>&1 && tool init\ntool start" := by
  decide +kernel

/-- Of the two commands, only the first stands behind the guard. -/
theorem compile_guardedLines_toolCommands :
    toolCommands.compile (tag Shell.bash) ⟨some .linux, some .x64⟩ =
        .ok "command -v tool >/dev/null 2>&1 && tool init\ntool start" ∧
      ∃ out : List (Place × Directive),
        out.Perm (toolCommands.placed.filter (·.2.Applies .bash ⟨some .linux, some .x64⟩)) ∧
        (out ≠ [] → textLines "command -v tool >/dev/null 2>&1 && tool init\ntool start" =
          out.flatMap (textLines <| ·.2.line .posix)) ∧
        ∀ x ∈ out, '\n' ∉ (x.2.guarded .posix "").toList →
          ∃ first rest, textLines (x.2.command .posix) = first :: rest ∧
            textLines (x.2.line .posix) = (x.2.guarded .posix "" ++ first) :: rest := by
  obtain ⟨out, hperm, _, hlines, hguards⟩ := compile_guardedLines compile_toolCommands
  exact ⟨compile_toolCommands, out, hperm, hlines, fun x hx ↦ (hguards x hx).2.1⟩

/-- The second command is written without the guard, and runs without the tool. -/
theorem toolCommands_unguarded :
    toolCommands.compile "bash" ⟨some .linux, some .x64⟩ =
        .ok "command -v tool >/dev/null 2>&1 && tool init\ntool start" ∧
      ∃ d ∈ toolCommands.kept .bash ⟨some .linux, some .x64⟩,
        d.options.ifExecutable = some "tool" ∧
        textLines (d.line .posix) =
          ["command -v tool >/dev/null 2>&1 && tool init", "tool start"] ∧
        ¬d.IsGuarded .posix := by
  refine ⟨compile_toolCommands, ⟨.run "tool init\ntool start", { ifExecutable := some "tool" }⟩,
    List.mem_singleton_self _, rfl, ?_, ?_⟩
  · decide +kernel
  · decide +kernel

end Config

end ShellInit
