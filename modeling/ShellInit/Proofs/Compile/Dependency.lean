import ShellInit.Proofs.Compile.Comparison
import ShellInit.Proofs.Compile.Place
import ShellInit.Proofs.Order.Shortcut

/-!
# Adding a dependency

A directive that waits for a label over others may as well wait for it itself: the new edges are
shortcuts of the graph, so no line of the script moves, and neither a circle nor an undeclared label
can come in.
-/

open Relation

namespace ShellInit

/-! ## Other dependencies -/

def Options.withDepends (depends : Selection String) (o : Options) : Options :=
  { o with depends := some depends }

def Directive.withDepends (depends : Selection String) (d : Directive) : Directive :=
  { d with options := d.options.withDepends depends }

/-- A list of a configuration with other dependencies for the item at a place. -/
def Declared.withDepends {α : Type} (place : Config.Place) (depends : Selection String)
    (kind : Kind) (items : List (Declared α)) : List (Declared α) :=
  items.zipIdx.map fun (item, i) ↦
    if (kind, i) = place then { item with options := item.options.withDepends depends } else item

theorem Directive.depends_withDepends (depends : Selection String) (d : Directive) :
    (d.withDepends depends).depends = depends.toList := rfl

namespace Config

def withDepends (c : Config) (place : Place) (depends : Selection String) : Config where
  evaluates := Declared.withDepends place depends .evaluates c.evaluates
  sources := Declared.withDepends place depends .sources c.sources
  aliases := Declared.withDepends place depends .aliases c.aliases
  environments := Declared.withDepends place depends .environments c.environments
  paths := Declared.withDepends place depends .paths c.paths

/-- A placed directive with the other dependencies, if it is at the place. -/
def redirected (place : Place) (depends : Selection String) (x : Place × Directive) : Directive :=
  if x.1 = place then x.2.withDepends depends else x.2

end Config

theorem Declared.map_withDepends {α : Type} (action : α → Action) (place : Config.Place)
    (depends : Selection String) (kind : Kind) (items : List (Declared α)) :
    (Declared.withDepends place depends kind items).map (Declared.directive action) =
      ((items.map (Declared.directive action)).zipIdx.map fun (d, i) ↦ ((kind, i), d)).map
        (Config.redirected place depends) := by
  simp only [withDepends, List.zipIdx_map, List.map_map]
  apply List.map_congr_left
  rintro ⟨item, i⟩ _
  by_cases hplace : (kind, i) = place
  · simp [Config.redirected, hplace, Declared.directive, Directive.withDepends]
  · simp [Config.redirected, hplace]

namespace Config

variable {c : Config} {shell : Shell} {platform : Platform} {place : Place}
  {depends : Selection String}

/-- The directives are those that were placed, one of them with other dependencies. -/
theorem directives_withDepends (c : Config) (place : Place) (depends : Selection String) :
    (c.withDepends place depends).directives = c.placed.map (redirected place depends) := by
  simp only [directives, placed, List.map_flatMap]
  congr 1
  funext kind
  cases kind <;> exact Declared.map_withDepends _ place depends _ _

section Redirected

variable (place : Place) (depends : Selection String) (x : Place × Directive)

@[simp]
theorem label_redirected : (redirected place depends x).label = x.2.label := by
  rw [redirected]
  split <;> rfl

@[simp]
theorem command_redirected (dialect : Dialect) :
    (redirected place depends x).command dialect = x.2.command dialect := by
  rw [redirected]
  split <;> rfl

@[simp]
theorem line_redirected (dialect : Dialect) :
    (redirected place depends x).line dialect = x.2.line dialect := by
  rw [redirected]
  split <;> rfl

theorem applies_redirected (shell : Shell) (platform : Platform) :
    (redirected place depends x).Applies shell platform ↔ x.2.Applies shell platform := by
  rw [redirected]
  split <;> rfl

end Redirected

/-- The same directives apply, whatever they wait for. -/
theorem kept_withDepends (c : Config) (place : Place) (depends : Selection String) (shell : Shell)
    (platform : Platform) :
    (c.withDepends place depends).kept shell platform =
      (c.placed.filter (·.2.Applies shell platform)).map (redirected place depends) := by
  rw [kept_eq_filter, directives_withDepends, List.filter_map]
  congr 1
  apply List.filter_congr
  intro x _
  simp [applies_redirected]

end Config

/-! ## Shortcuts -/

section Items

variable {α : Type} {f g : α → Directive} {items : List α}

/-- Directives that wait for others anew wait for them over others already. -/
theorem addsShortcuts_dependents
    (hkept : ∀ x ∈ items, ∀ y ∈ items,
      (g y).waitsFor (g x) = true → (f y).waitsFor (f x) = true)
    (hadded : ∀ x ∈ items, ∀ y ∈ items,
      (f y).waitsFor (f x) = true → TransGen (Gates (items.map g)) (g x) (g y)) :
    AddsShortcuts (dependents (items.map g)) (dependents (items.map f)) where
  length_eq := by simp
  filter_targets u := by
    rw [targets_dependents, targets_dependents, List.filter_filter, List.length_map,
      List.length_map]
    apply List.filter_congr
    intro v hv
    rw [← Bool.coe_iff_coe, Bool.and_eq_true, decide_eq_true_iff, List.mem_filter]
    constructor
    · rintro ⟨⟨_, hwaits⟩, _⟩
      exact hwaits
    · intro hwaits
      refine ⟨⟨hv, hwaits⟩, ?_⟩
      rw [waitsAt_eq_true_iff] at hwaits ⊢
      simp only [List.getElem?_map, Option.map_eq_some_iff] at hwaits ⊢
      obtain ⟨_, _, ⟨x, hx, rfl⟩, ⟨y, hy, rfl⟩, hwaits⟩ := hwaits
      exact ⟨_, _, ⟨x, hx, rfl⟩, ⟨y, hy, rfl⟩,
        hkept x (List.mem_of_getElem? hx) y (List.mem_of_getElem? hy) hwaits⟩
  path u v hedge := by
    obtain ⟨_, _, hd, he, hwaits⟩ := isEdge_dependents_iff.mp hedge
    rw [List.getElem?_map, Option.map_eq_some_iff] at hd he
    obtain ⟨x, hx, rfl⟩ := hd
    obtain ⟨y, hy, rfl⟩ := he
    have hpath := hadded x (List.mem_of_getElem? hx) y (List.mem_of_getElem? hy) hwaits
    exact isEdge_of_gates hpath (by simp [hx]) (by simp [hy])

end Items

namespace Config

section Added

variable {c : Config} {shell : Shell} {platform : Platform} {place : Place} {e : Directive}
  {label : String} {before after : List String} {depends : Selection String}
  (he : (place, e) ∈ c.placed) (hold : e.depends = before ++ after)
  (hnew : depends.toList = before ++ label :: after)

include he hold hnew

/-- The directive at the place waits for one more label, and nothing else changes. -/
theorem mem_depends_redirected {x : Place × Directive} (hx : x ∈ c.placed) {other : String} :
    other ∈ (redirected place depends x).depends ↔
      other ∈ x.2.depends ∨ x.1 = place ∧ other = label := by
  rcases x with ⟨place', d⟩
  rw [redirected]
  split
  case isTrue hplace =>
    obtain rfl : place' = place := hplace
    obtain rfl : d = e := eq_of_mem_placed hx he
    rw [Directive.depends_withDepends, hnew, hold, List.mem_append, List.mem_append, List.mem_cons]
    tauto
  case isFalse hplace =>
    constructor
    · exact .inl
    · rintro (hother | ⟨hplace', _⟩)
      · exact hother
      · exact absurd hplace' hplace

/-- A declared label more does not change which one of a directive is refused. -/
theorem find?_depends_redirected (hlabel : IsDeclared c.directives label) {x : Place × Directive}
    (hx : x ∈ c.placed) :
    (redirected place depends x).depends.find? (!declares c.directives ·) =
      x.2.depends.find? (!declares c.directives ·) := by
  rcases x with ⟨place', d⟩
  rw [redirected]
  split
  case isTrue hplace =>
    obtain rfl : place' = place := hplace
    obtain rfl : d = e := eq_of_mem_placed hx he
    have hdeclares := declares_eq_true_iff.mpr hlabel
    rw [Directive.depends_withDepends, hnew, hold, List.find?_append, List.find?_append,
      List.find?_cons_of_neg (by simp [hdeclares])]
  case isFalse => rfl

/-- A declared label more makes no difference to what is refused. -/
theorem map_firstUndeclared_withDepends (hlabel : IsDeclared c.directives label)
    (dialect : Dialect) :
    (firstUndeclared (c.withDepends place depends).directives).map
        (fun x ↦ CompileError.undeclared x.2 (x.1.command dialect)) =
      (firstUndeclared c.directives).map
        fun x ↦ CompileError.undeclared x.2 (x.1.command dialect) := by
  rw [directives_withDepends, ← map_snd_placed]
  apply map_firstUndeclared_congr
  · intro x _
    exact label_redirected place depends x
  · intro x _ other
    rw [command_redirected]
  · intro x hx
    rw [map_snd_placed]
    exact find?_depends_redirected he hold hnew hlabel hx

/-- If the directive waits for the label over others already, the new edges are shortcuts. -/
theorem addsShortcuts_redirected
    (hawaited : e.Applies shell platform → ∀ d ∈ c.kept shell platform, d.label = label →
      TransGen (Gates (c.kept shell platform)) d e) :
    AddsShortcuts (dependents ((c.placed.filter (·.2.Applies shell platform)).map Prod.snd))
      (dependents ((c.placed.filter (·.2.Applies shell platform)).map
        (redirected place depends))) := by
  rw [kept_eq_map_placed] at hawaited
  apply addsShortcuts_dependents
  · intro x _ y hy hwaits
    rw [Directive.waitsFor_iff] at hwaits ⊢
    rw [label_redirected, mem_depends_redirected he hold hnew (List.mem_of_mem_filter hy)]
    exact ⟨hwaits.1, .inl hwaits.2⟩
  · intro x hx y hy hwaits
    rw [Directive.waitsFor_iff, label_redirected,
      mem_depends_redirected he hold hnew (List.mem_of_mem_filter hy)] at hwaits
    have hx' := List.mem_map_of_mem (f := Prod.snd) hx
    have hy' := List.mem_map_of_mem (f := Prod.snd) hy
    obtain ⟨hne, hdepends | ⟨hplace, heq⟩⟩ := hwaits
    · exact .single ⟨hx', hy', hne, hdepends⟩
    · rcases y with ⟨place', d⟩
      obtain rfl : place' = place := hplace
      obtain rfl : d = e := eq_of_mem_placed (List.mem_of_mem_filter hy) he
      exact hawaited (by simpa using List.of_mem_filter hy) x.2 hx' heq

end Added

/-- A directive that waits for all directives with a label, if only over others, may name the label
too: the outcome is the same. -/
theorem compile_withDepends (c : Config) {place : Place} {e : Directive}
    (he : (place, e) ∈ c.placed) {label : String} (hlabel : IsDeclared c.directives label)
    {before after : List String} (hold : e.depends = before ++ after)
    {depends : Selection String} (hnew : depends.toList = before ++ label :: after)
    (shell : Shell) (platform : Platform)
    (hawaited : e.Applies shell platform →
      ∀ d ∈ c.directives.filter (·.Applies shell platform), d.label = label →
        TransGen (Gates (c.directives.filter (·.Applies shell platform))) d e) :
    (c.withDepends place depends).compile (tag shell) platform =
      c.compile (tag shell) platform := by
  rw [← kept_eq_filter] at hawaited
  have hshortcuts := addsShortcuts_redirected he hold hnew hawaited
  have hlines := map_arrange_congr (·.line shell.dialect) hshortcuts.releaseOrder_eq
    fun x _ ↦ line_redirected place depends x shell.dialect
  rw [compile_tag_eq_match, compile_tag_eq_match,
    map_firstUndeclared_withDepends he hold hnew hlabel, kept_withDepends, hlines,
    kept_eq_map_placed]

/-- A prompt that waits for tools, which wait for their directory. -/
def staged : Config where
  evaluates := [⟨"eval prompt", { depends := some (.one "tools") }⟩]
  sources := [⟨"~/.tools", { label := some "tools", depends := some (.one "directory") }⟩]
  paths := [⟨"/opt/bin", { label := some "directory" }⟩]

/-- The prompt may wait for the directory itself, but nothing else comes of it. -/
theorem compile_withDepends_staged :
    TransGen (Gates (staged.directives.filter (·.Applies .zsh ⟨none, none⟩)))
        ⟨.addPath "/opt/bin", { label := some "directory" }⟩
        ⟨.run "eval prompt", { depends := some (.one "tools") }⟩ ∧
      (staged.withDepends (.evaluates, 0) (.many ["tools", "directory"])).compile (tag Shell.zsh)
          ⟨none, none⟩ = staged.compile (tag Shell.zsh) ⟨none, none⟩ ∧
      staged.compile (tag Shell.zsh) ⟨none, none⟩ =
        .ok "export PATH=/opt/bin:$PATH\nsource ~/.tools\neval prompt" := by
  have hfirst : Gates (staged.directives.filter (·.Applies .zsh ⟨none, none⟩))
      ⟨.addPath "/opt/bin", { label := some "directory" }⟩
      ⟨.sourceFile "~/.tools", { label := some "tools", depends := some (.one "directory") }⟩ := by
    unfold Gates
    decide
  have hsecond : Gates (staged.directives.filter (·.Applies .zsh ⟨none, none⟩))
      ⟨.sourceFile "~/.tools", { label := some "tools", depends := some (.one "directory") }⟩
      ⟨.run "eval prompt", { depends := some (.one "tools") }⟩ := by
    unfold Gates
    decide
  have hpath := TransGen.tail (.single hfirst) hsecond
  have honly : ∀ d ∈ staged.directives.filter (·.Applies .zsh ⟨none, none⟩),
      d.label = "directory" → d = ⟨.addPath "/opt/bin", { label := some "directory" }⟩ := by
    decide
  have hplaced : (((.evaluates, 0) : Place),
      (⟨.run "eval prompt", { depends := some (.one "tools") }⟩ : Directive)) ∈ staged.placed := by
    decide
  have hdeclared : IsDeclared staged.directives "directory" := by
    unfold IsDeclared
    decide
  have hold : (⟨.run "eval prompt", { depends := some (.one "tools") }⟩ : Directive).depends =
      ["tools"] ++ [] := rfl
  have hnew : (Selection.many ["tools", "directory"]).toList = ["tools"] ++ "directory" :: [] := rfl
  refine ⟨hpath, ?_, by decide +kernel⟩
  apply compile_withDepends staged hplaced hdeclared hold hnew
  intro _ d hd hlabel
  rw [honly d hd hlabel]
  exact hpath

end Config

end ShellInit
