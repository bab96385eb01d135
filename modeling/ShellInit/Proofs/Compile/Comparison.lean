import ShellInit.Proofs.Compile.Outcome

/-!
# Comparing configurations

Two configurations are compared item by item, where an item is a directive of the one and a directive
of the other: what the two directives of each item have in common, the outcomes have in common.
-/

namespace ShellInit

/-! ## Other options -/

def Declared.mapOptions {α : Type} (g : Options → Options) (item : Declared α) : Declared α :=
  { item with options := g item.options }

def Directive.mapOptions (g : Options → Options) (d : Directive) : Directive :=
  { d with options := g d.options }

/-- The configuration with the options of each directive changed alike. -/
def Config.mapOptions (g : Options → Options) (c : Config) : Config where
  evaluates := c.evaluates.map (Declared.mapOptions g)
  sources := c.sources.map (Declared.mapOptions g)
  aliases := c.aliases.map (Declared.mapOptions g)
  environments := c.environments.map (Declared.mapOptions g)
  paths := c.paths.map (Declared.mapOptions g)

theorem Config.directives_mapOptions (g : Options → Options) (c : Config) :
    (c.mapOptions g).directives = c.directives.map (Directive.mapOptions g) := by
  simp only [directives, List.map_flatMap]
  congr 1
  funext kind
  cases kind <;> simp only [ofKind, mapOptions, List.map_map] <;> rfl

/-- What applies with other options is what applied, if the options leave that as it is. -/
theorem Config.kept_mapOptions {g : Options → Options} {shell : Shell} {platform : Platform}
    (happlies : ∀ d : Directive,
      (d.mapOptions g).Applies shell platform ↔ d.Applies shell platform)
    (c : Config) :
    (c.mapOptions g).kept shell platform =
      (c.kept shell platform).map (Directive.mapOptions g) := by
  rw [kept_eq_filter, kept_eq_filter, directives_mapOptions, List.filter_map]
  congr 1
  apply List.filter_congr
  intro d _
  exact decide_eq_decide.mpr (happlies d)

/-! ## The same outcome -/

/-- Which labels can be waited for depends on the labels alone. -/
theorem declares_congr {ds ds' : List Directive}
    (h : ds.map Directive.label = ds'.map Directive.label) : declares ds = declares ds' := by
  have hlabels (ds : List Directive) (label : String) :
      declares ds label = (ds.map Directive.label).any fun own ↦ own ≠ "" && own == label := by
    rw [declares, List.any_map]
    rfl
  funext label
  rw [hlabels, hlabels, h]

/-- The same directive is refused, for the same of its labels under another name, if labels remain
declared under their other names. -/
theorem firstUndeclared_map {g : Directive → Directive} (relabel : String → String)
    {ds : List Directive} (hdepends : ∀ d, (g d).depends = d.depends.map relabel)
    (hdeclares : ∀ label, declares (ds.map g) (relabel label) = declares ds label) :
    firstUndeclared (ds.map g) = (firstUndeclared ds).map fun x ↦ (g x.1, relabel x.2) := by
  have hfind (d : Directive) :
      (g d).depends.find? (fun label ↦ !declares (ds.map g) label) =
        (d.depends.find? fun label ↦ !declares ds label).map relabel := by
    rw [hdepends, List.find?_map]
    simp only [Function.comp_def, hdeclares]
  simp only [firstUndeclared, List.findSome?_map, List.map_findSome?, Function.comp_def, hfind,
    Option.map_map]

section Items

variable {α : Type} {f g : α → Directive} {items : List α}

/-- The label that is refused, and how, if the same label of each directive is undeclared. -/
theorem map_firstUndeclared_congr {β : Type} {refuse : Directive × String → β}
    (hlabel : ∀ x ∈ items, (f x).label = (g x).label)
    (hrefuse : ∀ x ∈ items, ∀ label, refuse (f x, label) = refuse (g x, label))
    (hfirst : ∀ x ∈ items, (f x).depends.find? (!declares (items.map g) ·) =
      (g x).depends.find? (!declares (items.map g) ·)) :
    (firstUndeclared (items.map f)).map refuse = (firstUndeclared (items.map g)).map refuse := by
  have hdeclares : declares (items.map f) = declares (items.map g) := by
    apply declares_congr
    rw [List.map_map, List.map_map]
    exact List.map_congr_left hlabel
  have hsome (h : α → Directive) :
      (firstUndeclared (items.map h)).map refuse =
        (items.map fun x ↦ ((h x).depends.find? (!declares (items.map h) ·)).map
          fun label ↦ refuse (h x, label)).findSome? id := by
    simp only [firstUndeclared, List.map_findSome?, List.findSome?_map, Function.comp_def,
      Option.map_map, id]
  rw [hsome, hsome, hdeclares]
  congr 1
  apply List.map_congr_left
  intro x hx
  simp only [hfirst x hx, hrefuse x hx]

/-- Directives that show the same are shown alike if they are released alike. -/
theorem map_arrange_congr {β : Type} (text : Directive → β)
    (horder : releaseOrder (dependents (items.map f)) = releaseOrder (dependents (items.map g)))
    (htext : ∀ x ∈ items, text (f x) = text (g x)) :
    (arrange (items.map f)).map (List.map text) = (arrange (items.map g)).map (List.map text) := by
  have htexts : (items.map f).map text = (items.map g).map text := by
    rw [List.map_map, List.map_map]
    exact List.map_congr_left htext
  have hout (h : α → Directive) (order : List Nat) :
      (order.filterMap ((items.map h)[·]?)).map text =
        order.filterMap (((items.map h).map text)[·]?) := by
    simp only [List.map_filterMap, List.getElem?_map]
  simp only [arrange, horder, List.length_map]
  split
  · rfl
  · simp only [Except.map, hout, htexts]

end Items

end ShellInit
