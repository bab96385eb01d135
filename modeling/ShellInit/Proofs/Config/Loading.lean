import Mathlib.Algebra.Ring.Nat
import ShellInit.Load
import ShellInit.Proofs.Attempts
import ShellInit.Proofs.Toml.Overlay

/-!
# Loading several documents

If each of the documents describes a configuration, together they describe these configurations one
after the other, and a last one that does not is refused together with them as it is alone.
Documents may also describe a configuration only together: where a value of another kind has taken
the place of a list, a later document can begin the list anew, without the items from before.
-/

namespace ShellInit

open Toml (Value Table)

/-! ## Decoding lists -/

section Lists

variable {α : Type} {kind : Kind} {fields : Table → Except Mismatch α} {t base overlay : Table}

/-- A list is decoded item by item, unless something else than an array stands there. -/
theorem listOf_eq_ok_iff {xs : List (Declared α)} :
    listOf kind fields t = .ok xs ↔
      t.replacesAt (tag kind) = false ∧
        (t.itemsAt (tag kind)).mapM (declaredOf kind fields) = .ok xs := by
  simp only [listOf, Table.replacesAt, Table.itemsAt]
  cases t.get? (tag kind) with
  | none => simp [pure, Except.pure]
  | some v => cases v <;> simp

/-- On top of a list of the schema, a list follows it, and what is wrong is wrong as it is alone. -/
theorem listOf_merge {xs : List (Declared α)} (h : listOf kind fields base = .ok xs) :
    listOf kind fields (base.merge overlay) = (listOf kind fields overlay).map (xs ++ ·) := by
  simp only [listOf, Table.get?_merge] at h ⊢
  cases hbase : base.get? (tag kind) with
  | none =>
    rw [hbase] at h
    obtain rfl : [] = xs := Except.ok.inj h
    rw [Option.merge_none_left]
    exact (congrFun Except.map_id _).symm
  | some below =>
    rw [hbase] at h
    cases below with
    | array items =>
      simp only at h
      cases overlay.get? (tag kind) with
      | none => simp [h, Except.map]
      | some above =>
        cases above with
        | array more => simp [mapM_append_of_eq_ok h]
        | _ => simp [Value.merge, Except.map]
    | _ => cases h

end Lists

namespace Config

/-! ## One after the other -/

/-- What the one configuration declares, and then what the other declares. -/
def append (c d : Config) : Config where
  evaluates := c.evaluates ++ d.evaluates
  sources := c.sources ++ d.sources
  aliases := c.aliases ++ d.aliases
  environments := c.environments ++ d.environments
  paths := c.paths ++ d.paths

variable {t base overlay : Table} {c : Config}

theorem ofTable_eq_ok_iff :
    ofTable t = .ok c ↔
      listOf .aliases (bindingOf .aliases) t = .ok c.aliases ∧
        listOf .environments (bindingOf .environments) t = .ok c.environments ∧
        listOf .evaluates (fieldOf .evaluates "command") t = .ok c.evaluates ∧
        listOf .paths (fieldOf .paths "path") t = .ok c.paths ∧
        listOf .sources (fieldOf .sources "path") t = .ok c.sources := by
  simp only [ofTable, bind_eq_ok_iff]
  constructor
  · rintro ⟨aliases, haliases, environments, henvironments, evaluates, hevaluates, paths, hpaths,
      sources, hsources, hc⟩
    obtain rfl := Except.ok.inj hc
    exact ⟨haliases, henvironments, hevaluates, hpaths, hsources⟩
  · rintro ⟨haliases, henvironments, hevaluates, hpaths, hsources⟩
    exact ⟨_, haliases, _, henvironments, _, hevaluates, _, hpaths, _, hsources, rfl⟩

/-- On top of a configuration, a document adds the configuration or the violation that it is
alone. -/
theorem ofTable_merge (h : ofTable base = .ok c) :
    ofTable (base.merge overlay) = (ofTable overlay).map c.append := by
  obtain ⟨haliases, henvironments, hevaluates, hpaths, hsources⟩ := ofTable_eq_ok_iff.mp h
  simp only [ofTable, listOf_merge haliases, listOf_merge henvironments, listOf_merge hevaluates,
    listOf_merge hpaths, listOf_merge hsources]
  exact map_bind_congr fun aliases ↦ map_bind_congr fun environments ↦
    map_bind_congr fun evaluates ↦ map_bind_congr fun paths ↦ map_bind_congr fun sources ↦ rfl

theorem check_eq_ok_iff : check t = .ok c ↔ ofTable t = .ok c := by
  rw [check, mapError_eq_ok_iff]

/-- What is laid over a configuration comes out as it does alone, behind that configuration. -/
theorem check_merge (h : check base = .ok c) :
    check (base.merge overlay) = (check overlay).map c.append := by
  rw [check, check, ofTable_merge (check_eq_ok_iff.mp h)]
  cases ofTable overlay <;> rfl

def concat (cs : List Config) : Config where
  evaluates := cs.flatMap (·.evaluates)
  sources := cs.flatMap (·.sources)
  aliases := cs.flatMap (·.aliases)
  environments := cs.flatMap (·.environments)
  paths := cs.flatMap (·.paths)

theorem append_concat_nil (c : Config) : c.append (concat []) = c := by
  simp [append, concat]

theorem append_concat_cons (c d : Config) (cs : List Config) :
    c.append (concat (d :: cs)) = (c.append d).append (concat cs) := by
  simp [append, concat]

theorem check_foldl_merge {docs : List Table} {cs : List Config}
    (hbase : check base = .ok c) (h : List.Forall₂ (fun t c ↦ check t = .ok c) docs cs) :
    check (docs.foldl Table.merge base) = .ok (c.append (concat cs)) := by
  induction h generalizing base c with
  | nil => rw [append_concat_nil, List.foldl_nil, hbase]
  | @cons overlay d docs cs hoverlay _ ih =>
    have hmerged : check (base.merge overlay) = .ok (c.append d) := by
      rw [check_merge hbase, hoverlay]
      rfl
    rw [List.foldl_cons, append_concat_cons, ih hmerged]

/-- Documents that each describe a configuration together describe these configurations one after
the other, and a last one that is refused alone is refused together with them for the same
reason. -/
theorem check_mergeAll {docs : List Table} {cs : List Config}
    (h : List.Forall₂ (fun t c ↦ check t = .ok c) docs cs) :
    check (Table.mergeAll docs) =
        .ok { evaluates := cs.flatMap (·.evaluates)
              sources := cs.flatMap (·.sources)
              aliases := cs.flatMap (·.aliases)
              environments := cs.flatMap (·.environments)
              paths := cs.flatMap (·.paths) } ∧
      ∀ t error, check t = .error error →
        check (Table.mergeAll (docs ++ [t])) = .error error := by
  have hempty : check [] = .ok {} := rfl
  have hmerged : check (Table.mergeAll docs) = .ok (concat cs) := check_foldl_merge hempty h
  refine ⟨hmerged, ?_⟩
  intro t error herror
  rw [Table.mergeAll_concat, check_merge hmerged, herror]
  rfl

/-- A document that declares one directory, and has a key that the schema does not name. -/
def noted (directory : String) (note : Value) : Table :=
  [("note", note), ("paths", .array [.table [("path", .string directory)]])]

/-- The notes of the first two documents do not go together; the third lacks a field and names an
unknown system, of which the field is reported. -/
theorem check_mergeAll_noted :
    List.Forall₂ (fun t c ↦ check t = .ok c)
        [noted "/opt/bin" (.integer 3), noted "/srv/bin" (.array [])]
        [{ paths := [⟨"/opt/bin", {}⟩] }, { paths := [⟨"/srv/bin", {}⟩] }] ∧
      check (Table.mergeAll [noted "/opt/bin" (.integer 3), noted "/srv/bin" (.array [])]) =
        .ok { paths := [⟨"/opt/bin", {}⟩, ⟨"/srv/bin", {}⟩] } ∧
      check (Table.mergeAll ([noted "/opt/bin" (.integer 3), noted "/srv/bin" (.array [])] ++
          [[("paths", .array [.table [("os", .string "beos")]])]])) =
        .error (.invalid "missing field `path`\nin `paths`") := by
  have h : List.Forall₂ (fun t c ↦ check t = .ok c)
      [noted "/opt/bin" (.integer 3), noted "/srv/bin" (.array [])]
      [{ paths := [⟨"/opt/bin", {}⟩] }, { paths := [⟨"/srv/bin", {}⟩] }] :=
    .cons (by decide +kernel) (.cons (by decide +kernel) .nil)
  obtain ⟨hmerged, hrefused⟩ := check_mergeAll h
  exact ⟨h, hmerged, hrefused _ _ (by decide +kernel)⟩

/-! ## Lists that begin anew -/

/-- The lists of a configuration are decoded from these items, item by item. -/
structure DecodedFrom (c : Config) (items : Kind → List Value) : Prop where
  evaluates : (items .evaluates).mapM (declaredOf .evaluates (fieldOf .evaluates "command")) =
    .ok c.evaluates
  sources : (items .sources).mapM (declaredOf .sources (fieldOf .sources "path")) = .ok c.sources
  aliases : (items .aliases).mapM (declaredOf .aliases (bindingOf .aliases)) = .ok c.aliases
  environments : (items .environments).mapM (declaredOf .environments (bindingOf .environments)) =
    .ok c.environments
  paths : (items .paths).mapM (declaredOf .paths (fieldOf .paths "path")) = .ok c.paths

/-- No item is dropped and none is added. -/
theorem DecodedFrom.length_ofKind {items : Kind → List Value} (h : c.DecodedFrom items)
    (kind : Kind) : (c.ofKind kind).length = (items kind).length := by
  cases kind <;> rw [ofKind, List.length_map]
  case evaluates => exact length_of_mapM_eq_ok h.evaluates
  case sources => exact length_of_mapM_eq_ok h.sources
  case aliases => exact length_of_mapM_eq_ok h.aliases
  case environments => exact length_of_mapM_eq_ok h.environments
  case paths => exact length_of_mapM_eq_ok h.paths

theorem decodedFrom_of_ofTable (h : ofTable t = .ok c) :
    c.DecodedFrom fun kind ↦ t.itemsAt (tag kind) := by
  obtain ⟨haliases, henvironments, hevaluates, hpaths, hsources⟩ := ofTable_eq_ok_iff.mp h
  exact ⟨(listOf_eq_ok_iff.mp hevaluates).2, (listOf_eq_ok_iff.mp hsources).2,
    (listOf_eq_ok_iff.mp haliases).2, (listOf_eq_ok_iff.mp henvironments).2,
    (listOf_eq_ok_iff.mp hpaths).2⟩

section Load

variable {read : TextReader} {paths : List String} {pick : Nat} {error : LoadError}

/-- Loading succeeds if every document can be loaded and all together can be decoded. -/
theorem load_eq_ok_iff :
    load read paths pick = .ok c ↔
      ∃ docs, paths.mapM (loadDocument read) = .ok docs ∧
        ofTable (Table.mergeAll docs) = .ok c := by
  simp only [load, bind_eq_ok_iff, mapError_eq_ok_iff, check_eq_ok_iff]

theorem mem_loadErrors_iff :
    error ∈ loadErrors read paths ↔ ∃ path ∈ paths, loadDocument read path = .error error := by
  rw [loadErrors, List.mem_filterMap]
  refine exists_congr fun path ↦ and_congr_right fun _ ↦ ?_
  cases loadDocument read path <;> simp

/-- What is reported is wrong with one of the files, or else with all of them together. -/
theorem exists_of_load_eq_error (h : load read paths pick = .error error) :
    (∃ path ∈ paths, loadDocument read path = .error error) ∨
      ∃ docs, paths.mapM (loadDocument read) = .ok docs ∧
        check (Table.mergeAll docs) = .error error := by
  cases hdocs : paths.mapM (loadDocument read) with
  | ok docs =>
    rw [load, hdocs] at h
    exact .inr ⟨docs, rfl, h⟩
  | error first =>
    rw [load, hdocs] at h
    have hpick : (loadErrors read paths).getD pick first = error := Except.error.inj h
    left
    rw [List.getD_eq_getElem?_getD] at hpick
    cases hlisted : (loadErrors read paths)[pick]? with
    | some listed =>
      rw [hlisted, Option.getD_some] at hpick
      exact mem_loadErrors_iff.mp (hpick ▸ List.mem_of_getElem? hlisted)
    | none =>
      rw [hlisted, Option.getD_none] at hpick
      obtain ⟨_, path, hpath, hfail, _⟩ := exists_of_mapM_eq_error hdocs
      exact ⟨path, List.mem_of_getElem? hpath, hpick ▸ hfail⟩

/-- Each of the files that cannot be loaded may be the one that is reported. -/
theorem exists_load_eq_error {path : String} (hpath : path ∈ paths)
    (h : loadDocument read path = .error error) : ∃ pick, load read paths pick = .error error := by
  obtain ⟨pick, hlisted⟩ := List.getElem?_of_mem (mem_loadErrors_iff.mpr ⟨path, hpath, h⟩)
  refine ⟨pick, ?_⟩
  cases hdocs : paths.mapM (loadDocument read) with
  | ok docs =>
    obtain ⟨_, hloaded⟩ := exists_eq_ok_of_mem hdocs hpath
    rw [hloaded] at h
    cases h
  | error first =>
    rw [load, hdocs]
    change Except.error ((loadErrors read paths).getD pick first) = _
    rw [List.getD_eq_getElem?_getD, hlisted, Option.getD_some]

end Load

/-- The lists of a loaded configuration hold the items that the documents list, in the order of the
documents; only a value of another kind makes a list begin anew behind it. -/
theorem load_decodes (read : TextReader) (paths : List String) (pick : Nat) {docs : List Table}
    {c : Config} (hdocs : paths.mapM (loadDocument read) = .ok docs)
    (hload : load read paths pick = .ok c) :
    (c.DecodedFrom fun kind ↦
        (Table.sinceReplaced (tag kind) docs).flatMap (·.itemsAt (tag kind))) ∧
      (∀ kind, (c.ofKind kind).length =
        ((Table.sinceReplaced (tag kind) docs).map fun t ↦ (t.itemsAt (tag kind)).length).sum) ∧
      ∀ kind : Kind, (∀ t ∈ docs, t.replacesAt (tag kind) = false) →
        Table.sinceReplaced (tag kind) docs = docs := by
  obtain ⟨docs', hdocs', hmerged⟩ := load_eq_ok_iff.mp hload
  obtain rfl : docs = docs' := Except.ok.inj (hdocs.symm.trans hdocs')
  have hdecoded := decodedFrom_of_ofTable hmerged
  simp only [Table.itemsAt_mergeAll] at hdecoded
  refine ⟨hdecoded, ?_, ?_⟩
  · intro kind
    rw [hdecoded.length_ofKind, List.length_flatMap]
  · intro kind hkept
    apply Table.sinceReplaced_eq_self
    exact hkept

/-- Three files, of which the second has a text in place of the list of directories. -/
def interrupted : TextReader
  | "base.toml" => .ok "[[paths]]\npath = \"/opt/bin\"\n"
  | "reset.toml" => .ok "paths = \"none\"\n"
  | "work.toml" => .ok "[[paths]]\npath = \"/srv/bin\"\n"
  | _ => .error Fault.notFound

theorem load_interrupted :
    load interrupted ["base.toml", "reset.toml", "work.toml"] 0 =
      .ok { paths := [⟨"/srv/bin", {}⟩] } := by
  decide +kernel

/-- Only the directory behind the text is left. -/
theorem load_decodes_interrupted :
    ∃ docs, ["base.toml", "reset.toml", "work.toml"].mapM (loadDocument interrupted) = .ok docs ∧
      load interrupted ["base.toml", "reset.toml", "work.toml"] 0 =
        .ok { paths := [⟨"/srv/bin", {}⟩] } ∧
      ((Table.sinceReplaced (tag Kind.paths) docs).flatMap (·.itemsAt (tag Kind.paths))).mapM
        (declaredOf .paths (fieldOf .paths "path")) = .ok [⟨"/srv/bin", {}⟩] := by
  obtain ⟨docs, hdocs, _⟩ := load_eq_ok_iff.mp load_interrupted
  exact ⟨docs, hdocs, load_interrupted,
    (load_decodes interrupted _ 0 hdocs load_interrupted).1.paths⟩

/-- The files can be loaded, but the directory of the first one is not in the configuration. -/
theorem load_interrupted_loses :
    ∃ docs c, ["base.toml", "reset.toml", "work.toml"].mapM (loadDocument interrupted) = .ok docs ∧
      load interrupted ["base.toml", "reset.toml", "work.toml"] 0 = .ok c ∧
      ¬(c.DecodedFrom fun kind ↦ docs.flatMap (·.itemsAt (tag kind))) ∧
      (c.ofKind .paths).length ≠
        (docs.map fun t ↦ (t.itemsAt (tag Kind.paths)).length).sum := by
  obtain ⟨docs, hdocs, _⟩ := load_eq_ok_iff.mp load_interrupted
  have hcounts :
      (["base.toml", "reset.toml", "work.toml"].mapM (loadDocument interrupted)).map
        (fun docs ↦ (docs.map fun t ↦ (t.itemsAt (tag Kind.paths)).length).sum) = .ok 2 := by
    decide +kernel
  rw [hdocs] at hcounts
  have hsum : (docs.map fun t ↦ (t.itemsAt (tag Kind.paths)).length).sum = 2 :=
    Except.ok.inj hcounts
  have hlost : (ofKind { paths := [⟨"/srv/bin", {}⟩] } .paths).length ≠
      (docs.map fun t ↦ (t.itemsAt (tag Kind.paths)).length).sum := by
    rw [hsum]
    decide
  refine ⟨docs, _, hdocs, load_interrupted, ?_, hlost⟩
  intro hdecoded
  rw [hdecoded.length_ofKind, List.length_flatMap] at hlost
  exact hlost rfl

end Config

end ShellInit
