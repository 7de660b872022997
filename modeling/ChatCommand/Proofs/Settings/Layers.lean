import ChatCommand.Proofs.Settings.RoundTrip

/-!
# Loading as one merge

Settings load exactly if all layers can be read and their trees, merged one after another, fit the
schema (`Loader.load_eq_ok`). `Loader.layers_eq_ok` lists the layers. Their trees are sorted, so
that every setting is read off its own part of the merged tree (`Loader.value?_of_load`).
-/

namespace ChatCommand.Settings

/-! ## Layers -/

/-- The tree of a layer. There is nothing in one that cannot be read. -/
def Layer.tree (l : Layer) : Node :=
  l.content.toOption.getD (.table .program [])

/-- The merged trees of layers. -/
def merged (ls : List Layer) : Node :=
  (ls.map Layer.tree).foldl Node.merge (.table .program [])

theorem mergeLayers_eq_ok {ls : List Layer} {n : Node} :
    mergeLayers ls = .ok n ↔
      (∀ l ∈ ls, ∃ t, l.content = .ok t) ∧
        merged ls = n := by
  unfold mergeLayers
  dsimp only
  split
  · rename_i hempty
    have hls : ∀ l ∈ ls, ∃ t, l.content = .ok t := by
      intro l hl
      rw [List.isEmpty_iff, List.filterMap_eq_nil_iff] at hempty
      have hl := hempty l hl
      cases hcontent : l.content with
      | error e => simp [hcontent] at hl
      | ok t => exact ⟨t, rfl⟩
    have htrees : ls.filterMap (fun l => l.content.toOption) = ls.map Layer.tree := by
      rw [← List.filterMap_eq_map]
      refine List.filterMap_congr fun l hl => ?_
      obtain ⟨t, ht⟩ := hls l hl
      simp [Layer.tree, ht, Except.toOption]
    rw [htrees, Except.ok.injEq, and_iff_right hls, merged]
  · rename_i hfaults
    refine iff_of_false (by simp) fun h => hfaults ?_
    rw [List.isEmpty_iff, List.filterMap_eq_nil_iff]
    intro l hl
    obtain ⟨t, ht⟩ := h.1 l hl
    rw [ht]

/-- The two paths of a candidate. -/
def Candidate.paths (c : Candidate) : List String :=
  [c.base, c.variant]

namespace Loader

variable {l : Loader} {s : System} {settings : Settings}

theorem load_eq_ok : l.load s = .ok settings ↔
    ∃ ls, l.layers s = .ok ls ∧ (∀ layer ∈ ls, ∃ t, layer.content = .ok t) ∧
      extract (merged ls) = .ok settings := by
  unfold load
  rw [bind_eq_ok]
  refine exists_congr fun ls => and_congr_right fun _ => ?_
  rw [bind_eq_ok]
  simp only [mapError_eq_ok, mergeLayers_eq_ok]
  constructor
  · rintro ⟨n, ⟨hcontent, rfl⟩, h⟩
    exact ⟨hcontent, h⟩
  · rintro ⟨hcontent, h⟩
    exact ⟨merged ls, ⟨hcontent, rfl⟩, h⟩

/-- The layer of settings that the program itself makes. -/
def own (settings : Settings) : Layer :=
  { origin := .program, content := .ok settings.encode }

/-- The layer of the environment, if it counts. -/
def environmentLayer? (l : Loader) (s : System) : Option Layer :=
  if l.useEnvironment then some { origin := .environment, content := .ok s.environment.settings }
  else none

theorem layers_eq_ok {ls : List Layer} : l.layers s = .ok ls ↔
    ∃ files, l.fileLayers s = .ok files ∧
      own {} :: files ++ (l.environmentLayer? s).toList ++ l.overrides.map own = ls := by
  unfold layers environmentLayer?
  rw [bind_eq_ok]
  refine exists_congr fun files => and_congr_right fun _ => ?_
  cases l.useEnvironment
  all_goals exact ⟨Except.ok.inj, congrArg Except.ok⟩

theorem fileLayers_of_search (hfile : l.file = none) : l.fileLayers s = .ok
    (([FileFormat.toml, .yaml].flatMap fun f =>
      (l.choices s f).map fun c => fileLayer s.disk f c.path)) := by
  simp [fileLayers, hfile]

theorem chosen_of_missing {there : String → Bool} {cs : List Candidate}
    (h : ∀ c ∈ cs, there c.variant = false ∧ there c.base = false) : chosen there cs = [] := by
  induction cs with
  | nil => rfl
  | cons c cs ih =>
    obtain ⟨⟨hvariant, hbase⟩, hcs⟩ := List.forall_mem_cons.1 h
    rw [chosen, hvariant, hbase]
    exact ih hcs

theorem mem_filePaths (hfile : l.file = none) {f : FileFormat} {c : Candidate}
    (hc : c ∈ candidates f l.profile (l.searched s)) {path : String} (hpath : path ∈ c.paths) :
    path ∈ l.filePaths s := by
  simp only [filePaths, hfile, List.mem_flatMap]
  exact ⟨f, by cases f <;> decide, c, hc, (List.Perm.swap _ _ _).mem_iff.1 hpath⟩

theorem fileLayers_of_missing (hfile : l.file = none)
    (h : ∀ path ∈ l.filePaths s, s.disk.exists? path = false) : l.fileLayers s = .ok [] := by
  have hchoices (f : FileFormat) : l.choices s f = [] :=
    chosen_of_missing fun c hc =>
      ⟨h _ (mem_filePaths hfile hc (.tail _ (.head _))), h _ (mem_filePaths hfile hc (.head _))⟩
  rw [fileLayers_of_search hfile]
  simp [hchoices]

theorem exists_of_mem_fileLayers {files : List Layer} (h : l.fileLayers s = .ok files) :
    ∀ layer ∈ files, ∃ f path, layer = fileLayer s.disk f path := by
  intro layer hlayer
  cases hfile : l.file with
  | none =>
    rw [fileLayers_of_search hfile] at h
    obtain rfl := Except.ok.inj h
    obtain ⟨f, -, hlayer⟩ := List.mem_flatMap.1 hlayer
    obtain ⟨c, -, rfl⟩ := List.mem_map.1 hlayer
    exact ⟨f, c.path, rfl⟩
  | some path =>
    simp only [fileLayers, hfile] at h
    split at h
    · cases h
    · split at h
      · rename_i f _
        obtain rfl := Except.ok.inj h
        exact ⟨f, path, List.mem_singleton.1 hlayer⟩
      · cases h

end Loader

theorem sorted_empty : (Node.table .program []).Sorted :=
  .table .nil (List.forall_mem_nil _)

theorem sorted_fileLayer (d : Disk) (f : FileFormat) (path : String) :
    (fileLayer d f path).tree.Sorted := by
  unfold fileLayer Layer.tree
  split
  · rename_i path content _
    cases hdata : f.parse content with
    | error e => simpa [hdata, Except.map, Except.toOption] using sorted_empty
    | ok data => simpa [hdata, Except.map, Except.toOption] using Node.sorted_toNode _ data
  · exact sorted_empty

namespace Loader

variable {l : Loader} {s : System} {settings : Settings}

theorem sorted_layers {ls : List Layer} (h : l.layers s = .ok ls) :
    ∀ layer ∈ ls, layer.tree.Sorted := by
  obtain ⟨files, hfiles, rfl⟩ := layers_eq_ok.1 h
  have hown (settings : Settings) : (own settings).tree.Sorted := Node.sorted_toNode _ _
  intro layer hlayer
  rcases List.mem_append.1 hlayer with hlayer | hlayer
  · rcases List.mem_append.1 hlayer with hlayer | hlayer
    · rcases List.mem_cons.1 hlayer with rfl | hlayer
      · exact hown {}
      · obtain ⟨f, path, rfl⟩ := exists_of_mem_fileLayers hfiles layer hlayer
        exact sorted_fileLayer s.disk f path
    · obtain ⟨-, rfl⟩ : _ ∧ _ = layer := by simpa [environmentLayer?] using hlayer
      exact Node.sorted_environment s.environment
  · obtain ⟨settings, -, rfl⟩ := List.mem_map.1 hlayer
    exact hown settings

/-- Every setting is read off the part of the merged tree along its path, and has its default where
that is missing. -/
theorem value?_of_load (h : l.load s = .ok settings) : ∃ ls, l.layers s = .ok ls ∧
    (∀ layer ∈ ls, ∃ t, layer.content = .ok t) ∧ ∀ σ,
      (∀ part, (merged ls).along σ.path = some part →
        ∃ t, extract part = .ok t ∧ value? t σ = value? settings σ) ∧
      ((merged ls).along σ.path = none → value? settings σ = value? {} σ) := by
  obtain ⟨ls, hls, hcontent, hextract⟩ := load_eq_ok.1 h
  refine ⟨ls, hls, hcontent, fun σ => extract_along (Node.sorted_foldl sorted_empty ?_) hextract σ⟩
  exact List.forall_mem_map.2 (sorted_layers hls)

end Loader

/-- A system with nothing but files in the current directory. -/
def System.ofFiles (files : List (String × String)) : System where
  disk :=
    { current := ["srv"]
      lookup := fun
        | [] | ["srv"] => some .directory
        | ["srv", name] => (files.lookup name).map .file
        | _ => none }
  environment := []
  userDirectory := none

end ChatCommand.Settings
