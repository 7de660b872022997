import ChatCommand.Proofs.Settings.Layers

/-!
# Settings of the program itself

`Loader.load_override`: settings that the program sets last are the settings that load, whatever
files and variables there are. Only filters may come from below, for names that the program does not
mention. If there is nothing below but the defaults, loading cannot fail.
-/

namespace ChatCommand.Settings

/-- Other filters count only for the settings of filters. -/
theorem value?_of_lookup {c : Settings} {gs : List (String × Log.Level)}
    (h : ∀ name, gs.lookup name = c.logging.filters.lookup name) (σ : Setting) :
    value? { c with logging.filters := gs } σ = value? c σ := by
  cases σ with
  | filter name => rw [value?_filter, value?_filter, h]
  | _ => rfl

namespace Loader

variable {l : Loader} {s : System} {c settings : Settings}

theorem layers_override {ls : List Layer} (h : (l.override c).layers s = .ok ls) :
    ∃ below, l.layers s = .ok below ∧ below ++ [own c] = ls := by
  obtain ⟨files, hfiles, rfl⟩ := layers_eq_ok.1 h
  refine ⟨_, layers_eq_ok.2 ⟨files, hfiles, rfl⟩, ?_⟩
  rw [override, List.map_append, ← List.append_assoc]
  rfl

theorem merged_override (ls : List Layer) :
    merged (ls ++ [own c]) = (merged ls).merge c.encode := by
  rw [merged, List.map_append, List.foldl_append]
  rfl

section Below

variable (hc : (c.logging.filters.map (·.1)).Nodup)

include hc

theorem encode_missing {name : String} (h : c.logging.filters.lookup name = none) :
    ∃ es, c.encode.at? ["logging", "filters"] = some (.table .program es) ∧
      Entries.get? es name = none := by
  have hfilters : c.encode.at? ["logging", "filters"] =
      some ((filterData c.logging.filters).toNode .program) := by
    rw [encode_eq, logging_toNode]
    rfl
  rw [hfilters, filterData, Data.toNode]
  refine ⟨_, rfl, ?_⟩
  rw [get?_entriesToNodes _ (by simpa [List.map_map, Function.comp_def] using hc),
    lookup_map fun l : Log.Level => textData l.name, h]
  rfl

/-- What the program sets last is what loads, setting by setting. -/
theorem value?_override {below : List Layer} {σ : Setting}
    (hread : ∀ part, (merged (below ++ [own c])).along σ.path = some part →
      ∃ t, extract part = .ok t ∧ value? t σ = value? settings σ)
    (hσ : (value? c σ).isSome) : value? settings σ = value? c σ := by
  have hsome : (c.encode.along σ.path).isSome := by
    rw [isSome_along_encode c σ fun _ _ => hc]
    exact hσ
  obtain ⟨part, hpart⟩ := Option.isSome_iff_exists.1 hsome
  have hmerged : (merged (below ++ [own c])).along σ.path = some part := by
    rw [merged_override, Node.along_merge_of_later (shaped_encode c σ) hsome, hpart]
  obtain ⟨t, ht, htop⟩ := hread part hmerged
  obtain ⟨gs, hgs, hperm⟩ := extract_encode c
  obtain ⟨t', ht', hown⟩ := (extract_along (sorted_encode c) hgs σ).1 part hpart
  obtain rfl := Except.ok.inj (ht.symm.trans ht')
  rw [← htop, hown, value?_of_lookup fun name => lookup_of_perm hc (hperm hc) name]

theorem lookup_override {below : List Layer} {name : String} {level : Log.Level}
    (hread : ∀ part, (merged (below ++ [own c])).along (Setting.filter name).path = some part →
      ∃ t, extract part = .ok t ∧ value? t (.filter name) = value? settings (.filter name))
    (hlevel : c.logging.filters.lookup name = some level) :
    settings.logging.filters.lookup name = some level := by
  have hsome : (value? c (.filter name)).isSome := by
    rw [value?_filter, hlevel]
    rfl
  have hvalue := value?_override hc hread hsome
  rw [value?_filter, value?_filter, hlevel] at hvalue
  obtain ⟨level', hlevel', hname⟩ := Option.map_eq_some_iff.1 hvalue
  rw [hlevel', level_name_inj.1 (textData_inj.1 hname)]

/-- A filter that the program does not mention is one that some lower layer has. -/
theorem exists_below {below : List Layer} {name : String}
    (hread : (merged (below ++ [own c])).along (Setting.filter name).path = none →
      value? settings (.filter name) = value? {} (.filter name))
    (hmissing : c.logging.filters.lookup name = none)
    (hsome : (settings.logging.filters.lookup name).isSome) :
    ∃ layer ∈ below, (layer.tree.at? ["logging", "filters", name]).isSome := by
  have hmerged : ((merged (below ++ [own c])).along (Setting.filter name).path).isSome := by
    refine Option.isSome_iff_ne_none.2 fun hnone => ?_
    have hvalue := hread hnone
    obtain ⟨level, hlevel⟩ := Option.isSome_iff_exists.1 hsome
    rw [value?_filter, value?_filter, hlevel] at hvalue
    cases hvalue
  obtain ⟨es, hes, hname⟩ := encode_missing hc hmissing
  rw [merged_override] at hmerged
  have hbelow : ((merged below).at? ["logging", "filters", name]).isSome :=
    Node.isSome_at?_of_missing hname hes hmerged
  rcases Node.isSome_at?_of_foldl hbelow with hempty | ⟨n, hn, hat⟩
  · cases hempty
  · obtain ⟨layer, hlayer, rfl⟩ := List.mem_map.1 hn
    exact ⟨layer, hlayer, hat⟩

/-- Over nothing but the defaults, what the program sets loads. -/
theorem load_over_defaults (hfile : l.file = none)
    (hfiles : ∀ path ∈ l.filePaths s, s.disk.exists? path = false)
    (henvironment : l.useEnvironment = false) (hoverrides : l.overrides = []) :
    ∃ gs, (l.override c).load s = .ok { c with logging.filters := gs } ∧
      gs.Perm c.logging.filters := by
  have hlayers : (l.override c).layers s = .ok [own {}, own c] := by
    refine layers_eq_ok.2 ⟨[], fileLayers_of_missing hfile hfiles, ?_⟩
    simp [environmentLayer?, override, henvironment, hoverrides]
  have hmerged : merged [own {}, own c] = c.encode := by
    change ((Node.table .program []).merge (encode {})).merge c.encode = c.encode
    rw [Node.merge_empty (sorted_encode {}), merge_encode {} c rfl]
  obtain ⟨gs, hgs, hperm⟩ := extract_encode c
  refine ⟨gs, load_eq_ok.2 ⟨_, hlayers, by simp [own], ?_⟩, hperm hc⟩
  rw [hmerged, hgs]

end Below

/-- What the program sets last is what loads, but for the filters of names that it does not mention:
those are from below. With nothing below but the defaults it does load. -/
theorem load_override (hc : (c.logging.filters.map (·.1)).Nodup) :
    (∀ settings, (l.override c).load s = .ok settings →
      settings = { c with logging.filters := settings.logging.filters } ∧
      (∀ name level, c.logging.filters.lookup name = some level →
        settings.logging.filters.lookup name = some level) ∧
      ∀ name, c.logging.filters.lookup name = none →
        (settings.logging.filters.lookup name).isSome →
        ∃ below, l.layers s = .ok below ∧
          ∃ layer ∈ below, (layer.tree.at? ["logging", "filters", name]).isSome) ∧
    (l.file = none → (∀ path ∈ l.filePaths s, s.disk.exists? path = false) →
      l.useEnvironment = false → l.overrides = [] →
      ∃ gs, (l.override c).load s = .ok { c with logging.filters := gs } ∧
        gs.Perm c.logging.filters) := by
  refine ⟨fun settings h => ?_, load_over_defaults hc⟩
  obtain ⟨ls, hls, -, hread⟩ := value?_of_load h
  obtain ⟨below, hbelow, rfl⟩ := layers_override hls
  refine ⟨?_, ?_, ?_⟩
  · exact eq_of_value? fun σ hσ => value?_override hc (hread σ).1 (isSome_value? c hσ)
  · exact fun name level hlevel => lookup_override hc (hread _).1 hlevel
  · exact fun name hmissing hsome => ⟨below, hbelow, exists_below hc (hread _).2 hmissing hsome⟩

/-- A file sets a level and two filters, one of which the program sets, too. -/
theorem load_override_filters :
    let s := System.ofFiles
      [("alloy.yaml", "logging:\n  level: warn\n  filters: \x7ba: warn, b: error\x7d")]
    let c : Settings := { commands.operators := ["ann"], logging.filters := [("b", .debug)] }
    let l : Loader := { profile := .development, useEnvironment := false }
    (∃ settings, (l.override c).load s = .ok settings ∧
      settings = { c with logging.filters := settings.logging.filters } ∧
      settings.logging.filters.lookup "b" = some .debug ∧
      settings.logging.filters.lookup "a" = some .warn) ∧
    ∃ gs, (l.override c).load (.ofFiles []) = .ok { c with logging.filters := gs } ∧
      gs.Perm c.logging.filters := by
  intro s c l
  have hc : (c.logging.filters.map (·.1)).Nodup := by decide
  have hload : (l.override c).load s =
      .ok { c with logging.filters := [("a", .warn), ("b", .debug)] } := by
    decide +kernel
  obtain ⟨hrest, hown, -⟩ := (load_override hc).1 _ hload
  refine ⟨⟨_, hload, hrest, hown "b" .debug rfl, rfl⟩, ?_⟩
  exact (load_override hc).2 rfl (by decide +kernel) rfl rfl

end Loader

end ChatCommand.Settings
