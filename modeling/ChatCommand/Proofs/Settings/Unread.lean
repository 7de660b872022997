import ChatCommand.Proofs.Settings.Disk
import ChatCommand.Proofs.Settings.Layers

/-!
# Files that are not read

The search of a format ends with the first base file that is there (`chosen_append`). Files of later
candidates are not read, and neither the search of the other format nor the earlier candidates see
them: names of files of different formats end differently (`aim_ne_of_formats`).

`Loader.load_unread` is the statement about two runs: on disks that differ in such files only, the
same is loaded, or loading fails with the same error. With a file that was asked for, that holds of
all other files. A candidate whose relative path leads to a directory has its files farther out,
where they are looked for next (`Disk.looks`); these are files of that candidate, whichever later
one they are of, too.
-/

namespace ChatCommand.Settings

open ChatCommand.Path (join)

/-! ## The search -/

/-- Behind a base file nothing takes part. -/
theorem chosen_append {there : String → Bool} {front back : List Candidate} {c : Candidate}
    (hc : there c.base = true) :
    chosen there (front ++ c :: back) = chosen there (front ++ [c]) := by
  induction front with
  | nil => simp [chosen, hc]
  | cons b front ih => rw [List.cons_append, List.cons_append, chosen, chosen, ih]

theorem chosen_congr {there there' : String → Bool} {cs : List Candidate}
    (h : ∀ c ∈ cs, ∀ path ∈ c.paths, there' path = there path) :
    chosen there' cs = chosen there cs := by
  induction cs with
  | nil => rfl
  | cons c cs ih =>
    obtain ⟨hc, hcs⟩ := List.forall_mem_cons.1 h
    rw [chosen, chosen, hc c.base (.head _), hc c.variant (.tail _ (.head _)), ih hcs]

/-- What takes part is there, and it is a file of a candidate. -/
theorem mem_chosen {there : String → Bool} {cs : List Candidate} {choice : Choice}
    (h : choice ∈ chosen there cs) :
    there choice.path = true ∧ ∃ c ∈ cs, choice.path ∈ c.paths := by
  induction cs with
  | nil => cases h
  | cons c cs ih =>
    have hrest (h : choice ∈ chosen there cs) :
        there choice.path = true ∧ ∃ b ∈ c :: cs, choice.path ∈ b.paths := by
      obtain ⟨hthere, b, hb, hpath⟩ := ih h
      exact ⟨hthere, b, List.mem_cons_of_mem _ hb, hpath⟩
    have hvariant (h : choice ∈ if there c.variant then [Choice.variant c.variant] else []) :
        there choice.path = true ∧ ∃ b ∈ c :: cs, choice.path ∈ b.paths := by
      split at h
      · obtain rfl := List.mem_singleton.1 h
        exact ⟨‹_›, c, List.mem_cons_self, .tail _ (.head _)⟩
      · cases h
    rw [chosen] at h
    split at h
    · rcases List.mem_append.1 h with h | h
      · exact hvariant h
      · obtain rfl := List.mem_singleton.1 h
        exact ⟨‹_›, c, List.mem_cons_self, .head _⟩
    · exact (List.mem_append.1 h).elim hvariant hrest

/-! ## Layers of files -/

/-- A path is not looked for at the places, nor where directories have been made. -/
def Disk.Avoids (d e : Disk) (places : Set (List String)) (path : String) : Prop :=
  ∀ p ∈ d.looks path, d.Clear e p ∧ d.aim p ∉ places

section

variable {d e : Disk} {places : Set (List String)} {f : FileFormat}

theorem exists?_eq (hd : d.Sound) (h : d.Alters e places) {path : String}
    (hpath : d.Avoids e places path) : e.exists? path = d.exists? path := by
  obtain ⟨hclear, haim⟩ := hpath path List.mem_cons_self
  rw [Disk.exists?, Disk.exists?, h.entry?_eq hd hclear haim]

theorem fileLayer_eq (hd : d.Sound) (h : d.Alters e places) {path : String}
    (hpath : d.Avoids e places path) (hthere : d.exists? path = true) :
    fileLayer e f path = fileLayer d f path := by
  have hrelative : e.relative = d.relative := by
    funext path
    rw [Disk.relative, Disk.relative, h.current]
  rw [fileLayer, fileLayer, hrelative,
    h.read?_eq hd (fun p hp => (hpath p hp).1) (fun p hp => (hpath p hp).2) hthere]

/-- Candidates that avoid all changes give the same layers. -/
theorem chosen_layers_eq (hd : d.Sound) (h : d.Alters e places) {cs : List Candidate}
    (hcs : ∀ c ∈ cs, ∀ path ∈ c.paths, d.Avoids e places path) :
    (chosen e.exists? cs).map (fun c => fileLayer e f c.path) =
      (chosen d.exists? cs).map fun c => fileLayer d f c.path := by
  rw [chosen_congr fun c hc path hpath => exists?_eq hd h (hcs c hc path hpath)]
  refine List.map_congr_left fun choice hchoice => ?_
  obtain ⟨hthere, c, hc, hpath⟩ := mem_chosen hchoice
  exact fileLayer_eq hd h (hcs c hc choice.path hpath) hthere

end

/-! ## Names of different formats -/

/-- How the names of files of a format end. -/
def FileFormat.endings (f : FileFormat) : List String :=
  f.baseNames.map (·.2)

theorem join_suffix (path name : String) : name.toList <:+ (join path name).toList := by
  unfold join
  split
  · exact List.suffix_refl _
  · split
    · exact ⟨path.toList, by simp⟩
    · exact ⟨(path ++ "/").toList, by simp⟩

theorem suffix_of_mem_candidates {f : FileFormat} {profile : Profile} {paths : List String}
    {c : Candidate} (hc : c ∈ candidates f profile paths) :
    ∃ ending ∈ f.endings, ∀ path ∈ c.paths, ending.toList <:+ path.toList := by
  obtain ⟨path, -, hc⟩ := List.mem_flatMap.1 hc
  obtain ⟨⟨stem, ending⟩, hname, rfl⟩ := List.mem_map.1 hc
  refine ⟨ending, List.mem_map.2 ⟨_, hname, rfl⟩, ?_⟩
  simp only [Candidate.paths, List.forall_mem_cons]
  refine ⟨?_, ?_, List.forall_mem_nil _⟩
  · exact List.IsSuffix.trans ⟨(stem ++ ".").toList, by simp⟩ (join_suffix _ _)
  · exact List.IsSuffix.trans ⟨(stem ++ "." ++ profile.name ++ ".").toList, by simp⟩
      (join_suffix _ _)

theorem suffix_of_mem_looks {d : Disk} {path p : String} (hp : p ∈ d.looks path) :
    path.toList <:+ p.toList := by
  rcases List.mem_cons.1 hp with rfl | hp
  · exact List.suffix_refl _
  · split at hp
    · obtain ⟨n, -, rfl⟩ := List.mem_map.1 hp
      exact join_suffix _ _
    · cases hp

/-- The place that a path aims at is named like the path ends. -/
theorem aim_ending {f : FileFormat} {ending : String} (hending : ending ∈ f.endings) {p : String}
    (hp : ending.toList <:+ p.toList) (d : Disk) :
    ∃ name, (d.aim p).getLast? = some name ∧ ending.toList <:+ name.toList := by
  have hall : ∀ ending ∈ f.endings,
      ending.toList ≠ [] ∧ '/' ∉ ending.toList ∧ '.' ∉ ending.toList := by
    cases f <;> decide
  obtain ⟨hne, hslash, hpoint⟩ := hall ending hending
  obtain ⟨front, name, hparts, hup, hname⟩ := Path.parts_ending hp hne hslash hpoint
  refine ⟨name, ?_, hname⟩
  rw [Disk.aim, hparts, List.foldl_append, List.foldl_cons, List.foldl_nil, Disk.toward,
    if_neg (by simpa using hup), List.getLast?_concat]

/-- Files of candidates of different formats are not looked for at one place. -/
theorem aim_ne_of_formats {f g : FileFormat} (hfg : f ≠ g) {profile : Profile}
    {paths : List String} {b c : Candidate} (hb : b ∈ candidates f profile paths)
    (hc : c ∈ candidates g profile paths) {d : Disk} {path path' p : String}
    (hpath : path ∈ b.paths) (hpath' : path' ∈ c.paths) (hp : p ∈ d.looks path') :
    d.aim path ≠ d.aim p := by
  obtain ⟨x, hx, hxs⟩ := suffix_of_mem_candidates hb
  obtain ⟨y, hy, hys⟩ := suffix_of_mem_candidates hc
  have hends := (hys path' hpath').trans (suffix_of_mem_looks hp)
  intro haim
  obtain ⟨name, hlast, hname⟩ := aim_ending hx (hxs path hpath) d
  obtain ⟨name', hlast', hname'⟩ := aim_ending hy hends d
  obtain rfl : name = name' := Option.some.inj (hlast.symm.trans (haim ▸ hlast'))
  have hall : ∀ x ∈ f.endings, ∀ y ∈ g.endings,
      ¬ x.toList <:+ y.toList ∧ ¬ y.toList <:+ x.toList := by
    cases f <;> cases g <;> first | exact absurd rfl hfg | decide
  rcases List.suffix_or_suffix_of_suffix hname hname' with h | h
  · exact (hall x hx y hy).1 h
  · exact (hall x hx y hy).2 h

/-! ## Two runs -/

namespace Loader

variable {l : Loader} {s : System} {e : Disk} {places : Set (List String)}

theorem load_eq {s' : System} (hfiles : l.fileLayers s' = l.fileLayers s)
    (henvironment : s'.environment = s.environment) : l.load s' = l.load s := by
  rw [load, load, layers, layers, hfiles, henvironment]

/-- The layers of a format are the same if the changed files are those of later candidates than one
with a base file. -/
theorem choices_layers_eq (hs : s.disk.Sound) (he : s.disk.Alters e places) {f : FileFormat}
    {front back : List Candidate} {c : Candidate}
    (hcs : candidates f l.profile (l.searched s) = front ++ c :: back)
    (hc : s.disk.exists? c.base = true)
    (hearlier : ∀ b ∈ front ++ [c], ∀ path ∈ b.paths, s.disk.Avoids e places path) :
    (chosen e.exists? (candidates f l.profile (l.searched s))).map
        (fun c => fileLayer e f c.path) =
      (l.choices s f).map fun c => fileLayer s.disk f c.path := by
  -- The search ends at the same candidate on both disks.
  have hc' : e.exists? c.base = true := by
    rw [exists?_eq hs he (hearlier c (by simp) c.base (.head _)), hc]
  rw [choices, hcs, chosen_append hc, chosen_append hc']
  exact chosen_layers_eq hs he hearlier

theorem load_eq_of_later (hs : s.disk.Sound) (he : s.disk.Alters e places) (hfile : l.file = none)
    {f : FileFormat} {front back : List Candidate} {c : Candidate}
    (hcs : candidates f l.profile (l.searched s) = front ++ c :: back)
    (hc : s.disk.exists? c.base = true)
    (hplaces : ∀ q ∈ places, ∃ b ∈ back, ∃ path ∈ b.paths, q = s.disk.aim path)
    (hearlier : ∀ b ∈ front ++ [c], ∀ path ∈ b.paths, ∀ p ∈ s.disk.looks path,
      s.disk.aim p ∉ places)
    (hclear : ∀ path ∈ l.filePaths s, ∀ p ∈ s.disk.looks path, s.disk.Clear e p) :
    l.load { s with disk := e } = l.load s := by
  have hsearched : l.searched { s with disk := e } = l.searched s := by
    rw [searched, searched, Disk.currentPath, Disk.currentPath, he.current]
  have hformat (g : FileFormat) :
      (l.choices { s with disk := e } g).map (fun c => fileLayer e g c.path) =
        (l.choices s g).map fun c => fileLayer s.disk g c.path := by
    rw [choices, hsearched]
    by_cases hfg : f = g
    · subst hfg
      refine choices_layers_eq hs he hcs hc fun b hb path hpath p hp => ?_
      have hmem : b ∈ candidates f l.profile (l.searched s) := by
        rw [hcs]
        simp only [List.mem_append, List.mem_cons, List.not_mem_nil, or_false] at hb ⊢
        exact hb.imp_right .inl
      exact ⟨hclear path (mem_filePaths hfile hmem hpath) p hp, hearlier b hb path hpath p hp⟩
    · refine chosen_layers_eq hs he fun b hb path hpath p hp => ?_
      refine ⟨hclear path (mem_filePaths hfile hb hpath) p hp, fun hplace => ?_⟩
      obtain ⟨b', hb', path', hpath', haim⟩ := hplaces _ hplace
      have hlater : b' ∈ candidates f l.profile (l.searched s) := by simp [hcs, hb']
      exact aim_ne_of_formats hfg hlater hb hpath' hpath hp haim.symm
  refine load_eq ?_ rfl
  rw [fileLayers_of_search hfile, fileLayers_of_search hfile]
  exact congrArg Except.ok (List.flatMap_congr fun g _ => hformat g)

theorem load_eq_of_file (hs : s.disk.Sound) (he : s.disk.Alters e places) {path content : String}
    (hfile : l.file = some path) (hentry : s.disk.entry? path = some (.file content))
    (haim : s.disk.aim path ∉ places) : l.load { s with disk := e } = l.load s := by
  have hpath : s.disk.Avoids e places path := by
    intro p hp
    have hlooks : s.disk.looks path = [path] := by simp [Disk.looks, hentry]
    obtain rfl := List.mem_singleton.1 (hlooks ▸ hp)
    exact ⟨Disk.clear_of_there hentry, haim⟩
  have hthere : s.disk.exists? path = true := by simp [Disk.exists?, hentry]
  refine load_eq ?_ rfl
  simp only [fileLayers, hfile, exists?_eq hs he hpath, fileLayer_eq hs he hpath hthere]

/-- Once a candidate has a base file, the files of later candidates have no say on what is loaded,
unless an earlier one or it itself has them, too. They may come with directories of their own, as
far as no path leads to one of these or out of one. If a file was asked for, no other has a say. -/
theorem load_unread (hs : s.disk.Sound) (he : s.disk.Alters e places) :
    (∀ f front c back, l.file = none →
      candidates f l.profile (l.searched s) = front ++ c :: back → s.disk.exists? c.base = true →
      (∀ q ∈ places, ∃ b ∈ back, ∃ path ∈ b.paths, q = s.disk.aim path) →
      (∀ b ∈ front ++ [c], ∀ path ∈ b.paths, ∀ p ∈ s.disk.looks path, s.disk.aim p ∉ places) →
      (∀ path ∈ l.filePaths s, ∀ p ∈ s.disk.looks path, s.disk.Clear e p) →
      l.load { s with disk := e } = l.load s) ∧
    ∀ path content, l.file = some path → s.disk.entry? path = some (.file content) →
      s.disk.aim path ∉ places → l.load { s with disk := e } = l.load s := by
  constructor
  · intro f front c back hfile hcs hc hplaces hearlier hclear
    exact load_eq_of_later hs he hfile hcs hc hplaces hearlier hclear
  · intro path content hfile hentry haim
    exact load_eq_of_file hs he hfile hentry haim

/-- A file that could not be read is put into a later directory, which is made for it. -/
theorem load_unread_home :
    let entries : List (List String × Entry) :=
      [([], .directory), (["srv"], .directory), (["srv", "etc"], .directory),
        (["srv", "etc", "alloy.toml"], .file "[commands]\nprefix = \"?\"")]
    let new : List (List String × Entry) :=
      [(["srv", "home"], .directory), (["srv", "home", "alloy.toml"], .file "prefix = ")]
    let e : Disk := .ofList ["srv"] (new ++ entries)
    let s : System := { disk := .ofList ["srv"] entries, environment := [], userDirectory := none }
    let l : Loader := { profile := .development, paths := ["etc", "home"] }
    let asked : Loader := { l with file := some "etc/alloy.toml" }
    l.load s = .ok { commands.sigil := "?" } ∧ l.load { s with disk := e } = l.load s ∧
      asked.load { s with disk := e } = asked.load s := by
  intro entries new e s l asked
  have hs : s.disk.Sound := by
    refine Disk.sound_ofList (by decide) ?_ (by decide)
    simpa using (⟨by decide, by decide, by decide, by decide⟩ : Path.IsName "srv")
  have he : s.disk.Alters e {["srv", "home", "alloy.toml"]} := by
    refine Disk.alters_ofList ?_ ?_
    · simp [new, entries]
    · rintro _ rfl
      decide
  have hclear : ∀ path ∈ l.filePaths s, ∀ p ∈ s.disk.looks path, s.disk.Clear e p := by
    have hhome : ∀ path ∈ l.filePaths s, ∀ p ∈ s.disk.looks path,
        ["srv", "home"] ≠ s.disk.aim p ∧
          (["srv", "home"] ∈ s.disk.way p → ["srv", "home"] <+: s.disk.aim p) := by
      decide +kernel
    intro path hpath p hp q hq
    obtain rfl : q = ["srv", "home"] := by simpa [new] using Disk.made_ofList hq
    exact hhome path hpath p hp
  refine ⟨by decide +kernel, ?_, ?_⟩
  · refine (load_unread hs he).1 .toml [] ⟨"etc/alloy.toml", "etc/alloy.development.toml"⟩
      [⟨"etc/config.toml", "etc/config.development.toml"⟩,
        ⟨"home/alloy.toml", "home/alloy.development.toml"⟩,
        ⟨"home/config.toml", "home/config.development.toml"⟩]
      rfl (by decide +kernel) (by decide +kernel) ?_ ?_ hclear
    · rintro _ rfl
      exact ⟨_, .tail _ (.head _), "home/alloy.toml", .head _, by decide +kernel⟩
    · have haim : ∀ path ∈ ["etc/alloy.toml", "etc/alloy.development.toml"],
          ∀ p ∈ s.disk.looks path, s.disk.aim p ≠ ["srv", "home", "alloy.toml"] := by
        decide +kernel
      intro b hb path hpath p hp hplace
      obtain rfl := List.mem_singleton.1 hb
      exact haim path hpath p hp (Set.mem_singleton_iff.1 hplace)
  · have haim : s.disk.aim "etc/alloy.toml" ≠ ["srv", "home", "alloy.toml"] := by decide +kernel
    exact (load_unread (l := asked) hs he).2 "etc/alloy.toml" "[commands]\nprefix = \"?\"" rfl
      (by decide +kernel) (mt Set.mem_singleton_iff.1 haim)

end Loader

end ChatCommand.Settings
