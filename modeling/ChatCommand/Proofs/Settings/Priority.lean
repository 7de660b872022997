import ChatCommand.Proofs.Settings.Layers

/-!
# The priority of sources

`Loader.sources` lists all that settings are loaded from when files are searched for, lowest first,
each source with its kind. Kinds are ranked: defaults, files for the profile, files for all
profiles, the environment, the program itself.

`Loader.load_priority`: the value of a setting is what the last source says that says anything on
it. The list is ordered by rank but for one pair: the YAML file for the profile stands behind the
TOML file for all profiles. So the value is from a source of the highest rank, unless such a pair
is there; `Loader.load_priority_mixedFormats` is a case where the ranking does not hold.
-/

namespace ChatCommand.Settings

/-! ## Sources -/

/-- What kind of a source settings are from. -/
inductive Kind where
  | defaults
  /-- A file for the profile. -/
  | variant (f : FileFormat)
  /-- A file for all profiles. -/
  | base (f : FileFormat)
  | environment
  | program
deriving DecidableEq, Repr

/-- The rank of a kind. -/
def Kind.rank : Kind → Nat
  | defaults => 0
  | variant _ => 1
  | base _ => 2
  | environment => 3
  | program => 4

/-- A layer with its kind. -/
structure Source where
  kind : Kind
  layer : Layer

namespace Source

/-- The tree of a source. -/
def tree (src : Source) : Node :=
  src.layer.tree

/-- The source has a say on a setting. -/
def defines (src : Source) (σ : Setting) : Bool :=
  (src.tree.along σ.path).isSome

/-- The settings that are made of nothing but what the source has for one of them. -/
def alone? (src : Source) (σ : Setting) : Option Settings :=
  (src.tree.along σ.path).bind fun part => (Loader.extract part).toOption

/-- What the source says on a setting, whatever else is in it. -/
def says? (src : Source) (σ : Setting) : Option Data :=
  (src.alone? σ).bind (value? · σ)

theorem defines_of_says? {src : Source} {σ : Setting} {v : Data} (h : src.says? σ = some v) :
    src.defines σ := by
  cases hpart : src.tree.along σ.path with
  | none => simp [says?, alone?, hpart] at h
  | some part => simp [defines, hpart]

theorem says?_sigil {src : Source} {sigil : String} :
    src.says? .sigil = some (textData sigil) ↔
      (src.alone? .sigil).map (·.commands.sigil) = some sigil := by
  cases h : src.alone? .sigil with
  | none => simp [says?, h]
  | some t =>
    simp [says?, h, value?, Setting.path, toData, CommandSettings.toData, Data.at?, textData]

end Source

/-- The kind of a file of a format. -/
def Choice.kind (f : FileFormat) : Choice → Kind
  | base _ => .base f
  | variant _ => .variant f

namespace Loader

/-- The files of a format that are found, in order. -/
def fileSources (l : Loader) (s : System) (f : FileFormat) : List Source :=
  (l.choices s f).map fun c => ⟨c.kind f, fileLayer s.disk f c.path⟩

/-- All sources when files are searched for, lowest first. -/
def sources (l : Loader) (s : System) : List Source :=
  ⟨.defaults, own {}⟩ :: (l.fileSources s .toml ++ l.fileSources s .yaml) ++
    ((l.environmentLayer? s).map (⟨.environment, ·⟩)).toList ++
    l.overrides.map fun settings => ⟨.program, own settings⟩

variable {l : Loader} {s : System} {settings : Settings} {σ : Setting} {v : Data}

theorem layers_of_search (hfile : l.file = none) :
    l.layers s = .ok ((l.sources s).map Source.layer) := by
  refine layers_eq_ok.2 ⟨_, fileLayers_of_search hfile, ?_⟩
  cases h : l.environmentLayer? s <;>
    simp [sources, fileSources, h, List.map_append, Function.comp_def]

/-! ## The last word -/

theorem trees_sources (l : Loader) (s : System) :
    (l.sources s).map Source.tree =
      ((own {}).tree ::
          (l.fileSources s .toml ++ l.fileSources s .yaml).map Source.tree) ++
        ((l.environmentLayer? s).map Layer.tree).toList ++
        l.overrides.map fun settings => (own settings).tree := by
  cases h : l.environmentLayer? s <;> simp [sources, h, Source.tree]

theorem merged_sources (l : Loader) (s : System) :
    merged ((l.sources s).map Source.layer) =
      ((l.sources s).map Source.tree).foldl Node.merge (.table .program []) := by
  rw [merged, List.map_map]
  rfl

theorem shaped_own (settings : Settings) (σ : Setting) : (own settings).tree.Shaped σ.path :=
  shaped_encode settings σ

theorem isSome_along_own (settings : Settings) (hσ : ∀ name, σ ≠ .filter name) :
    ((own settings).tree.along σ.path).isSome := by
  have h := isSome_along_encode settings σ fun name hname => absurd hname (hσ name)
  exact h.trans (isSome_value? settings hσ)

section Files

variable (hshaped : ∀ f, ∀ src ∈ l.fileSources s f, src.tree.Shaped σ.path)

include hshaped

theorem shaped_files :
    ∀ n ∈ (l.fileSources s .toml ++ l.fileSources s .yaml).map Source.tree,
      n.Shaped σ.path := by
  intro n hn
  obtain ⟨src, hsrc, rfl⟩ := List.mem_map.1 hn
  rcases List.mem_append.1 hsrc with hsrc | hsrc
  · exact hshaped .toml src hsrc
  · exact hshaped .yaml src hsrc

/-- Each setting but the filters has a part in the merged tree: that of the defaults, if no
other. -/
theorem isSome_along_merged (hσ : ∀ name, σ ≠ .filter name) :
    ((merged ((l.sources s).map Source.layer)).along σ.path).isSome := by
  have hempty : (Node.table .program []).Shaped σ.path := by
    cases σ <;> exact fun n hn => by cases hn
  rw [merged_sources, trees_sources, List.foldl_append, List.foldl_append, List.foldl_cons]
  refine Node.isSome_along_foldl_of_all (List.forall_mem_map.2 fun settings _ =>
    ⟨shaped_own settings σ, isSome_along_own settings hσ⟩) ?_
  have hfiles := Node.isSome_along_foldl (shaped_files hshaped) (hempty.merge (shaped_own {} σ))
    (by
      rw [Node.along_merge_of_later (shaped_own {} σ) (isSome_along_own {} hσ)]
      exact isSome_along_own {} hσ)
  cases (l.environmentLayer? s).map Layer.tree with
  | none => exact hfiles
  | some n =>
    change ((Node.merge _ n).along _).isSome
    rw [Node.along_merge_of_earlier
      (Node.shaped_foldl (shaped_files hshaped) (hempty.merge (shaped_own {} σ))),
      Option.isSome_or, hfiles, Bool.or_true]

theorem exists_last {x : Node}
    (h : (merged ((l.sources s).map Source.layer)).along σ.path = some x) :
    ∃ before src after, l.sources s = before ++ src :: after ∧
      src.tree.along σ.path = some x ∧ ∀ other ∈ after, other.defines σ = false := by
  have hword : Node.LastWord ((l.sources s).map Source.tree) σ.path x := by
    rw [merged_sources] at h
    rw [trees_sources] at h ⊢
    refine Node.lastWord_foldl (List.forall_mem_cons.2 ⟨shaped_own {} σ, shaped_files hshaped⟩)
      (List.forall_mem_map.2 fun settings _ => shaped_own settings σ) ?_ ?_ h
    · cases σ <;> exact fun n hn => by cases hn
    · cases σ <;> rfl
  obtain ⟨before, n, after, heq, hn, hafter⟩ := hword
  obtain ⟨front, back, hsources, rfl, hback⟩ := List.map_eq_append_iff.1 heq
  obtain ⟨src, rest, rfl, rfl, rfl⟩ := List.map_eq_cons_iff.1 hback
  refine ⟨front, src, rest, hsources, hn, fun other hother => ?_⟩
  rw [Source.defines, hafter _ (List.mem_map_of_mem hother)]
  rfl

/-- The value of a setting is from the last source that says anything on it. -/
theorem exists_last_of_load (hfile : l.file = none) (h : l.load s = .ok settings)
    (hv : value? settings σ = some v) :
    ∃ before src after, l.sources s = before ++ src :: after ∧ src.says? σ = some v ∧
      ∀ other ∈ after, other.defines σ = false := by
  obtain ⟨ls, hls, -, hread⟩ := value?_of_load h
  rw [layers_of_search hfile] at hls
  obtain rfl := Except.ok.inj hls
  obtain ⟨hsome, hnone⟩ := hread σ
  obtain ⟨part, hpart⟩ :
      ∃ part, (merged ((l.sources s).map Source.layer)).along σ.path = some part := by
    refine Option.isSome_iff_exists.1 (Option.isSome_iff_ne_none.2 fun hpart => ?_)
    have hdefault : value? {} σ = some v := (hnone hpart).symm.trans hv
    have hσ (name : String) : σ ≠ .filter name := by
      rintro rfl
      cases hdefault
    have hmerged := isSome_along_merged hshaped hσ
    rw [hpart] at hmerged
    cases hmerged
  obtain ⟨t, ht, hvalue⟩ := hsome part hpart
  obtain ⟨before, src, after, heq, hsrc, hafter⟩ := exists_last hshaped hpart
  refine ⟨before, src, after, heq, ?_, hafter⟩
  rw [Source.says?, Source.alone?, hsrc, Option.bind_some, ht]
  exact hvalue.trans hv

end Files

/-! ## Ranks -/

/-- The files of a format are in the order of their ranks. -/
theorem pairwise_chosen (f : FileFormat) (there : String → Bool) (cs : List Candidate) :
    (chosen there cs).Pairwise fun a b => (a.kind f).rank ≤ (b.kind f).rank := by
  have hrank (c : Choice) : 1 ≤ (c.kind f).rank := by
    cases c <;> simp [Choice.kind, Kind.rank]
  induction cs with
  | nil => exact .nil
  | cons c cs ih =>
    rw [chosen]
    cases there c.variant <;> cases there c.base
    · simpa using ih
    · simp
    · simpa [Choice.kind, Kind.rank] using ⟨fun c _ => hrank c, ih⟩
    · simp [Choice.kind, Kind.rank]

/-- The second of two sources has the higher rank, or they are the one pair for which that may fail:
a TOML file for all profiles and a YAML file for the profile. -/
def InOrder (a b : Source) : Prop :=
  a.kind.rank ≤ b.kind.rank ∨ a.kind = .base .toml ∧ b.kind = .variant .yaml

theorem kind_of_mem_fileSources {f : FileFormat} {src : Source} (h : src ∈ l.fileSources s f) :
    src.kind = .variant f ∨ src.kind = .base f := by
  obtain ⟨c, -, rfl⟩ := List.mem_map.1 h
  cases c with
  | base path => exact .inr rfl
  | variant path => exact .inl rfl

theorem pairwise_sources (l : Loader) (s : System) : (l.sources s).Pairwise InOrder := by
  have hfiles (f : FileFormat) : (l.fileSources s f).Pairwise InOrder :=
    List.pairwise_map.2 ((pairwise_chosen f _ _).imp Or.inl)
  have hrank : ∀ k : Kind, k.rank ≤ 4 := by
    rintro (_ | _ | _ | _ | _) <;> simp [Kind.rank]
  have hbelow : ∀ src ∈ ⟨.defaults, own {}⟩ :: (l.fileSources s .toml ++ l.fileSources s .yaml),
      src.kind.rank ≤ 3 := by
    intro src hsrc
    rcases List.mem_cons.1 hsrc with rfl | hsrc
    · exact Nat.zero_le 3
    · rcases List.mem_append.1 hsrc with hsrc | hsrc
      all_goals rcases kind_of_mem_fileSources hsrc with hkind | hkind
      all_goals simp [hkind, Kind.rank]
  refine List.pairwise_append.2 ⟨List.pairwise_append.2 ⟨List.pairwise_cons.2
    ⟨fun _ _ => .inl (Nat.zero_le _), List.pairwise_append.2 ⟨hfiles .toml, hfiles .yaml, ?_⟩⟩,
    ?_, ?_⟩, ?_, ?_⟩
  · intro a ha b hb
    rcases kind_of_mem_fileSources ha with hka | hka
    all_goals rcases kind_of_mem_fileSources hb with hkb | hkb
    all_goals simp [InOrder, hka, hkb, Kind.rank]
  · cases l.environmentLayer? s <;> simp
  · intro a ha b hb
    obtain ⟨layer, -, rfl⟩ : ∃ layer, _ ∧ _ = b := by simpa using hb
    exact .inl (hbelow a ha)
  · exact List.pairwise_map.2 (List.pairwise_of_forall fun _ _ => .inl le_rfl)
  · intro a _ b hb
    obtain ⟨settings, -, rfl⟩ := List.mem_map.1 hb
    exact .inl (hrank a.kind)

/-! ## Priority -/

/-- The value of a setting is from a source of the highest rank among those that say anything on it,
unless both the TOML file for all profiles and a YAML file for the profile do. In general it is from
the last such source. Files have tables where the schema has structures, and nowhere else. -/
theorem load_priority (hfile : l.file = none) (h : l.load s = .ok settings)
    (hv : value? settings σ = some v)
    (hshaped : ∀ f, ∀ src ∈ l.fileSources s f, src.tree.Shaped σ.path) :
    ((∀ main ∈ l.sources s, ∀ variant ∈ l.sources s, main.kind = .base .toml →
          variant.kind = .variant .yaml → ¬ (main.defines σ ∧ variant.defines σ)) →
      ∃ src ∈ l.sources s, src.says? σ = some v ∧
        ∀ other ∈ l.sources s, other.defines σ → other.kind.rank ≤ src.kind.rank) ∧
    ∃ before src after, l.sources s = before ++ src :: after ∧ src.says? σ = some v ∧
      ∀ other ∈ after, ¬ other.defines σ := by
  obtain ⟨before, src, after, hsources, hsays, hafter⟩ := exists_last_of_load hshaped hfile h hv
  have hquiet : ∀ other ∈ after, ¬ other.defines σ := fun other hother => by
    rw [hafter other hother]
    exact Bool.false_ne_true
  refine ⟨fun hapart => ?_, before, src, after, hsources, hsays, hquiet⟩
  have hsrc : src ∈ l.sources s := hsources ▸ List.mem_append_cons_self
  refine ⟨src, hsrc, hsays, fun other hother hdefines => ?_⟩
  have horder := hsources ▸ pairwise_sources l s
  have hmem := hsources ▸ hother
  rcases List.mem_append.1 hmem with hbefore | hbehind
  · rcases (List.pairwise_append.1 horder).2.2 other hbefore src List.mem_cons_self with
      hle | ⟨hmain, hvariant⟩
    · exact hle
    · refine absurd ⟨hdefines, ?_⟩ (hapart other hother src hsrc hmain hvariant)
      exact Source.defines_of_says? hsays
  · rcases List.mem_cons.1 hbehind with rfl | hother
    · exact le_rfl
    · exact absurd hdefines (hquiet other hother)

/-- A loader for production that reads files only. -/
def production : Loader where
  profile := .production
  useEnvironment := false

theorem load_priority_twoFiles :
    let s := System.ofFiles
      [("alloy.toml", "commands.prefix = \"?\""),
        ("alloy.production.toml", "commands.prefix = \".\"")]
    production.load s = .ok { commands.sigil := "?" } ∧
      ∃ src ∈ production.sources s, src.says? .sigil = some (textData "?") ∧
        ∀ other ∈ production.sources s, other.defines .sigil → other.kind.rank ≤ src.kind.rank := by
  intro s
  have hload : production.load s = .ok { commands.sigil := "?" } := by decide +kernel
  refine ⟨hload, (load_priority rfl hload rfl fun f => ?_).1 ?_⟩
  · cases f <;> decide +kernel
  · decide +kernel

/-- A YAML file for the profile wins over the TOML file for all profiles. -/
theorem load_priority_mixedFormats :
    let s := System.ofFiles
      [("alloy.toml", "commands.prefix = \"?\""),
        ("alloy.production.yaml", "commands:\n  prefix: .")]
    production.load s = .ok { commands.sigil := "." } ∧
      (∀ f, ∀ src ∈ production.fileSources s f, src.tree.Shaped Setting.sigil.path) ∧
      ¬ ∃ src ∈ production.sources s, src.says? .sigil = some (textData ".") ∧
        ∀ other ∈ production.sources s, other.defines .sigil → other.kind.rank ≤ src.kind.rank := by
  intro s
  refine ⟨by decide +kernel, fun f => by cases f <;> decide +kernel, ?_⟩
  rintro ⟨src, hsrc, hsays, hmax⟩
  have hrank : ∀ src ∈ production.sources s,
      (src.alone? .sigil).map (·.commands.sigil) = some "." → src.kind.rank < 2 := by
    decide +kernel
  obtain ⟨main, hmain, hdefines, hbase⟩ :
      ∃ main ∈ production.sources s, main.defines .sigil ∧ 2 = main.kind.rank := by
    decide +kernel
  have hle := hmax main hmain hdefines
  have hlt := hrank src hsrc (Source.says?_sigil.1 hsays)
  omega

end Loader

end ChatCommand.Settings
