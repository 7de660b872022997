import ChatCommand.Proofs.Path
import ChatCommand.Settings.Disk
import Mathlib.Data.Set.Insert

/-!
# Disks that differ in some files

`Disk.entry?_eq_some`: a written path leads somewhere exactly if all places that it passes
(`Disk.way`) are directories and there is something at the place that it aims at (`Disk.aim`). Both
are a matter of the text of the path and of the current directory.

So disks that differ in the files at some places only (`Disk.Alters`) agree on every path that aims
elsewhere (`Alters.entry?_eq`). Directories may be made for the files, unless the path leads to one
of them or out of one (`Disk.Clear`). What is read for a path is the same, too (`Alters.read?_eq`):
a path where there is a file is read there, and only one where there is a directory is looked for
around the current directory (`Disk.looks`).
-/

namespace ChatCommand.Settings.Disk

open ChatCommand.Path (join absolute isAbsolute parts namesDirectory)

/-! ## Where a path leads -/

/-- The place to which one part of a path leads. -/
def toward (place : List String) (part : String) : List String :=
  if part == ".." then place.dropLast else place ++ [part]

/-- The places from which the parts of a path are followed. -/
def passed : (place : List String) → List String → List (List String)
  | _, [] => []
  | place, p :: ps => place :: passed (toward place p) ps

/-- The place from which a path is followed. -/
def start (d : Disk) (path : String) : List String :=
  if isAbsolute path then [] else d.current

/-- All places that a path passes. -/
def way (d : Disk) (path : String) : List (List String) :=
  passed (d.start path) (parts path)

/-- The place to which a path leads, if it leads anywhere. -/
def aim (d : Disk) (path : String) : List String :=
  (parts path).foldl toward (d.start path)

section

variable {d : Disk} {path : String}

theorem follow_eq_some {place q : List String} {ps : List String} :
    d.follow place ps = some q ↔
      (∀ w ∈ passed place ps, d.lookup w = some .directory) ∧ ps.foldl toward place = q := by
  induction ps generalizing place with
  | nil => simp [follow, passed]
  | cons p ps ih =>
    rw [follow, passed, List.forall_mem_cons, List.foldl_cons]
    split
    · rename_i hplace
      rw [show (if p == ".." then _ else _) = toward place p from rfl, ih, hplace]
      simp
    · rename_i hplace
      exact iff_of_false (by simp) fun h => hplace h.1.1

/-- What a path finds where it leads: one that names a directory finds no file. -/
def found (path : String) : Option Entry → Option Entry
  | some (.file content) => if namesDirectory path then none else some (.file content)
  | e => e

theorem found_eq_some {e : Option Entry} {x : Entry} :
    found path e = some x ↔ e = some x ∧ (namesDirectory path = true → x = .directory) := by
  unfold found
  split
  · rename_i content
    by_cases hpath : namesDirectory path = true
    · rw [if_pos hpath]
      refine iff_of_false (by simp) fun ⟨heq, hx⟩ => ?_
      cases heq.trans (congrArg some (hx hpath))
    · rw [if_neg hpath]
      exact ⟨fun h => ⟨h, fun hdirectory => absurd hdirectory hpath⟩, And.left⟩
  · rename_i hfile
    refine ⟨fun h => ⟨h, fun _ => ?_⟩, And.left⟩
    cases x with
    | directory => rfl
    | file content => exact absurd h (hfile content)

/-- A path leads somewhere if it passes directories only. -/
theorem entry?_eq_some {x : Entry} : d.entry? path = some x ↔
    path ≠ "" ∧ (∀ w ∈ d.way path, d.lookup w = some .directory) ∧
      d.lookup (d.aim path) = some x ∧ (namesDirectory path = true → x = .directory) := by
  by_cases hempty : path = ""
  · simp [Disk.entry?, hempty]
  have heq : d.entry? path =
      (d.follow (d.start path) (parts path)).bind fun place => found path (d.lookup place) := by
    unfold entry?
    rw [if_neg (by simpa using hempty)]
    rfl
  rw [heq, Option.bind_eq_some_iff, and_iff_right hempty]
  simp only [follow_eq_some, found_eq_some]
  constructor
  · rintro ⟨_, ⟨hway, rfl⟩, h⟩
    exact ⟨hway, h⟩
  · rintro ⟨hway, h⟩
    exact ⟨_, ⟨hway, rfl⟩, h⟩

/-! ## Reading files -/

/-- The written paths under which a file is looked for from the current directory outwards. -/
def tries (d : Disk) (path : String) : List String :=
  (List.range (d.current.length + 1)).reverse.map fun n => join (absolute (d.current.take n)) path

/-- The file at a path. -/
def file? (d : Disk) (path : String) : Option (String × String) :=
  match d.entry? path with
  | some (.file content) => some (path, content)
  | _ => none

theorem read?_eq (d : Disk) (path : String) : d.read? path =
    if isAbsolute path then d.file? path else (d.tries path).findSome? d.file? := by
  rw [tries, List.findSome?_map]
  rfl

/-- The current directory is there, under names of its own. -/
structure Settled (d : Disk) : Prop where
  names : ∀ part ∈ d.current, Path.IsName part
  directory : ∀ n, d.lookup (d.current.take n) = some .directory

theorem passed_append (place : List String) (ps qs : List String) :
    passed place (ps ++ qs) = passed place ps ++ passed (ps.foldl toward place) qs := by
  induction ps generalizing place with
  | nil => rfl
  | cons p ps ih => rw [List.cons_append, passed, ih, passed, List.foldl_cons, List.cons_append]

/-- Names lead further and further into a place. -/
theorem toward_names {ps : List String} (h : ∀ p ∈ ps, Path.IsName p) (place : List String) :
    ps.foldl toward place = place ++ ps ∧ ∀ w ∈ passed place ps, ∃ n, place ++ ps.take n = w := by
  induction ps generalizing place with
  | nil => exact ⟨by simp, List.forall_mem_nil _⟩
  | cons p ps ih =>
    obtain ⟨hp, hps⟩ := List.forall_mem_cons.1 h
    have hstep : toward place p = place ++ [p] := if_neg (by simpa using hp.ne_up)
    obtain ⟨haim, hpassed⟩ := ih hps (place ++ [p])
    rw [List.foldl_cons, passed, hstep, haim]
    refine ⟨by simp, List.forall_mem_cons.2 ⟨⟨0, by simp⟩, fun w hw => ?_⟩⟩
    obtain ⟨n, rfl⟩ := hpassed w hw
    exact ⟨n + 1, by simp⟩

/-- A file that a path leads to is read there. -/
theorem read?_of_file (hd : d.Settled) (hpath : isAbsolute path = false) {content : String}
    (h : d.entry? path = some (.file content)) :
    d.read? path = some (join d.currentPath path, content) := by
  have hentry : d.entry? (join d.currentPath path) = some (.file content) := by
    obtain ⟨hne, hway, hfile, hnames⟩ := entry?_eq_some.1 h
    obtain ⟨haim, hpassed⟩ := toward_names hd.names []
    have hcurrent : d.currentPath ≠ "" := by simp [currentPath, absolute]
    have hparts : parts (join d.currentPath path) = d.current ++ parts path := by
      rw [Path.parts_join hpath hcurrent, currentPath, Path.parts_absolute hd.names]
    have habsolute : isAbsolute (join d.currentPath path) = true :=
      Path.isAbsolute_join hpath (Path.isAbsolute_absolute d.current)
    have hstart : d.start (join d.currentPath path) = [] := if_pos habsolute
    have hhere : d.start path = d.current := if_neg (by simp [hpath])
    rw [aim, hhere] at hfile
    rw [way, hhere] at hway
    refine entry?_eq_some.2 ⟨?_, ?_, ?_, ?_⟩
    · intro hempty
      simp [hempty, isAbsolute] at habsolute
    · rw [way, hstart, hparts, passed_append, haim]
      refine List.forall_mem_append.2 ⟨fun w hw => ?_, hway⟩
      obtain ⟨n, rfl⟩ := hpassed w hw
      exact hd.directory n
    · rw [aim, hstart, hparts, List.foldl_append, haim]
      exact hfile
    · rwa [Path.namesDirectory_join hpath hcurrent hne]
  have hfirst : d.tries path = join d.currentPath path ::
      (List.range d.current.length).reverse.map fun n =>
        join (absolute (d.current.take n)) path := by
    rw [tries, List.range_succ, List.reverse_concat, List.map_cons, List.take_length, currentPath]
  rw [read?_eq, if_neg (by simp [hpath]), hfirst, List.findSome?_cons, file?, hentry]

end

/-! ## Disks of a file system -/

/-- Everything is in a directory, and so is the current directory, under names of its own. -/
structure Sound (d : Disk) : Prop where
  inside : ∀ {place name}, d.lookup (place ++ [name]) ≠ none → d.lookup place = some .directory
  current : d.lookup d.current = some .directory
  names : ∀ part ∈ d.current, Path.IsName part

/-- Around everything there are directories. -/
theorem Sound.around {d : Disk} (h : d.Sound) {place rest : List String}
    (hthere : d.lookup (place ++ rest) ≠ none) (hrest : rest ≠ []) :
    d.lookup place = some .directory := by
  induction rest using List.reverseRecOn with
  | nil => exact absurd rfl hrest
  | append_singleton rest name ih =>
    have hdirectory := h.inside (List.append_assoc place rest [name] ▸ hthere)
    by_cases hrest : rest = []
    · simpa [hrest] using hdirectory
    · exact ih (by simp [hdirectory]) hrest

theorem Sound.settled {d : Disk} (h : d.Sound) : d.Settled := by
  refine ⟨h.names, fun n => ?_⟩
  by_cases hrest : d.current.drop n = []
  · have htake := List.take_append_drop n d.current
    rw [hrest, List.append_nil] at htake
    rw [htake, h.current]
  · exact h.around (by simp [List.take_append_drop, h.current]) hrest

/-! ## The files at some places -/

/-- There is nothing in `d`, but a directory in `e`. -/
def Made (d e : Disk) (place : List String) : Prop :=
  d.lookup place = none ∧ e.lookup place = some .directory

/-- From `d` to `e`, files have been made, removed or changed at places, and directories may have
been made for them. -/
structure Alters (d e : Disk) (places : Set (List String)) : Prop where
  current : e.current = d.current
  files : ∀ q ∈ places, d.lookup q ≠ some .directory ∧ e.lookup q ≠ some .directory
  elsewhere : ∀ q ∉ places, e.lookup q = d.lookup q ∨ d.Made e q

/-- No directory that has been made is one that the path leads to, or leads into and out of. -/
def Clear (d e : Disk) (path : String) : Prop :=
  ∀ q, d.Made e q → q ≠ d.aim path ∧ (q ∈ d.way path → q <+: d.aim path)

/-- A path that leads somewhere does not depend on directories that have been made. -/
theorem clear_of_there {d e : Disk} {path : String} {x : Entry} (h : d.entry? path = some x) :
    d.Clear e path := by
  obtain ⟨-, hway, hx, -⟩ := entry?_eq_some.1 h
  rintro q ⟨hnone, -⟩
  refine ⟨?_, fun hq => ?_⟩
  · rintro rfl
    cases hnone.symm.trans hx
  · cases hnone.symm.trans (hway q hq)

/-- The written paths under which the file at a path is looked for. Only what is a directory as seen
from the current one is looked for elsewhere. -/
def looks (d : Disk) (path : String) : List String :=
  path :: if d.entry? path = some .directory then d.tries path else []

namespace Alters

variable {d e : Disk} {places : Set (List String)} {path : String}

theorem aim_eq (h : d.Alters e places) (path : String) : e.aim path = d.aim path := by
  rw [aim, aim, start, start, h.current]

theorem way_eq (h : d.Alters e places) (path : String) : e.way path = d.way path := by
  rw [way, way, start, start, h.current]

theorem directory (h : d.Alters e places) {q : List String} (hq : d.lookup q = some .directory) :
    e.lookup q = some .directory := by
  by_cases hplace : q ∈ places
  · exact absurd hq (h.files q hplace).1
  · rcases h.elsewhere q hplace with heq | ⟨hnone, -⟩
    · rw [heq, hq]
    · cases hq.symm.trans hnone

/-- A path that aims elsewhere leads to the same as before. -/
theorem entry?_eq (hd : d.Sound) (h : d.Alters e places) (hclear : d.Clear e path)
    (haim : d.aim path ∉ places) : e.entry? path = d.entry? path := by
  have hleaf : e.lookup (d.aim path) = d.lookup (d.aim path) :=
    (h.elsewhere _ haim).resolve_right fun hmade => (hclear _ hmade).1 rfl
  have hway (x : Entry) (hx : d.lookup (d.aim path) = some x) :
      ∀ w ∈ d.way path, e.lookup w = some .directory ↔ d.lookup w = some .directory := by
    intro w hw
    refine ⟨fun hdirectory => ?_, h.directory⟩
    by_cases hplace : w ∈ places
    · exact absurd hdirectory (h.files w hplace).2
    · rcases h.elsewhere w hplace with heq | hmade
      · rw [← heq, hdirectory]
      · -- The directory would be around the place, where there has been something before.
        obtain ⟨hne, hprefix⟩ := hclear w hmade
        obtain ⟨rest, hrest⟩ := hprefix hw
        have hthere : d.lookup (w ++ rest) ≠ none := by simp [hrest, hx]
        refine hd.around hthere ?_
        rintro rfl
        exact hne (by simpa using hrest)
  ext x
  rw [entry?_eq_some, entry?_eq_some, h.aim_eq, h.way_eq, hleaf]
  refine and_congr_right fun _ => ?_
  constructor
  · rintro ⟨hpassed, hx, hnames⟩
    exact ⟨fun w hw => (hway x hx w hw).1 (hpassed w hw), hx, hnames⟩
  · rintro ⟨hpassed, hx, hnames⟩
    exact ⟨fun w hw => (hway x hx w hw).2 (hpassed w hw), hx, hnames⟩

theorem settled (hd : d.Sound) (h : d.Alters e places) : e.Settled := by
  refine ⟨h.current ▸ hd.names, fun n => h.current ▸ h.directory ?_⟩
  exact hd.settled.directory n

/-- What is read for a path that leads somewhere is the same if it is looked for elsewhere. -/
theorem read?_eq (hd : d.Sound) (h : d.Alters e places) (hclear : ∀ p ∈ d.looks path, d.Clear e p)
    (haim : ∀ p ∈ d.looks path, d.aim p ∉ places) (hthere : d.exists? path = true) :
    e.read? path = d.read? path := by
  have hentry {p : String} (hp : p ∈ d.looks path) : e.entry? p = d.entry? p :=
    h.entry?_eq hd (hclear p hp) (haim p hp)
  have hfile {p : String} (hp : p ∈ d.looks path) : e.file? p = d.file? p := by
    rw [file?, file?, hentry hp]
  have hself : path ∈ d.looks path := List.mem_cons_self
  cases hpath : isAbsolute path with
  | true => rw [Disk.read?_eq, Disk.read?_eq, if_pos hpath, if_pos hpath, hfile hself]
  | false =>
    cases hx : d.entry? path with
    | none => simp [exists?, hx] at hthere
    | some x =>
      cases x with
      | file content =>
        have hcurrentPath : e.currentPath = d.currentPath := by rw [currentPath, h.current]; rfl
        rw [read?_of_file hd.settled hpath hx,
          read?_of_file (h.settled hd) hpath ((hentry hself).trans hx), hcurrentPath]
      | directory =>
        have htries : e.tries path = d.tries path := by rw [tries, h.current]; rfl
        have hfiles : (d.tries path).map e.file? = (d.tries path).map d.file? := by
          refine List.map_congr_left fun p hp => hfile (List.mem_cons_of_mem _ ?_)
          rwa [if_pos hx]
        have hmap (f : String → Option (String × String)) :
            (d.tries path).findSome? f = ((d.tries path).map f).findSome? id := by
          rw [List.findSome?_map, Function.id_comp]
        rw [Disk.read?_eq, Disk.read?_eq, hpath, if_neg Bool.false_ne_true,
          if_neg Bool.false_ne_true, htries, hmap, hfiles, hmap]

end Alters

/-! ## Disks from lists -/

/-- The disk with the places of a list. -/
def ofList (current : List String) (entries : List (List String × Entry)) : Disk where
  current := current
  lookup place := entries.lookup place

section

variable {current : List String} {entries new : List (List String × Entry)}

theorem mem_of_lookup {place : List String} {x : Entry} (h : entries.lookup place = some x) :
    (place, x) ∈ entries := by
  obtain ⟨front, back, rfl, -⟩ := List.lookup_eq_some_iff.1 h
  simp

theorem sound_ofList (hcurrent : entries.lookup current = some .directory)
    (hnames : ∀ part ∈ current, Path.IsName part)
    (hinside : ∀ p ∈ entries, p.1 = [] ∨ entries.lookup p.1.dropLast = some .directory) :
    (ofList current entries).Sound := by
  refine ⟨fun {place name} hthere => ?_, hcurrent, hnames⟩
  obtain ⟨x, hx⟩ := Option.ne_none_iff_exists'.1 hthere
  exact (hinside _ (mem_of_lookup hx)).elim (by simp) (by simp [ofList])

theorem lookup_ofList_append (place : List String) :
    (ofList current (new ++ entries)).lookup place =
      (new.lookup place).or ((ofList current entries).lookup place) :=
  List.lookup_append

/-- A directory that has been made is one of the places that have been put over the disk. -/
theorem made_ofList {place : List String}
    (h : (ofList current entries).Made (ofList current (new ++ entries)) place) :
    (place, .directory) ∈ new := by
  obtain ⟨hnone, hdirectory⟩ := h
  rw [lookup_ofList_append, hnone, Option.or_none] at hdirectory
  exact mem_of_lookup hdirectory

theorem alters_ofList {places : Set (List String)}
    (hnew : ∀ p ∈ new, p.1 ∈ places ∨ p.2 = .directory ∧ entries.lookup p.1 = none)
    (hplaces : ∀ q ∈ places, entries.lookup q ≠ some .directory ∧
      (new ++ entries).lookup q ≠ some .directory) :
    (ofList current entries).Alters (ofList current (new ++ entries)) places := by
  refine ⟨rfl, hplaces, fun q hq => ?_⟩
  rw [Made, lookup_ofList_append]
  cases hlookup : new.lookup q with
  | none => exact .inl Option.none_or
  | some x =>
    obtain ⟨rfl, hnone⟩ := (hnew _ (mem_of_lookup hlookup)).resolve_left hq
    exact .inr ⟨hnone, Option.some_or⟩

end

end ChatCommand.Settings.Disk
