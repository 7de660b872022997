import ChatCommand.Proofs.Settings.RoundTrip
import Mathlib.Data.List.Infix

/-!
# Settings written in part

A tree that settings were written to may be edited: a field that has its default, or a whole
structure of defaults, may be deleted, and keys that no structure knows may be added
(`Edit.Harmless`). What is left is a `Thinned` tree: at every field that is still there it says what
was written, and what is missing was a default. A harmless edit leaves a thinned tree
(`Thinned.apply`), so a run of them does (`Thinned.run`).

A thinned tree can be read (`Thinned.exists_decode`), and on the path of every setting it either is
the tree that was written or has nothing where a default was (`Thinned.along`). Hence
`decode_edits`: after any run of harmless edits, the settings that were written are read. A field
that is missing in a structure is filled in field by field, a structure that is missing as a whole
at once; the theorem needs that both give the same.
-/

namespace ChatCommand.Settings

open Decoder

/-! ## Edits -/

/-- The structures of settings, each by its place and with its fields. All other values are read as
a whole. -/
def structures : List (List String × List String) :=
  [([], ["commands", "help", "logging"]),
    (["commands"], ["prefix", "operators"]),
    (["help"], ["enabled", "response"]),
    (["logging"],
      ["level", "format", "output", "file_path", "thread_ids", "file_location", "span_events",
        "filters"]),
    (["logging", "span_events"], ["new", "enter", "exit", "close"])]

/-- A change of the entries of a table. -/
inductive Change where
  | delete (key : String)
  | add (key : String) (value : Node)

/-- The entries once they have been changed. -/
def Change.run : Change → Entries Node → Entries Node
  | delete key, es => es.filter (·.1 != key)
  | add key value, es => es.insert key value

/-- A change of the table at a place. -/
structure Edit where
  place : List String
  change : Change

/-- The tree with the entries of the table at a place changed, if there is one. -/
def Node.changeAt (f : Entries Node → Entries Node) : List String → Node → Node
  | [], .table o es => .table o (f es)
  | k :: ks, .table o es =>
    .table o (es.map fun e => (e.1, if e.1 = k then changeAt f ks e.2 else e.2))
  | _, n => n

/-- The tree once it has been edited. -/
def Edit.apply (n : Node) (e : Edit) : Node :=
  n.changeAt e.change.run e.place

/-- An edit that must not matter where `s` was written. -/
inductive Edit.Harmless (s : Settings) : Edit → Prop
  /-- A structure loses a field whose value in `s` is that of the default settings. -/
  | delete {place fields : List String} {key : String} :
      (place, fields) ∈ structures → key ∈ fields →
      s.toData.at? (place ++ [key]) = (toData {}).at? (place ++ [key]) →
      Edit.Harmless s ⟨place, .delete key⟩
  /-- A structure gets a key that it does not know, with any tree. -/
  | add {place fields : List String} {key : String} {value : Node} :
      (place, fields) ∈ structures → key ∉ fields → value.Sorted →
      Edit.Harmless s ⟨place, .add key value⟩

/-! ## Places -/

theorem Data.at?_append (d : Data) (path rest : List String) :
    d.at? (path ++ rest) = (d.at? path).bind (at? · rest) := by
  induction path generalizing d with
  | nil => rfl
  | cons k ks ih =>
    cases d with
    | table es =>
      simp only [List.cons_append, at?]
      cases es.lookup k with
      | none => rfl
      | some d => exact ih d
    | _ => rfl

/-- A place has one list of fields. -/
theorem fields_unique {place fields fields' : List String} (h : (place, fields) ∈ structures)
    (h' : (place, fields') ∈ structures) : fields = fields' := by
  have hall : ∀ p ∈ structures, ∀ q ∈ structures, p.1 = q.1 → p.2 = q.2 := by decide
  exact hall _ h _ h' rfl

theorem fields_nodup {place fields : List String} (h : (place, fields) ∈ structures) :
    fields.Nodup := by
  have hall : ∀ p ∈ structures, p.2.Nodup := by decide
  exact hall _ h

/-- Around a structure there are structures only. -/
theorem exists_fields {place rest fields : List String} (h : (place ++ rest, fields) ∈ structures) :
    ∃ fields', (place, fields') ∈ structures := by
  have hall : ∀ p ∈ structures, ∀ place ∈ p.1.inits, ∃ q ∈ structures, q.1 = place := by decide
  have hplace : place ∈ (place ++ rest).inits := (List.mem_inits _ _).2 (List.prefix_append _ _)
  obtain ⟨⟨_, fields'⟩, hq, rfl⟩ := hall _ h place hplace
  exact ⟨fields', hq⟩

/-- Every setting is at the end of a path of fields. -/
theorem Setting.mem_fields (σ : Setting) {place fields rest : List String} {k : String}
    (h : (place, fields) ∈ structures) (hpath : σ.path = place ++ k :: rest) : k ∈ fields := by
  simp only [structures, List.mem_cons, List.not_mem_nil, or_false, Prod.mk.injEq] at h
  rcases h with ⟨rfl, rfl⟩ | ⟨rfl, rfl⟩ | ⟨rfl, rfl⟩ | ⟨rfl, rfl⟩ | ⟨rfl, rfl⟩
  all_goals cases σ <;> simp_all [Setting.path]

/-- No setting is a structure. -/
theorem Setting.path_not_mem (σ : Setting) : σ.path ∉ structures.map (·.1) := by
  cases σ <;> simp [structures, Setting.path]

/-! ## Thinned trees -/

/-- What is left at a place of a tree of `d`: all values that are there are those of `d`, and fields
are missing only where `d` is as `e`. -/
inductive Thinned (o : Origin) (d e : Data) : List String → Node → Prop
  | value {place : List String} {v : Data} :
      place ∉ structures.map (·.1) → d.at? place = some v → Thinned o d e place (v.toNode o)
  | table {place fields : List String} {v : Data} {o' : Origin} {es : Entries Node} :
      (place, fields) ∈ structures → d.at? place = some v →
      (∀ key ∈ fields, ∀ n, (key, n) ∈ es → Thinned o d e (place ++ [key]) n) →
      (∀ key ∈ fields, Entries.get? es key = none →
        d.at? (place ++ [key]) = e.at? (place ++ [key])) →
      Thinned o d e place (.table o' es)

namespace Thinned

variable {o : Origin} {d e : Data} {place fields : List String} {n : Node} {v : Data}

theorem exists_at (h : Thinned o d e place n) : ∃ v, d.at? place = some v := by
  cases h with
  | value _ hv => exact ⟨_, hv⟩
  | table _ hv => exact ⟨_, hv⟩

theorem eq_toNode (h : Thinned o d e place n) (hplace : place ∉ structures.map (·.1))
    (hv : d.at? place = some v) : n = v.toNode o := by
  cases h with
  | value _ hw =>
    obtain rfl := Option.some.inj (hw.symm.trans hv)
    rfl
  | table hfields => exact absurd (List.mem_map.2 ⟨_, hfields, rfl⟩) hplace

theorem exists_table (h : Thinned o d e place n) (hplace : (place, fields) ∈ structures) :
    ∃ o' es, n = .table o' es ∧
      (∀ key ∈ fields, ∀ n, (key, n) ∈ es → Thinned o d e (place ++ [key]) n) ∧
      ∀ key ∈ fields, Entries.get? es key = none →
        d.at? (place ++ [key]) = e.at? (place ++ [key]) := by
  cases h with
  | value hnot => exact absurd (List.mem_map.2 ⟨_, hplace, rfl⟩) hnot
  | table hfields _ hthere hmissing =>
    obtain rfl := fields_unique hplace hfields
    exact ⟨_, _, rfl, hthere, hmissing⟩

/-! ### Nothing left out -/

/-- A structure that has all its fields is thinned if they are. -/
theorem of_fields {es : List (String × Data)} (hplace : (place, fields) ∈ structures)
    (hes : d.at? place = some (.table es)) (hkeys : es.map (·.1) = fields)
    (h : ∀ key ∈ fields, ∀ v, d.at? (place ++ [key]) = some v →
      Thinned o d e (place ++ [key]) (v.toNode o)) :
    Thinned o d e place ((Data.table es).toNode o) := by
  have hnodup : (es.map (·.1)).Nodup := hkeys ▸ fields_nodup hplace
  refine .table hplace hes (fun key hkey n hn => ?_) (fun key hkey hnone => ?_)
  · obtain ⟨v, hv, rfl⟩ := mem_entriesToNodes hn
    refine h key hkey v ?_
    rw [Data.at?_append, hes]
    simpa [Data.at?] using (mem_iff_lookup hnodup).1 hv
  · obtain ⟨⟨_, v⟩, hv, rfl⟩ := List.mem_map.1 (hkeys ▸ hkey)
    rw [get?_entriesToNodes o hnodup, (mem_iff_lookup hnodup).1 hv] at hnone
    cases hnone

/-- Settings that are written are thinned, with nothing left out. -/
theorem of_toData (s : Settings) (o : Origin) (e : Data) :
    Thinned o s.toData e [] (s.toData.toNode o) := by
  have hvalues {place fields : List String}
      (hplace : ∀ key ∈ fields, place ++ [key] ∉ structures.map (·.1)) :
      ∀ key ∈ fields, ∀ v, s.toData.at? (place ++ [key]) = some v →
        Thinned o s.toData e (place ++ [key]) (v.toNode o) :=
    fun key hkey v hv => .value (hplace key hkey) hv
  have hcommands : Thinned o s.toData e ["commands"] (s.commands.toData.toNode o) :=
    of_fields (.tail _ (.head _)) rfl rfl (hvalues (by decide))
  have hhelp : Thinned o s.toData e ["help"] (s.help.toData.toNode o) :=
    of_fields (.tail _ (.tail _ (.head _))) rfl rfl (hvalues (by decide))
  have hspans : Thinned o s.toData e ["logging", "span_events"]
      (s.logging.spanEvents.toData.toNode o) :=
    of_fields (.tail _ (.tail _ (.tail _ (.tail _ (.head _))))) rfl rfl (hvalues (by decide))
  have hlogging : Thinned o s.toData e ["logging"] (s.logging.toData.toNode o) := by
    refine of_fields (.tail _ (.tail _ (.tail _ (.head _)))) rfl rfl fun key hkey v hv => ?_
    by_cases hspan : key = "span_events"
    · subst hspan
      obtain rfl := Option.some.inj hv
      exact hspans
    · have hplace : ∀ key ∈ ["level", "format", "output", "file_path", "thread_ids",
          "file_location", "span_events", "filters"], key ≠ "span_events" →
          ["logging"] ++ [key] ∉ structures.map (·.1) := by decide
      exact .value (hplace key hkey hspan) hv
  refine of_fields (.head _) rfl rfl ?_
  simp only [List.forall_mem_cons]
  refine ⟨?_, ?_, ?_, List.forall_mem_nil _⟩
  all_goals
    intro v hv
    obtain rfl := Option.some.inj hv
    assumption

/-! ### Edits -/

/-- The entries of a structure may change so long as fields stay what they are and go only where
they are defaults. -/
theorem changeAt {f : Entries Node → Entries Node} {path rest : List String}
    (hpath : (path, fields) ∈ structures)
    (hkept : ∀ es entry, entry.1 ∈ fields → entry ∈ f es → entry ∈ es)
    (hgone : ∀ es, ∀ key ∈ fields, Entries.get? (f es) key = none →
      Entries.get? es key = none ∨ d.at? (path ++ [key]) = e.at? (path ++ [key]))
    (hrest : place ++ rest = path) (h : Thinned o d e place n) :
    Thinned o d e place (n.changeAt f rest) := by
  -- On the way to the table there are structures only, so each of them leads on by a field.
  induction rest generalizing place n with
  | nil =>
    obtain rfl : place = path := by simpa using hrest
    obtain ⟨v, hv⟩ := h.exists_at
    obtain ⟨o', es, rfl, hthere, hmissing⟩ := h.exists_table hpath
    refine .table hpath hv (fun key hkey m hm => ?_) (fun key hkey hnone => ?_)
    · exact hthere key hkey m (hkept es (key, m) hkey hm)
    · exact (hgone es key hkey hnone).elim (hmissing key hkey) id
  | cons k ks ih =>
    obtain ⟨fields', hplace⟩ := exists_fields (hrest ▸ hpath)
    obtain ⟨v, hv⟩ := h.exists_at
    obtain ⟨o', es, rfl, hthere, hmissing⟩ := h.exists_table hplace
    refine .table hplace hv (fun key hkey m hm => ?_) (fun key hkey hnone => hmissing key hkey ?_)
    · obtain ⟨⟨j, m'⟩, hm', heq⟩ := List.mem_map.1 hm
      obtain ⟨rfl, rfl⟩ := Prod.ext_iff.1 heq
      have hbefore := hthere j hkey m' hm'
      split
      · next hk => exact ih (by simp [← hrest, ← hk]) hbefore
      · exact hbefore
    · refine List.lookup_eq_none_iff.2 fun entry hentry => bne_iff_ne.2 ?_
      exact (ne_of_get?_none hnone _ (List.mem_map.2 ⟨entry, hentry, rfl⟩)).symm

/-- An edit that must not matter leaves fields what they are, but for those that are defaults. -/
theorem apply {s : Settings} {edit : Edit} (hedit : edit.Harmless s)
    (h : Thinned o s.toData (toData {}) [] n) :
    Thinned o s.toData (toData {}) [] (edit.apply n) := by
  cases hedit with
  | delete hplace hkey hdefault =>
    rename_i place fields key
    refine changeAt hplace (fun es entry _ hentry => List.mem_of_mem_filter hentry)
      (fun es j hj hnone => ?_) rfl h
    by_cases hjk : j = key
    · exact .inr (hjk ▸ hdefault)
    · refine .inl (List.lookup_eq_none_iff.2 fun entry hentry => bne_iff_ne.2 ?_)
      rintro rfl
      exact ne_of_get?_none hnone entry (List.mem_filter.2 ⟨hentry, bne_iff_ne.2 hjk⟩) rfl
  | add hplace hkey hvalue =>
    rename_i place fields key value
    refine changeAt hplace (fun es entry hfield hentry => ?_) (fun es j hj hnone => .inl ?_) rfl h
    · rcases Entries.mem_insert hentry with rfl | hentry
      · exact absurd hfield hkey
      · exact hentry
    · have hne : j ≠ key := fun hjk => hkey (hjk ▸ hj)
      rwa [Change.run, Entries.get?_insert_of_ne hne] at hnone

end Thinned

/-! ## Sorted trees -/

theorem Node.Sorted.changeAt {f : Entries Node → Entries Node}
    (hf : ∀ es, SortedEntries es → SortedEntries (f es)) {path : List String} {n : Node}
    (h : n.Sorted) : (n.changeAt f path).Sorted := by
  induction path generalizing n with
  | nil =>
    cases n with
    | table o es => exact .of_entries (hf es h.entries)
    | _ => exact h
  | cons k ks ih =>
    cases n with
    | table o es =>
      obtain ⟨hordered, hvalues⟩ := h.entries
      refine .table (List.pairwise_map.2 hordered) fun e' he' => ?_
      obtain ⟨e, he, rfl⟩ := List.mem_map.1 he'
      have hvalue := hvalues e he
      dsimp only
      split
      · exact ih hvalue
      · exact hvalue
    | _ => exact h

theorem Edit.Harmless.sorted {s : Settings} {edit : Edit} (hedit : edit.Harmless s) {n : Node}
    (h : n.Sorted) : (edit.apply n).Sorted := by
  refine h.changeAt fun es hes => ?_
  cases hedit with
  | delete =>
    exact ⟨hes.1.filter _, fun e he => hes.2 e (List.mem_of_mem_filter he)⟩
  | add _ _ hvalue => exact hes.insert _ hvalue

/-- After any run of edits that must not matter, the tree is sorted and thinned. -/
theorem Thinned.run {s : Settings} {o : Origin} {edits : List Edit}
    (hedits : ∀ e ∈ edits, e.Harmless s) {n : Node} (hn : n.Sorted)
    (h : Thinned o s.toData (toData {}) [] n) :
    (edits.foldl Edit.apply n).Sorted ∧
      Thinned o s.toData (toData {}) [] (edits.foldl Edit.apply n) := by
  induction edits generalizing n with
  | nil => exact ⟨hn, h⟩
  | cons e edits ih =>
    obtain ⟨he, hedits⟩ := List.forall_mem_cons.1 hedits
    exact ih hedits (he.sorted hn) (h.apply he)

/-! ## Thinned trees can be read -/

/-- A structure can be read if its fields can; what they all keep up holds of what is read. -/
theorem exists_structured {α : Type} {P : α → Prop} {k : Strictness} {typeName : String}
    {names : List String} {default : α} {field : α → String → Option (Decoder α)}
    {place : List String} {o : Origin} {es : Entries Node} (hdefault : P default)
    (h : ∀ e ∈ es, ∀ a d, P a → field a e.1 = some d →
      ∃ b, d (place ++ [e.1]) e.2 = .ok b ∧ P b) :
    ∃ a, structured k typeName names default field place (.table o es) = .ok a ∧ P a := by
  rw [structured_table]
  induction es generalizing default with
  | nil => exact ⟨default, rfl, hdefault⟩
  | cons e es ih =>
    obtain ⟨he, hes⟩ := List.forall_mem_cons.1 h
    obtain ⟨b, hb, hPb⟩ : ∃ b, step field default (e.1, place ++ [e.1], e.2) = .ok b ∧ P b := by
      unfold step
      cases hfield : field default e.1 with
      | none => exact ⟨default, rfl, hdefault⟩
      | some d => exact he default d hdefault hfield
    obtain ⟨a, ha, hPa⟩ := ih hPb hes
    refine ⟨a, ?_, hPa⟩
    rw [List.map_cons, List.foldlM_cons]
    exact bind_eq_ok.2 ⟨b, hb, ha⟩

namespace Thinned

section

variable {α β : Type} {P : α → Prop} {o : Origin} {d e : Data} {here fields place : List String}
  {n : Node}

/-- A structure can be read if every field that it knows can. -/
theorem exists_structure (h : Thinned o d e here n) (hhere : (here, fields) ∈ structures)
    {k : Strictness} {typeName : String} {names : List String} {default : α}
    {field : α → String → Option (Decoder α)} (hdefault : P default)
    (hfield : ∀ a key dec, P a → field a key = some dec → key ∈ fields ∧
      ∀ m, Thinned o d e (here ++ [key]) m → ∃ b, dec (place ++ [key]) m = .ok b ∧ P b) :
    ∃ a, structured k typeName names default field place n = .ok a ∧ P a := by
  obtain ⟨o', es, rfl, hthere, -⟩ := h.exists_table hhere
  refine exists_structured hdefault fun entry hentry a dec hPa hdec => ?_
  obtain ⟨hkey, hread⟩ := hfield a entry.1 dec hPa hdec
  exact hread entry.2 (hthere entry.1 hkey entry.2 hentry)

/-- A value that is read as a whole can be read if it could when it was written. -/
theorem exists_value {v : Data} {dec : Decoder β} {f : β → α} {b : β} (h : Thinned o d e here n)
    (hhere : here ∉ structures.map (·.1)) (hv : d.at? here = some v)
    (hread : dec place (v.toNode o) = .ok b) (hP : P (f b)) :
    ∃ a, dec.into f place n = .ok a ∧ P a := by
  obtain rfl := h.eq_toNode hhere hv
  exact ⟨f b, into_eq_ok.2 ⟨b, hread, rfl⟩, hP⟩

end

variable {o : Origin} {e : Data} {s : Settings} {n : Node} (k : Strictness) (place : List String)

theorem exists_decodeCommands (h : Thinned o s.toData e ["commands"] n) :
    ∃ a, decodeCommands k place n = .ok a := by
  refine Exists.imp (fun _ => And.left) <| h.exists_structure (P := fun _ => True)
    (.tail _ (.head _)) trivial fun a key dec _ hdec => ?_
  split at hdec
  all_goals cases hdec
  · exact ⟨by decide, fun m hm => hm.exists_value (by decide) rfl (text_toData _ _ _) trivial⟩
  · exact ⟨by decide, fun m hm => hm.exists_value (by decide) rfl (list_texts _ _ _) trivial⟩

theorem exists_decodeHelp (h : Thinned o s.toData e ["help"] n) :
    ∃ a, decodeHelp k place n = .ok a := by
  refine Exists.imp (fun _ => And.left) <| h.exists_structure (P := fun _ => True)
    (.tail _ (.tail _ (.head _))) trivial fun a key dec _ hdec => ?_
  split at hdec
  all_goals cases hdec
  · exact ⟨by decide, fun m hm => hm.exists_value (by decide) rfl (bool_toData _ _ _) trivial⟩
  · exact ⟨by decide,
      fun m hm => hm.exists_value (by decide) rfl (decodeResponse_name _ _ _ _) trivial⟩

theorem exists_decodeSpanEvents (h : Thinned o s.toData e ["logging", "span_events"] n) :
    ∃ a, decodeSpanEvents k place n = .ok a := by
  refine Exists.imp (fun _ => And.left) <| h.exists_structure (P := fun _ => True)
    (.tail _ (.tail _ (.tail _ (.tail _ (.head _))))) trivial fun a key dec _ hdec => ?_
  split at hdec
  all_goals cases hdec
  all_goals
    exact ⟨by decide, fun m hm => hm.exists_value (by decide) rfl (bool_toData _ _ _) trivial⟩

/-- The filters that are read have each name once. -/
theorem exists_decodeLogging (hs : (s.logging.filters.map (·.1)).Nodup)
    (h : Thinned o s.toData e ["logging"] n) :
    ∃ l, decodeLogging k place n = .ok l ∧ (l.filters.map (·.1)).Nodup := by
  refine h.exists_structure (.tail _ (.tail _ (.tail _ (.head _)))) .nil
    fun l key dec hl hdec => ?_
  split at hdec
  all_goals cases hdec
  · exact ⟨by decide, fun m hm => hm.exists_value (by decide) rfl (decodeLevel_name _ _ _ _) hl⟩
  · exact ⟨by decide, fun m hm => hm.exists_value (by decide) rfl (decodeFormat_name _ _ _ _) hl⟩
  · exact ⟨by decide, fun m hm => hm.exists_value (by decide) rfl (decodeOutput_name _ _ _ _) hl⟩
  · exact ⟨by decide, fun m hm => hm.exists_value (by decide) rfl (path?_toData _ _ _) hl⟩
  · exact ⟨by decide, fun m hm => hm.exists_value (by decide) rfl (bool_toData _ _ _) hl⟩
  · exact ⟨by decide, fun m hm => hm.exists_value (by decide) rfl (bool_toData _ _ _) hl⟩
  · refine ⟨by decide, fun m hm => ?_⟩
    obtain ⟨spans, hspans⟩ := hm.exists_decodeSpanEvents k (place ++ ["span_events"])
    exact ⟨_, into_eq_ok.2 ⟨spans, hspans, rfl⟩, hl⟩
  · refine ⟨by decide, fun m hm => ?_⟩
    obtain ⟨gs, hgs, hperm⟩ := table_filters k (place ++ ["filters"]) o s.logging.filters
    exact hm.exists_value (by decide) rfl hgs (((hperm hs).map _).nodup_iff.2 hs)

theorem exists_decode (hs : (s.logging.filters.map (·.1)).Nodup)
    (h : Thinned o s.toData e [] n) :
    ∃ t, decode k place n = .ok t ∧ (t.logging.filters.map (·.1)).Nodup := by
  refine h.exists_structure (.head _) .nil fun t key dec ht hdec => ?_
  split at hdec
  all_goals cases hdec
  · refine ⟨by decide, fun m hm => ?_⟩
    obtain ⟨c, hc⟩ := hm.exists_decodeCommands k (place ++ ["commands"])
    exact ⟨_, into_eq_ok.2 ⟨c, hc, rfl⟩, ht⟩
  · refine ⟨by decide, fun m hm => ?_⟩
    obtain ⟨a, ha⟩ := hm.exists_decodeHelp k (place ++ ["help"])
    exact ⟨_, into_eq_ok.2 ⟨a, ha, rfl⟩, ht⟩
  · refine ⟨by decide, fun m hm => ?_⟩
    obtain ⟨l, hl, hfilters⟩ := hm.exists_decodeLogging k (place ++ ["logging"]) hs
    exact ⟨_, into_eq_ok.2 ⟨l, hl, rfl⟩, hfilters⟩

/-! ### Settings, one by one -/

/-- On the path of a setting, a thinned tree is the tree that was written, or it has nothing there
and what was written is the default. -/
theorem along (σ : Setting) {d : Data} {v : Data} {here path : List String}
    (h : Thinned o d e here n) (hv : d.at? here = some v) (hpath : σ.path = here ++ path)
    (hregular : v.Regular path) :
    n.along path = (v.toNode o).along path ∨
      n.along path = none ∧ d.at? σ.path = e.at? σ.path := by
  -- Both trees are followed at once, until the thinned one has no such field or is a whole value.
  induction path generalizing here n v with
  | nil =>
    rw [List.append_nil] at hpath
    exact .inl (by rw [h.eq_toNode (hpath ▸ σ.path_not_mem) hv])
  | cons k ks ih =>
    cases h with
    | value _ hw =>
      obtain rfl := Option.some.inj (hw.symm.trans hv)
      exact .inl rfl
    | @table _ fields _ o' es hfields _ hthere hmissing =>
      have hk := σ.mem_fields hfields hpath
      have hsplit : σ.path = (here ++ [k]) ++ ks := by simp [hpath]
      rw [Node.along]
      cases hes : Entries.get? es k with
      | none =>
        refine .inr ⟨rfl, ?_⟩
        rw [hsplit, Data.at?_append, Data.at?_append e, hmissing k hk hes]
      | some m =>
        have hm := hthere k hk m (Entries.mem_of_get? hes)
        obtain ⟨w, hw⟩ := hm.exists_at
        cases v with
        | table vs =>
          have hlookup : vs.lookup k = some w := by
            rw [Data.at?_append, hv] at hw
            simpa [Data.at?] using hw
          rw [Data.toNode, Node.along, get?_entriesToNodes o hregular.1, hlookup]
          rcases ih hm hw hsplit (hregular.2 w hlookup) with heq | ⟨hnone, heq⟩
          · exact .inl (by simp [heq])
          · exact .inr ⟨by simp [hnone], heq⟩
        | _ => exact hregular.elim

/-- Every setting that is read off a thinned tree is what was written. -/
theorem value?_eq (hs : (s.logging.filters.map (·.1)).Nodup) (hn : n.Sorted)
    (h : Thinned o s.toData (toData {}) [] n) {t : Settings} (ht : decode k place n = .ok t)
    (σ : Setting) : value? t σ = value? s σ := by
  obtain ⟨gs, hgs, hperm⟩ := decode_toData k place o s
  have hwhole : value? { s with logging.filters := gs } σ = value? s σ := by
    cases σ with
    | filter name => rw [value?_filter, value?_filter, lookup_of_perm hs (hperm hs)]
    | _ => rfl
  -- What is read hangs on the part along the path, so the whole tree need not be the same.
  obtain ⟨hsome, hnone⟩ := reads_decode k σ place n t hn ht
  rcases h.along σ rfl (List.nil_append σ.path).symm (regular_toData s σ fun _ _ => hs) with
    heq | ⟨hmissing, hdefault⟩
  · obtain ⟨hsome', hnone'⟩ := reads_decode k σ place _ _ (Node.sorted_toNode o _) hgs
    rw [← heq] at hsome' hnone'
    rw [← hwhole]
    cases hpart : n.along σ.path with
    | none => exact (hnone hpart).trans (hnone' hpart).symm
    | some part =>
      obtain ⟨b, hb, hvalue⟩ := hsome part hpart
      obtain ⟨b', hb', hvalue'⟩ := hsome' part hpart
      obtain rfl := Except.ok.inj (hb.symm.trans hb')
      exact hvalue.symm.trans hvalue'
  · exact (hnone hmissing).trans hdefault.symm

end Thinned

/-! ## After edits that must not matter -/

/-- Settings are read from a tree that they were written to, whatever of their defaults has been
deleted from it and whatever unknown keys have been added. -/
theorem decode_edits {c : Settings} (hc : (c.logging.filters.map (·.1)).Nodup) {edits : List Edit}
    (hedits : ∀ e ∈ edits, e.Harmless c) (k : Strictness) (place : List String) (o : Origin) :
    ∃ gs, decode k place (edits.foldl Edit.apply (c.toData.toNode o)) =
        .ok { c with logging.filters := gs } ∧ gs.Perm c.logging.filters := by
  obtain ⟨hsorted, hthinned⟩ := Thinned.run hedits (Node.sorted_toNode o _) (.of_toData c o _)
  obtain ⟨t, ht, hnodup⟩ := hthinned.exists_decode k place hc
  have hvalue := hthinned.value?_eq k place hc hsorted ht
  refine ⟨t.logging.filters, ?_, perm_of_lookup hnodup hc fun name => ?_⟩
  · rw [ht, ← eq_of_value? fun σ _ => hvalue σ]
  · have hfilter := hvalue (.filter name)
    rw [value?_filter, value?_filter] at hfilter
    exact Option.map_injective (fun l l' h => level_name_inj.1 (textData_inj.1 h)) hfilter

/-- A section and three fields are left out, one of them with fields of its own, and two trees are
put in. -/
theorem decode_edits_sparse :
    let c : Settings :=
      { commands.sigil := "?", logging.filters := [("b", .warn), ("a", .trace)] }
    let edits : List Edit :=
      [⟨["logging", "span_events"], .add "follow" (.scalar .environment (.bool true))⟩,
        ⟨["logging", "span_events"], .delete "exit"⟩, ⟨["logging"], .delete "span_events"⟩,
        ⟨["logging"], .delete "level"⟩, ⟨["commands"], .delete "operators"⟩, ⟨[], .delete "help"⟩,
        ⟨[], .add "theme" (.table .environment [("dark", .scalar .environment .null)])⟩]
    (∀ e ∈ edits, e.Harmless c) ∧
      ∃ gs, decode .lenient [] (edits.foldl Edit.apply c.encode) =
          .ok { c with logging.filters := gs } ∧
        gs.Perm c.logging.filters := by
  intro c edits
  have hc : (c.logging.filters.map (·.1)).Nodup := by decide
  have htheme : (Node.table .environment [("dark", .scalar .environment .null)]).Sorted :=
    .table (List.pairwise_singleton _ _) (by simpa using .scalar)
  have hspans : (["logging", "span_events"], ["new", "enter", "exit", "close"]) ∈ structures :=
    .tail _ (.tail _ (.tail _ (.tail _ (.head _))))
  have hlogging : (["logging"], ["level", "format", "output", "file_path", "thread_ids",
      "file_location", "span_events", "filters"]) ∈ structures :=
    .tail _ (.tail _ (.tail _ (.head _)))
  have hharmless : ∀ e ∈ edits, e.Harmless c := by
    simp only [edits, List.forall_mem_cons]
    exact ⟨.add hspans (by decide) .scalar, .delete hspans (by decide) rfl,
      .delete hlogging (by decide) rfl, .delete hlogging (by decide) rfl,
      .delete (.tail _ (.head _)) (by decide) rfl, .delete (.head _) (by decide) rfl,
      .add (.head _) (by decide) htheme, List.forall_mem_nil _⟩
  exact ⟨hharmless, decode_edits hc hharmless .lenient [] .program⟩

end ChatCommand.Settings
