import ChatCommand.Proofs.Settings.Reading
import Mathlib.Data.List.Nodup

/-!
# Settings written and read again

What `Settings.encode` writes is read back as it was (`extract_encode`), but for the order of the
filters: the keys of a tree are sorted. The tree has every setting in its place (`shaped_encode`)
and says something on exactly those that the settings hold (`isSome_along_encode`). Written over the
defaults it leaves nothing of them (`merge_encode`).

Settings are made of their values: those with the same values are the same but for the filters
(`eq_of_value?`), which are a function of names (`value?_filter`).
-/

namespace ChatCommand.Settings

open Decoder

/-! ## Nodes from data -/

theorem listToNodes_eq (o : Origin) (ds : List Data) :
    Data.listToNodes o ds = ds.map (Data.toNode o) := by
  induction ds with
  | nil => rfl
  | cons d ds ih => rw [Data.listToNodes, ih, List.map_cons]

theorem mem_entriesToNodes {o : Origin} {es : List (String × Data)} {e : String × Node}
    (h : e ∈ Data.entriesToNodes o es) : ∃ d, (e.1, d) ∈ es ∧ e.2 = d.toNode o := by
  induction es with
  | nil => cases h
  | cons f es ih =>
    obtain ⟨j, d⟩ := f
    have hrest (h : e ∈ Data.entriesToNodes o es) :
        ∃ x, (e.1, x) ∈ (j, d) :: es ∧ e.2 = x.toNode o := by
      obtain ⟨x, hx, heq⟩ := ih h
      exact ⟨x, List.mem_cons_of_mem _ hx, heq⟩
    rw [Data.entriesToNodes] at h
    split at h
    · exact hrest h
    · rcases Entries.mem_insert h with rfl | h
      · exact ⟨d, List.mem_cons_self, rfl⟩
      · exact hrest h

theorem get?_entriesToNodes (o : Origin) {es : List (String × Data)}
    (hes : (es.map (·.1)).Nodup) (k : String) :
    Entries.get? (Data.entriesToNodes o es) k = (es.lookup k).map (Data.toNode o) := by
  induction es generalizing k with
  | nil => rfl
  | cons e es ih =>
    obtain ⟨j, d⟩ := e
    obtain ⟨hj, hes⟩ := List.nodup_cons.1 hes
    have hrest : Entries.get? (Data.entriesToNodes o es) j = none := by
      rw [ih hes, Option.map_eq_none_iff, List.lookup_eq_none_iff]
      intro e he
      rw [bne_iff_ne]
      exact fun hje => hj (List.mem_map.2 ⟨e, he, hje.symm⟩)
    simp only [Data.entriesToNodes, hrest, Option.isSome_none, Bool.false_eq_true, if_false,
      List.lookup_cons]
    by_cases hk : k = j
    · subst hk
      simp [Entries.get?_insert_self]
    · rw [Entries.get?_insert_of_ne hk, ih hes, beq_eq_false_iff_ne.2 hk]

/-- On the path there are tables, and none at its end. -/
def Data.Shaped : Data → List String → Prop
  | .table _, [] => False
  | _, [] => True
  | .table es, k :: ks => ∀ d, (k, d) ∈ es → d.Shaped ks
  | _, _ :: _ => False

theorem Data.Shaped.toNode {d : Data} {path : List String} (h : d.Shaped path) (o : Origin) :
    (d.toNode o).Shaped path := by
  induction path generalizing d with
  | nil =>
    cases d with
    | table es => exact h.elim
    | _ => trivial
  | cons k ks ih =>
    cases d with
    | table es =>
      intro n hn
      obtain ⟨d, hd, rfl⟩ := mem_entriesToNodes (Entries.mem_of_get? hn)
      exact ih (h d hd)
    | _ => exact h.elim

/-- On the path there are tables, none of them with a key twice. -/
def Data.Regular : Data → List String → Prop
  | _, [] => True
  | .table es, k :: ks => (es.map (·.1)).Nodup ∧ ∀ d, es.lookup k = some d → d.Regular ks
  | _, _ :: _ => False

theorem Data.Regular.isSome_along {d : Data} {path : List String} (h : d.Regular path)
    (o : Origin) : ((d.toNode o).along path).isSome = (d.at? path).isSome := by
  induction path generalizing d with
  | nil => cases d <;> rfl
  | cons k ks ih =>
    cases d with
    | table es =>
      obtain ⟨hes, hd⟩ := h
      rw [Data.toNode, Node.along, Data.at?, get?_entriesToNodes o hes, Option.isSome_map]
      cases hk : es.lookup k with
      | none => rfl
      | some d => exact ih (hd d hk)
    | _ => exact h.elim

/-! ## Single values -/

theorem list_texts (place : List String) (o : Origin) (ss : List String) :
    list text place ((Data.list (ss.map textData)).toNode o) = .ok ss := by
  have hitems (i : Nat) : ((ss.map fun s => (textData s).toNode o).zipIdx i).mapM
      (fun p => text (place ++ [toString p.2]) p.1) = .ok ss := by
    induction ss generalizing i with
    | nil => rfl
    | cons s ss ih =>
      rw [List.map_cons, List.zipIdx_cons]
      exact mapM_cons_eq_ok.2 ⟨s, ss, rfl, ih (i + 1), rfl⟩
  rw [Data.toNode, listToNodes_eq, List.map_map]
  exact hitems 0

theorem bool_toData (place : List String) (o : Origin) (b : Bool) :
    bool place ((boolData b).toNode o) = .ok b := rfl

theorem text_toData (place : List String) (o : Origin) (s : String) :
    text place ((textData s).toNode o) = .ok s := rfl

theorem path?_toData (place : List String) (o : Origin) (path : Option String) :
    path? place (((path.map textData).getD (.scalar .null)).toNode o) = .ok path := by
  cases path <;> rfl

theorem decodeLevel_name (k : Strictness) (place : List String) (o : Origin) (l : Log.Level) :
    decodeLevel k place ((textData l.name).toNode o) = .ok l := by
  cases l <;> rfl

theorem decodeFormat_name (k : Strictness) (place : List String) (o : Origin) (f : LogFormat) :
    decodeFormat k place ((textData f.name).toNode o) = .ok f := by
  cases f <;> rfl

theorem decodeOutput_name (k : Strictness) (place : List String) (o : Origin) (l : LogOutput) :
    decodeOutput k place ((textData l.name).toNode o) = .ok l := by
  cases l <;> rfl

theorem decodeResponse_name (k : Strictness) (place : List String) (o : Origin)
    (r : HelpResponse) : decodeResponse k place ((textData r.name).toNode o) = .ok r := by
  cases r <;> rfl

/-! ## Filters -/

/-- Filters as data. -/
def filterData (fs : List (String × Log.Level)) : Data :=
  .table (fs.map fun (k, v) => (k, textData v.name))

theorem exists_mapM {α β ε : Type} {f : α → Except ε β} {xs : List α}
    (h : ∀ x ∈ xs, ∃ y, f x = .ok y) : ∃ ys, xs.mapM f = .ok ys := by
  induction xs with
  | nil => exact ⟨[], rfl⟩
  | cons x xs ih =>
    obtain ⟨⟨y, hy⟩, hxs⟩ := List.forall_mem_cons.1 h
    obtain ⟨ys, hys⟩ := ih hxs
    exact ⟨y :: ys, mapM_cons_eq_ok.2 ⟨y, ys, hy, hys, rfl⟩⟩

theorem keys_mapM {α : Type} {d : Decoder α} {place : List String} {es : Entries Node}
    {vs : List (String × α)}
    (h : es.mapM (fun (k, n) => (d (place ++ [k]) n).map (k, ·)) = Except.ok vs) :
    vs.map (·.1) = es.map (·.1) := by
  induction es generalizing vs with
  | nil =>
    obtain rfl := Except.ok.inj h
    rfl
  | cons e es ih =>
    obtain ⟨w, ws, hw, hrest, rfl⟩ := mapM_cons_eq_ok.1 h
    obtain ⟨v, -, rfl⟩ := map_eq_ok.1 hw
    rw [List.map_cons, List.map_cons, ih hrest]

theorem mem_iff_lookup {α : Type} {es : List (String × α)} (h : (es.map (·.1)).Nodup) {k : String}
    {v : α} : (k, v) ∈ es ↔ es.lookup k = some v := by
  refine ⟨fun hmem => ?_, Entries.mem_of_get?⟩
  induction es with
  | nil => cases hmem
  | cons e es ih =>
    obtain ⟨he, hes⟩ := List.nodup_cons.1 h
    rcases List.mem_cons.1 hmem with rfl | hmem
    · simp
    · have hk : k ≠ e.1 := by
        rintro rfl
        exact he (List.mem_map.2 ⟨(e.1, v), hmem, rfl⟩)
      rw [List.lookup_cons, beq_eq_false_iff_ne.2 hk]
      exact ih hes hmem

theorem perm_of_lookup {α : Type} {es fs : List (String × α)} (hes : (es.map (·.1)).Nodup)
    (hfs : (fs.map (·.1)).Nodup) (h : ∀ k, es.lookup k = fs.lookup k) : es.Perm fs := by
  refine (List.perm_ext_iff_of_nodup (hes.of_map _) (hfs.of_map _)).2 fun ⟨k, v⟩ => ?_
  rw [mem_iff_lookup hes, mem_iff_lookup hfs, h]

theorem lookup_of_perm {α : Type} {es fs : List (String × α)} (hfs : (fs.map (·.1)).Nodup)
    (h : es.Perm fs) (k : String) : es.lookup k = fs.lookup k := by
  have hes : (es.map (·.1)).Nodup := (h.map _).nodup_iff.2 hfs
  ext v
  rw [← mem_iff_lookup hes, ← mem_iff_lookup hfs, h.mem_iff]

/-- The filters that are read from the tree of filters are the same, in the order of their names. -/
theorem table_filters (k : Strictness) (place : List String) (o : Origin)
    (fs : List (String × Log.Level)) :
    ∃ gs, table (decodeLevel k) place ((filterData fs).toNode o) = .ok gs ∧
      ((fs.map (·.1)).Nodup → gs.Perm fs) := by
  rw [filterData, Data.toNode]
  obtain ⟨gs, hgs⟩ : ∃ gs, table (decodeLevel k) place (.table o
      (Data.entriesToNodes o (fs.map fun (k, v) => (k, textData v.name)))) = .ok gs := by
    refine exists_mapM fun e he => ?_
    obtain ⟨d, hd, hnode⟩ := mem_entriesToNodes he
    obtain ⟨⟨name, level⟩, -, heq⟩ := List.mem_map.1 hd
    obtain ⟨-, rfl⟩ := Prod.ext_iff.1 heq
    refine ⟨(e.1, level), ?_⟩
    simp only [hnode, decodeLevel_name, Except.map]
  refine ⟨gs, hgs, fun hfs => ?_⟩
  have hkeys : (gs.map (·.1)).Nodup := by
    rw [keys_mapM hgs]
    exact (Node.sorted_entriesToNodes o _).1.nodup
  refine perm_of_lookup hkeys hfs fun name => ?_
  obtain ⟨hnone, hsome⟩ := lookup_mapM hgs name
  rw [get?_entriesToNodes o (by simpa [List.map_map, Function.comp_def] using hfs),
    lookup_map fun level : Log.Level => textData level.name] at hnone hsome
  cases hname : fs.lookup name with
  | none => exact hnone (by rw [hname]; rfl)
  | some level =>
    obtain ⟨v, hv, hlookup⟩ := hsome _ (by rw [hname]; rfl)
    rw [hlookup]
    exact congrArg some (Except.ok.inj (hv.symm.trans (decodeLevel_name k _ o level)))

/-! ## Structures -/

theorem commands_toNode (c : CommandSettings) (o : Origin) :
    c.toData.toNode o = .table o
      [("operators", (Data.list (c.operators.map textData)).toNode o),
        ("prefix", (textData c.sigil).toNode o)] := by
  simp +decide [CommandSettings.toData, Data.toNode, Data.entriesToNodes, Entries.insert,
    Entries.get?]

theorem help_toNode (h : HelpSettings) (o : Origin) :
    h.toData.toNode o = .table o
      [("enabled", (boolData h.enabled).toNode o),
        ("response", (textData h.response.name).toNode o)] := by
  simp +decide [HelpSettings.toData, Data.toNode, Data.entriesToNodes, Entries.insert,
    Entries.get?]

theorem spanEvents_toNode (s : SpanEvents) (o : Origin) :
    s.toData.toNode o = .table o
      [("close", (boolData s.close).toNode o), ("enter", (boolData s.enter).toNode o),
        ("exit", (boolData s.exit).toNode o), ("new", (boolData s.new).toNode o)] := by
  simp +decide [SpanEvents.toData, Data.toNode, Data.entriesToNodes, Entries.insert, Entries.get?]

theorem logging_toNode (l : LogSettings) (o : Origin) :
    l.toData.toNode o = .table o
      [("file_location", (boolData l.fileLocation).toNode o),
        ("file_path", ((l.filePath.map textData).getD (.scalar .null)).toNode o),
        ("filters", (filterData l.filters).toNode o),
        ("format", (textData l.format.name).toNode o),
        ("level", (textData l.level.name).toNode o),
        ("output", (textData l.output.name).toNode o),
        ("span_events", l.spanEvents.toData.toNode o),
        ("thread_ids", (boolData l.threadIds).toNode o)] := by
  simp +decide [LogSettings.toData, filterData, Data.toNode, Data.entriesToNodes, Entries.insert,
    Entries.get?]

theorem toData_toNode (s : Settings) (o : Origin) :
    s.toData.toNode o = .table o
      [("commands", s.commands.toData.toNode o), ("help", s.help.toData.toNode o),
        ("logging", s.logging.toData.toNode o)] := by
  simp +decide [toData, Data.toNode, Data.entriesToNodes, Entries.insert, Entries.get?]

theorem encode_eq (s : Settings) :
    s.encode = .table .program
      [("commands", s.commands.toData.toNode .program), ("help", s.help.toData.toNode .program),
        ("logging", s.logging.toData.toNode .program)] :=
  toData_toNode s .program

section

variable (k : Strictness) (place : List String) (o : Origin)

theorem decodeCommands_toData (c : CommandSettings) :
    decodeCommands k place (c.toData.toNode o) = .ok c := by
  rw [commands_toNode]
  unfold decodeCommands
  simp only [structured_table, List.map_cons, List.map_nil, List.foldlM_cons, List.foldlM_nil, step,
    into, list_texts, text_toData, Except.map]
  rfl

theorem decodeHelp_toData (h : HelpSettings) : decodeHelp k place (h.toData.toNode o) = .ok h := by
  rw [help_toNode]
  unfold decodeHelp
  rw [← decodeResponse]
  simp only [structured_table, List.map_cons, List.map_nil, List.foldlM_cons, List.foldlM_nil, step,
    into, bool_toData, Except.map, bind, Except.bind]
  rw [decodeResponse_name]
  rfl

theorem decodeSpanEvents_toData (s : SpanEvents) :
    decodeSpanEvents k place (s.toData.toNode o) = .ok s := by
  rw [spanEvents_toNode]
  rfl

/-- All settings of logging are read back, the filters in the order of their names. -/
theorem decodeLogging_toData (l : LogSettings) :
    ∃ gs, decodeLogging k place (l.toData.toNode o) = .ok { l with filters := gs } ∧
      ((l.filters.map (·.1)).Nodup → gs.Perm l.filters) := by
  obtain ⟨gs, hgs, hperm⟩ := table_filters k (place ++ ["filters"]) o l.filters
  refine ⟨gs, ?_, hperm⟩
  rw [logging_toNode]
  unfold decodeLogging
  simp only [structured_table, List.map_cons, List.map_nil, List.foldlM_cons, List.foldlM_nil, step,
    into, bool_toData, path?_toData, decodeLevel_name, decodeFormat_name, decodeOutput_name,
    decodeSpanEvents_toData, hgs, Except.map, bind, Except.bind]
  rfl

/-- All settings are read back, the filters in the order of their names. -/
theorem decode_toData (s : Settings) :
    ∃ gs, decode k place (s.toData.toNode o) = .ok { s with logging.filters := gs } ∧
      ((s.logging.filters.map (·.1)).Nodup → gs.Perm s.logging.filters) := by
  obtain ⟨gs, hgs, hperm⟩ := decodeLogging_toData k (place ++ ["logging"]) o s.logging
  refine ⟨gs, ?_, hperm⟩
  rw [toData_toNode]
  unfold decode
  simp only [structured_table, List.map_cons, List.map_nil, List.foldlM_cons, List.foldlM_nil, step,
    into, decodeCommands_toData, decodeHelp_toData, hgs, Except.map, bind, Except.bind]
  rfl

end

/-- What is written is read back, the filters in the order of their names. -/
theorem extract_encode (s : Settings) :
    ∃ gs, Loader.extract s.encode = .ok { s with logging.filters := gs } ∧
      ((s.logging.filters.map (·.1)).Nodup → gs.Perm s.logging.filters) := by
  obtain ⟨gs, hgs, hperm⟩ := decode_toData .lenient [] .program s
  exact ⟨gs, extract_eq_ok.2 hgs, hperm⟩

/-! ## The shape of what is written -/

/-- A tree that the program writes has every setting in its place. -/
theorem shaped_encode (s : Settings) (σ : Setting) : s.encode.Shaped σ.path := by
  refine Data.Shaped.toNode ?_ .program
  cases σ with
  | filePath =>
    cases hpath : s.logging.filePath <;>
      simp [toData, LogSettings.toData, Setting.path, Data.Shaped, textData, hpath]
  | _ =>
    simp [toData, LogSettings.toData, CommandSettings.toData, HelpSettings.toData,
      SpanEvents.toData, Setting.path, Data.Shaped, textData, boolData]

/-- Settings as data have no key twice on the path of a setting. -/
theorem regular_toData (s : Settings) (σ : Setting)
    (h : ∀ name, σ = .filter name → (s.logging.filters.map (·.1)).Nodup) :
    s.toData.Regular σ.path := by
  cases σ with
  | filter name =>
    have hfilters := h name rfl
    simpa [toData, LogSettings.toData, Setting.path, Data.Regular, List.lookup_cons,
      Function.comp_def] using hfilters
  | _ =>
    simp [toData, LogSettings.toData, CommandSettings.toData, HelpSettings.toData,
      SpanEvents.toData, Setting.path, Data.Regular, List.lookup_cons]

/-- What the program writes says something on the settings that it holds, and on no others. -/
theorem isSome_along_encode (s : Settings) (σ : Setting)
    (h : ∀ name, σ = .filter name → (s.logging.filters.map (·.1)).Nodup) :
    (s.encode.along σ.path).isSome = (value? s σ).isSome :=
  (regular_toData s σ h).isSome_along .program

/-- Only filters may have no value. -/
theorem isSome_value? (s : Settings) {σ : Setting} (h : ∀ name, σ ≠ .filter name) :
    (value? s σ).isSome := by
  cases σ with
  | filter name => exact absurd rfl (h name)
  | _ => rfl

theorem sorted_encode (s : Settings) : s.encode.Sorted :=
  Node.sorted_toNode .program s.toData

/-! ## Written twice -/

theorem merge_commands (a b : CommandSettings) (o : Origin) :
    (a.toData.toNode o).merge (b.toData.toNode o) = b.toData.toNode o := by
  rw [commands_toNode, commands_toNode, Node.merge_tables]
  simp +decide [Node.mergeEntries, Entries.insert, Entries.get?, List.lookup_cons,
    Node.merge_of_not_tables, Data.toNode, textData, Node.entries?]

theorem merge_help (a b : HelpSettings) (o : Origin) :
    (a.toData.toNode o).merge (b.toData.toNode o) = b.toData.toNode o := by
  rw [help_toNode, help_toNode, Node.merge_tables]
  simp +decide [Node.mergeEntries, Entries.insert, Entries.get?, List.lookup_cons,
    Node.merge_of_not_tables, Data.toNode, textData, boolData, Node.entries?]

theorem merge_spanEvents (a b : SpanEvents) (o : Origin) :
    (a.toData.toNode o).merge (b.toData.toNode o) = b.toData.toNode o := by
  rw [spanEvents_toNode, spanEvents_toNode, Node.merge_tables]
  simp +decide [Node.mergeEntries, Entries.insert, Entries.get?, List.lookup_cons,
    Node.merge_of_not_tables, Data.toNode, boolData, Node.entries?]

theorem merge_logging (a b : LogSettings) (ha : a.filters = []) (o : Origin) :
    (a.toData.toNode o).merge (b.toData.toNode o) = b.toData.toNode o := by
  have hfilters : ((filterData a.filters).toNode o).merge ((filterData b.filters).toNode o) =
      (filterData b.filters).toNode o := by
    rw [ha]
    exact Node.merge_empty (Node.sorted_toNode o _)
  have hpath (n : Node) (p : Option String) :
      n.merge (((p.map textData).getD (.scalar .null)).toNode o) =
        ((p.map textData).getD (.scalar .null)).toNode o := by
    cases p <;> exact Node.merge_of_not_tables (.inr rfl)
  rw [logging_toNode, logging_toNode, Node.merge_tables]
  simp +decide [Node.mergeEntries, Entries.insert, Entries.get?, List.lookup_cons, merge_spanEvents,
    hfilters, hpath]
  simp [Data.toNode, textData, boolData, Node.merge_of_not_tables, Node.entries?]

/-- Settings that the program writes leave nothing of those that it wrote before, but filters. -/
theorem merge_encode (a b : Settings) (ha : a.logging.filters = []) :
    a.encode.merge b.encode = b.encode := by
  rw [encode_eq, encode_eq, Node.merge_tables]
  simp +decide [Node.mergeEntries, Entries.insert, Entries.get?, List.lookup_cons, merge_commands,
    merge_help, merge_logging _ _ ha]

/-! ## Values make settings -/

theorem value?_filter (s : Settings) (name : String) :
    value? s (.filter name) = (s.logging.filters.lookup name).map fun l => textData l.name := by
  have h : value? s (.filter name) =
      (filterData s.logging.filters).at? [name] := rfl
  rw [h, filterData, Data.at?, lookup_map fun l : Log.Level => textData l.name]
  cases s.logging.filters.lookup name <;> rfl

theorem textData_inj {s t : String} : textData s = textData t ↔ s = t := by
  simp [textData]

theorem boolData_inj {a b : Bool} : boolData a = boolData b ↔ a = b := by
  simp [boolData]

theorem level_name_inj {a b : Log.Level} : a.name = b.name ↔ a = b := by
  cases a <;> cases b <;> decide

theorem format_name_inj {a b : LogFormat} : a.name = b.name ↔ a = b := by
  cases a <;> cases b <;> decide

theorem output_name_inj {a b : LogOutput} : a.name = b.name ↔ a = b := by
  cases a <;> cases b <;> decide

theorem response_name_inj {a b : HelpResponse} : a.name = b.name ↔ a = b := by
  cases a <;> cases b <;> decide

/-- Settings that have the same values are the same but for the filters. -/
theorem eq_of_value? {a b : Settings}
    (h : ∀ σ, (∀ name, σ ≠ .filter name) → value? a σ = value? b σ) :
    a = { b with logging.filters := a.logging.filters } := by
  have hsigil : some (textData a.commands.sigil) = some (textData b.commands.sigil) :=
    h .sigil nofun
  have hoperators : some (Data.list (a.commands.operators.map textData)) =
      some (Data.list (b.commands.operators.map textData)) := h .operators nofun
  have henabled : some (boolData a.help.enabled) = some (boolData b.help.enabled) :=
    h .helpEnabled nofun
  have hresponse : some (textData a.help.response.name) = some (textData b.help.response.name) :=
    h .helpResponse nofun
  have hlevel : some (textData a.logging.level.name) = some (textData b.logging.level.name) :=
    h .level nofun
  have hformat : some (textData a.logging.format.name) = some (textData b.logging.format.name) :=
    h .format nofun
  have houtput : some (textData a.logging.output.name) = some (textData b.logging.output.name) :=
    h .output nofun
  have hpath : some ((a.logging.filePath.map textData).getD (.scalar .null)) =
      some ((b.logging.filePath.map textData).getD (.scalar .null)) := h .filePath nofun
  have hthreads : some (boolData a.logging.threadIds) = some (boolData b.logging.threadIds) :=
    h .threadIds nofun
  have hlocation : some (boolData a.logging.fileLocation) =
      some (boolData b.logging.fileLocation) := h .fileLocation nofun
  have hnew : some (boolData a.logging.spanEvents.new) = some (boolData b.logging.spanEvents.new) :=
    h .spanNew nofun
  have henter : some (boolData a.logging.spanEvents.enter) =
      some (boolData b.logging.spanEvents.enter) := h .spanEnter nofun
  have hexit : some (boolData a.logging.spanEvents.exit) =
      some (boolData b.logging.spanEvents.exit) := h .spanExit nofun
  have hclose : some (boolData a.logging.spanEvents.close) =
      some (boolData b.logging.spanEvents.close) := h .spanClose nofun
  have htexts : Function.Injective textData := fun s t => textData_inj.1
  obtain ⟨⟨_, _⟩, ⟨_, _⟩, _, _, _, pathA, _, _, ⟨_, _, _, _⟩, _⟩ := a
  obtain ⟨⟨_, _⟩, ⟨_, _⟩, _, _, _, pathB, _, _, ⟨_, _, _, _⟩, _⟩ := b
  have hpaths : pathA = pathB := by
    cases pathA <;> cases pathB <;> simp [textData] at hpath ⊢
    exact hpath
  simp only [Option.some.injEq, textData_inj, boolData_inj, level_name_inj, format_name_inj,
    output_name_inj, response_name_inj, Data.list.injEq, htexts.list_map.eq_iff] at *
  subst_vars
  rfl

end ChatCommand.Settings
