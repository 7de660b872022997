import ChatCommand.Log.Setup
import Mathlib.Data.List.Basic
import Mathlib.Data.List.Induction
import Mathlib.Data.List.Infix
import Mathlib.Data.List.Nodup

/-!
# The level that counts for a target

A logger that is set up from settings gets a directive for every filter, in whatever order the
filters come. If the names of the filters are module paths, each directive is read as it was meant
(`Directive.read_modulePath`), so that the directives of the logger are known
(`Setup.filter_ofSettings`). Of those that apply to an event, one that no other one outranks is
chosen (`Filter.mostSpecial?_eq_some`).

`Setup.admits_iff_levelFor`: an event is logged exactly if it is as severe as the level of the
longest filter that its target begins with, or as the global level if there is no such filter.
-/

namespace ChatCommand.Log

/-! ## Module paths -/

/-- A letter or an underscore, and then these and digits, all of them ASCII. -/
def isIdentifier : List Char → Bool
  | [] => false
  | c :: cs => (c.isAlpha || c == '_') && cs.all fun c => c.isAlphanum || c == '_'

/-- Identifiers with two colons between them. -/
def IsModulePath (s : String) : Prop :=
  ∃ ids : List (List Char), ids ≠ [] ∧ (∀ cs ∈ ids, isIdentifier cs = true) ∧
    s.toList = [':', ':'].intercalate ids

/-- A character that module paths are made of. -/
def isPathChar (c : Char) : Bool :=
  c.isAlphanum || c == '_' || c == ':'

theorem isPathChar_of_isIdentifier {cs : List Char} (h : isIdentifier cs = true) :
    ∀ c ∈ cs, isPathChar c = true := by
  cases cs with
  | nil => cases h
  | cons d cs =>
    simp only [isIdentifier, Bool.and_eq_true, Bool.or_eq_true, List.all_eq_true] at h
    obtain ⟨hd, hcs⟩ := h
    refine List.forall_mem_cons.2 ⟨?_, fun c hc => ?_⟩
    · rcases hd with hd | hd <;> simp [isPathChar, Char.isAlphanum, hd]
    · rcases hcs c hc with hc | hc <;> simp [isPathChar, hc]

theorem ne_of_isPathChar {c : Char} (h : isPathChar c = true) : c ≠ '=' ∧ c ≠ '[' ∧ c ≠ ',' := by
  refine ⟨?_, ?_, ?_⟩
  all_goals
    rintro rfl
    revert h
    decide

namespace IsModulePath

variable {s : String}

theorem chars (h : IsModulePath s) : ∀ c ∈ s.toList, isPathChar c = true := by
  obtain ⟨ids, -, hids, hs⟩ := h
  rw [hs]
  clear hs
  induction ids with
  | nil => simp [List.intercalate]
  | cons cs ids ih =>
    obtain ⟨hcs, hids⟩ := List.forall_mem_cons.1 hids
    cases ids with
    | nil =>
      rw [List.intercalate_singleton]
      exact isPathChar_of_isIdentifier hcs
    | cons ds ids =>
      rw [List.intercalate_cons_cons]
      have hcolons : ∀ c ∈ [':', ':'], isPathChar c = true := List.all_eq_true.1 rfl
      refine List.forall_mem_append.2 ⟨List.forall_mem_append.2 ⟨?_, hcolons⟩, ih hids⟩
      exact isPathChar_of_isIdentifier hcs

theorem exists_head (h : IsModulePath s) :
    ∃ c cs, s.toList = c :: cs ∧ (c.isAlpha = true ∨ c = '_') := by
  obtain ⟨ids, hne, hids, hs⟩ := h
  cases ids with
  | nil => exact absurd rfl hne
  | cons id ids =>
    have hid := hids id List.mem_cons_self
    cases id with
    | nil => cases hid
    | cons c cs =>
      have hc : c.isAlpha = true ∨ c = '_' := by
        simp only [isIdentifier, Bool.and_eq_true, Bool.or_eq_true, beq_iff_eq] at hid
        exact hid.1
      cases ids with
      | nil => exact ⟨c, cs, by rw [hs, List.intercalate_singleton], hc⟩
      | cons ds ids =>
        refine ⟨c, cs ++ ([':', ':'] ++ [':', ':'].intercalate (ds :: ids)), ?_, hc⟩
        rw [hs, List.intercalate_cons_cons, List.append_assoc, List.cons_append]

end IsModulePath

/-! ## Reading the directive of a filter -/

theorem toNat_of_isAlpha {c : Char} (h : c.isAlpha = true ∨ c = '_') :
    65 ≤ c.toNat ∧ c.toNat < 128 := by
  rcases h with h | rfl
  · have hcases : (decide ('A'.val ≤ c.val ∧ c.val ≤ 'Z'.val) ||
        decide ('a'.val ≤ c.val) && decide (c.val ≤ 'z'.val)) = true := h
    simp only [Bool.or_eq_true, Bool.and_eq_true, decide_eq_true_eq,
      UInt32.le_iff_toNat_le] at hcases
    change (65 ≤ c.toNat ∧ c.toNat ≤ 90) ∨ (97 ≤ c.toNat ∧ c.toNat ≤ 122) at hcases
    omega
  · decide

theorem isBlank_of_isAlpha {c : Char} (h : c.isAlpha = true ∨ c = '_') :
    Text.isBlank c = false := by
  have hc := toNat_of_isAlpha h
  simp only [Text.isBlank, Bool.or_eq_false_iff, Bool.and_eq_false_iff, decide_eq_false_iff_not,
    beq_eq_false_iff_ne]
  omega

theorem trimBlanks_eq_self {cs : List Char} (hhead : ∀ c ∈ cs.head?, Text.isBlank c = false)
    (hlast : ∀ c ∈ cs.getLast?, Text.isBlank c = false) : Text.trimBlanks cs = cs := by
  have hdrop {ds : List Char} (h : ∀ c ∈ ds.head?, Text.isBlank c = false) :
      ds.dropWhile Text.isBlank = ds := by
    cases ds with
    | nil => rfl
    | cons d ds => rw [List.dropWhile_cons_of_neg (by simp [h d rfl])]
  rw [Text.trimBlanks, hdrop hhead, hdrop (by simpa using hlast), List.reverse_reverse]

theorem Level.read?_name (l : Level) : Threshold.read? l.name.toList = some (some l) := by
  cases l <;> decide +kernel

theorem Level.name_chars (l : Level) :
    l.name.toList ≠ [] ∧ ∀ c ∈ l.name.toList, c ≠ ',' ∧ Text.isBlank c = false := by
  have hall : l.name.toList.all (fun c => c != ',' && !Text.isBlank c) = true := by
    cases l <;> decide +kernel
  refine ⟨by cases l <;> decide +kernel, fun c hc => ?_⟩
  simpa using List.all_eq_true.1 hall c hc

namespace Directive

variable {cs : List Char} {d : Directive}

theorem isStart_of_isAlpha {c : Char} (h : c.isAlpha = true ∨ c = '_') : isStart c = true := by
  rcases h with h | rfl
  · simp [isStart, Text.isLetter, (toNat_of_isAlpha (.inl h)).2, h]
  · rfl

theorem foldlM_stay {α β ε : Type} {f : α → β → Except ε α} {a : α} {bs : List β}
    (h : ∀ b ∈ bs, f a b = .ok a) : bs.foldlM f a = .ok a := by
  induction bs with
  | nil => rfl
  | cons b bs ih =>
    obtain ⟨hb, hbs⟩ := List.forall_mem_cons.1 h
    rw [List.foldlM_cons, hb]
    exact ih hbs

theorem step_head {start i : Nat} {c : Char} (h : c ≠ '=' ∧ c ≠ '[' ∧ c ≠ ',') :
    step cs (.head start, d) (c, i) = .ok (.head start, d) := by
  obtain ⟨hequals, hbracket, hcomma⟩ := h
  unfold step
  split <;> simp_all

theorem step_level {start i : Nat} {c : Char} (h : c ≠ ',') :
    step cs (.level start, d) (c, i) = .ok (.level start, d) := by
  unfold step
  split <;> simp_all

/-- The directive of a filter. -/
def ofFilter (f : String × Level) : Directive where
  target := some f.1
  threshold := some f.2

/-- A module path is read as the target, as it stands. -/
theorem read_modulePath {f : String × Level} (h : IsModulePath f.1) :
    read (f.1 ++ "=" ++ f.2.name) = .ok (ofFilter f) := by
  obtain ⟨target, l⟩ := f
  obtain ⟨c, cs, htarget, hc⟩ := h.exists_head
  obtain ⟨hne, hname⟩ := l.name_chars
  obtain ⟨hplain, hcs⟩ : (c ≠ '=' ∧ c ≠ '[' ∧ c ≠ ',') ∧ ∀ c ∈ cs, c ≠ '=' ∧ c ≠ '[' ∧ c ≠ ',' :=
    List.forall_mem_cons.1 (htarget ▸ fun c hc => ne_of_isPathChar (h.chars c hc))
  generalize htext : c :: (cs ++ '=' :: l.name.toList) = text
  have hread : (target ++ "=" ++ l.name).toList = text := by simp [htarget, ← htext]
  have htrim : Text.trimBlanks text = text := by
    refine trimBlanks_eq_self (by simpa [← htext] using isBlank_of_isAlpha hc) fun x hx => ?_
    obtain ⟨y, hy⟩ : ∃ y, l.name.toList.getLast? = some y :=
      Option.isSome_iff_exists.1 (by simpa using hne)
    obtain rfl : y = x := by
      simpa [← htext, List.getLast?_cons, List.getLast?_append, hy] using hx
    exact (hname y (List.mem_of_getLast? hy)).2
  -- The first character opens the target, and only the sign of equality closes it.
  have hfirst : step text (.beginning, {}) (c, 0) = .ok (.head 0, {}) := by
    simp [step, hplain.2.1, isStart_of_isAlpha hc]
  have hequals : step text (.head 0, {}) ('=', 1 + cs.length) =
      .ok (.level (cs.length + 2), { target := some target }) := by
    have hslice : slice text 0 (1 + cs.length) = target.toList := by
      simp [slice, ← htext, htarget, Nat.add_comm 1]
    rw [step, hslice, String.ofList_toList, Nat.add_comm 1]
  have hsteps : text.zipIdx.foldlM (step text) (.beginning, {}) =
      .ok (.level (cs.length + 2), { target := some target }) := by
    conv_lhs => rw [← htext]
    rw [List.zipIdx_cons, List.foldlM_cons, htext, hfirst]
    change ((cs ++ '=' :: l.name.toList).zipIdx 1).foldlM (step text) (.head 0, {}) = _
    rw [List.zipIdx_append, List.foldlM_append,
      foldlM_stay fun b hb => step_head (hcs b.1 (List.fst_mem_of_mem_zipIdx hb))]
    change (('=' :: l.name.toList).zipIdx (1 + cs.length)).foldlM (step text) (.head 0, {}) = _
    rw [List.zipIdx_cons, List.foldlM_cons, hequals]
    exact foldlM_stay fun b hb => step_level (hname b.1 (List.fst_mem_of_mem_zipIdx hb)).1
  have hlevel : text.drop (cs.length + 2) = l.name.toList := by
    simp [← htext]
  unfold read
  dsimp only
  rw [hread, htrim, hsteps]
  change finish text (.level (cs.length + 2), { target := some target }) = _
  rw [finish, hlevel, withLevel, if_neg (by simpa using hne), l.read?_name]
  rfl

/-! ## The most special directive -/

theorem outranks_iff {d e : Directive} : d.outranks e = true ↔
    e.specificity.1 < d.specificity.1 ∨
      e.specificity.1 = d.specificity.1 ∧ e.specificity.2 ≤ d.specificity.2 := by
  simp [outranks]

theorem outranks_refl (d : Directive) : d.outranks d = true :=
  outranks_iff.2 (.inr ⟨rfl, le_rfl⟩)

theorem outranks_trans {d e f : Directive} (hd : d.outranks e = true) (he : e.outranks f = true) :
    d.outranks f = true := by
  rw [outranks_iff] at *
  omega

theorem outranks_of_not {d e : Directive} (h : ¬ d.outranks e = true) : e.outranks d = true := by
  rw [outranks_iff] at *
  omega

end Directive

namespace Filter

theorem mostSpecial?_concat (ds : List Directive) (d : Directive) :
    mostSpecial? (ds ++ [d]) = match mostSpecial? ds with
      | some b => if d.outranks b then some d else some b
      | none => some d := by
  rw [mostSpecial?, List.foldl_append]
  rfl

/-- Of some directives, one is chosen that no other one outranks. -/
theorem mostSpecial?_eq_some {ds : List Directive} (h : ds ≠ []) :
    ∃ d ∈ ds, mostSpecial? ds = some d ∧ ∀ e ∈ ds, d.outranks e = true := by
  induction ds using List.reverseRecOn with
  | nil => exact absurd rfl h
  | append_singleton ds d ih =>
    rw [mostSpecial?_concat]
    rcases List.eq_nil_or_concat ds with rfl | ⟨es, e, rfl⟩
    · exact ⟨d, List.mem_singleton_self d, rfl, by simpa using d.outranks_refl⟩
    obtain ⟨b, hb, hmost, hall⟩ := ih (by simp)
    rw [hmost]
    by_cases hd : d.outranks b = true
    · refine ⟨d, by simp, by simp [hd], List.forall_mem_append.2 ⟨fun e he => ?_, ?_⟩⟩
      · exact Directive.outranks_trans hd (hall e he)
      · simpa using d.outranks_refl
    · refine ⟨b, List.mem_append_left _ hb, by simp [hd], List.forall_mem_append.2 ⟨hall, ?_⟩⟩
      simpa using Directive.outranks_of_not hd

end Filter

/-! ## The level of a target -/

/-- The level that counts for a target: that of the longest filter that it begins with, and the
global one if there is no such filter. -/
inductive LevelFor (s : LogSettings) (target : String) : Level → Prop
  | filter {f : String × Level} : f ∈ s.filters → f.1.toList <+: target.toList →
      (∀ g ∈ s.filters, g.1.toList <+: target.toList → g.1.length ≤ f.1.length) →
      LevelFor s target f.2
  | overall : (∀ f ∈ s.filters, ¬ f.1.toList <+: target.toList) → LevelFor s target s.level

/-- Two texts that a text begins with are the same, if they are of one length. -/
theorem eq_of_prefixes {s t u : String} (hs : s.toList <+: u.toList) (ht : t.toList <+: u.toList)
    (h : s.length = t.length) : s = t := by
  rw [← String.length_toList, ← String.length_toList] at h
  exact String.toList_injective
    ((List.prefix_of_prefix_length_le hs ht h.le).eq_of_length h)

/-- Of two texts that a text begins with, the one with fewer bytes has fewer characters. -/
theorem length_le_of_prefix {s t u : String} (hs : s.toList <+: u.toList)
    (ht : t.toList <+: u.toList) (h : s.utf8ByteSize ≤ t.utf8ByteSize) : s.length ≤ t.length := by
  by_contra hlength
  have hle : t.toList.length ≤ s.toList.length := by simp only [String.length_toList]; omega
  obtain ⟨rest, hrest⟩ := List.prefix_of_prefix_length_le ht hs hle
  obtain rfl : t ++ String.ofList rest = s := String.toList_injective (by simp [hrest])
  rw [String.utf8ByteSize_append] at h
  have hempty : String.ofList rest = "" := String.utf8ByteSize_eq_zero_iff.1 (by omega)
  simp [hempty] at hlength

namespace LevelFor

variable {s : LogSettings} {target : String} {l l' : Level}

theorem unique (hs : (s.filters.map (·.1)).Nodup) (h : LevelFor s target l)
    (h' : LevelFor s target l') : l = l' := by
  cases h with
  | filter hf hprefix hlongest =>
    cases h' with
    | filter hg hprefix' hlongest' =>
      have hlength := le_antisymm (hlongest' _ hf hprefix) (hlongest _ hg hprefix')
      rw [List.inj_on_of_nodup_map hs hf hg (eq_of_prefixes hprefix hprefix' hlength)]
    | overall hnone => exact absurd hprefix (hnone _ hf)
  | overall hnone =>
    cases h' with
    | filter hg hprefix' _ => exact absurd hprefix' (hnone _ hg)
    | overall _ => rfl

/-- The order of the filters does not count. -/
theorem perm {fs : List (String × Level)} (h : fs.Perm s.filters)
    (hl : LevelFor { s with filters := fs } target l) : LevelFor s target l := by
  cases hl with
  | filter hf hprefix hlongest =>
    exact .filter (h.mem_iff.1 hf) hprefix fun g hg => hlongest g (h.mem_iff.2 hg)
  | overall hnone => exact .overall fun f hf => hnone f (h.mem_iff.2 hf)

end LevelFor

namespace Setup

variable {s : LogSettings} {environment : Settings.Environment}

/-- Without directives in the environment, the directives are the global level and the filters. -/
theorem filter_ofSettings (hpaths : ∀ f ∈ s.filters, IsModulePath f.1)
    (henvironment : environment.lookup "RUST_LOG" = none) :
    ((ofSettings s).filter environment).directives =
      { threshold := some s.level } :: s.filters.map Directive.ofFilter := by
  have hadd {step : Filter → String → Filter}
      (hstep : ∀ f text d, Directive.read text = .ok d → step f text = f.add d) :
      ∀ (fs : List (String × Level)) (base : Filter), (∀ f ∈ fs, IsModulePath f.1) →
        ((fs.map fun f => f.1 ++ "=" ++ f.2.name).foldl step base).directives =
          base.directives ++ fs.map Directive.ofFilter := by
    intro fs
    induction fs with
    | nil => simp
    | cons f fs ih =>
      intro base hfs
      obtain ⟨hf, hfs⟩ := List.forall_mem_cons.1 hfs
      rw [List.map_cons, List.foldl_cons, hstep _ _ _ (Directive.read_modulePath hf), ih _ hfs]
      simp [Filter.add]
  have hbase : (ofSettings s).baseFilter environment = Filter.ofLevel s.level := by
    simp [baseFilter, henvironment, ofSettings]
  unfold filter
  rw [hbase]
  exact hadd (fun f text d hread => by rw [hread]) s.filters _ hpaths

/-- The directive of a filter applies to events whose target begins with its name. -/
theorem appliesTo_ofFilter {f : String × Level} {e : Event} :
    (Directive.ofFilter f).appliesTo e = true ↔ f.1.toList <+: e.target.toList := by
  simp [Directive.appliesTo, Directive.covers, Directive.ofFilter]

/-- The directives that apply to an event are the global one and those of filters that its target
begins with. -/
theorem mem_applying (hpaths : ∀ f ∈ s.filters, IsModulePath f.1)
    (henvironment : environment.lookup "RUST_LOG" = none) (e : Event) {d : Directive} :
    d ∈ ((ofSettings s).filter environment).directives.filter
        (fun d => !d.isScoped && d.appliesTo e) ↔
      d = { threshold := some s.level } ∨
        ∃ f ∈ s.filters, f.1.toList <+: e.target.toList ∧ d = .ofFilter f := by
  rw [filter_ofSettings hpaths henvironment, List.mem_filter, List.mem_cons, List.mem_map]
  constructor
  · rintro ⟨rfl | ⟨f, hf, rfl⟩, happlies⟩
    · exact .inl rfl
    · exact .inr ⟨f, hf, appliesTo_ofFilter.1 (Bool.and_eq_true_iff.1 happlies).2, rfl⟩
  · rintro (rfl | ⟨f, hf, hprefix, rfl⟩)
    · exact ⟨.inl rfl, rfl⟩
    · exact ⟨.inr ⟨f, hf, rfl⟩, Bool.and_eq_true_iff.2 ⟨rfl, appliesTo_ofFilter.2 hprefix⟩⟩

/-- The threshold of an event is the level that counts for its target. -/
theorem threshold_ofSettings (hpaths : ∀ f ∈ s.filters, IsModulePath f.1)
    (henvironment : environment.lookup "RUST_LOG" = none) (e : Event) :
    ∃ l, ((ofSettings s).filter environment).threshold (·.appliesTo e) = some l ∧
      LevelFor s e.target l := by
  have hmem {d : Directive} := mem_applying hpaths henvironment e (d := d)
  unfold Filter.threshold
  generalize List.filter _ _ = ds at hmem ⊢
  obtain ⟨d, hd, hmost, hall⟩ := Filter.mostSpecial?_eq_some
    (List.ne_nil_of_mem (hmem.2 (.inl rfl)))
  rw [hmost]
  rcases hmem.1 hd with rfl | ⟨f, hf, hprefix, rfl⟩
  · refine ⟨s.level, rfl, .overall fun g hg hprefix => ?_⟩
    have houtranks := hall _ (hmem.2 (.inr ⟨g, hg, hprefix, rfl⟩))
    simp [Directive.outranks, Directive.specificity, Directive.ofFilter] at houtranks
  · refine ⟨f.2, rfl, .filter hf hprefix fun g hg hprefix' => ?_⟩
    refine length_le_of_prefix hprefix' hprefix ?_
    have houtranks := hall _ (hmem.2 (.inr ⟨g, hg, hprefix', rfl⟩))
    simp only [Directive.outranks_iff, Directive.specificity, Directive.ofFilter, Option.map_some,
      Option.getD_some] at houtranks
    omega

/-- Without spans in directives, the threshold decides. -/
theorem admits_eq_threshold (hpaths : ∀ f ∈ s.filters, IsModulePath f.1)
    (henvironment : environment.lookup "RUST_LOG" = none) (scope : List Span) (e : Event) :
    ((ofSettings s).filter environment).admits scope e =
      (((ofSettings s).filter environment).threshold (·.appliesTo e)).admits e.level := by
  have hwithin (span : Span) : ((ofSettings s).filter environment).within? span = none := by
    have hnone : ((ofSettings s).filter environment).directives.filter
        (fun d => d.isScoped && d.concerns span) = [] := by
      rw [filter_ofSettings hpaths henvironment, List.filter_eq_nil_iff]
      refine List.forall_mem_cons.2 ⟨nofun, List.forall_mem_map.2 fun f _ => nofun⟩
    rw [Filter.within?, hnone]
  simp [Filter.admits, hwithin]

/-- An event is logged exactly if it is as severe as the level that counts for its target, in
whatever order the filters come. -/
theorem admits_iff_levelFor (hs : (s.filters.map (·.1)).Nodup)
    (hpaths : ∀ f ∈ s.filters, IsModulePath f.1)
    (henvironment : environment.lookup "RUST_LOG" = none) {fs : List (String × Level)}
    (hfs : fs.Perm s.filters) (scope : List Span) (e : Event) :
    ((ofSettings { s with filters := fs }).filter environment).admits scope e = true ↔
      ∃ l, LevelFor s e.target l ∧ l.severity ≤ e.level.severity := by
  have hpaths' : ∀ f ∈ ({ s with filters := fs } : LogSettings).filters, IsModulePath f.1 :=
    fun f hf => hpaths f (hfs.mem_iff.1 hf)
  obtain ⟨l, hthreshold, hl⟩ := threshold_ofSettings hpaths' henvironment e
  rw [admits_eq_threshold hpaths' henvironment, hthreshold, Threshold.admits, decide_eq_true_eq]
  constructor
  · exact fun h => ⟨l, hl.perm hfs, h⟩
  · rintro ⟨l', hl', h⟩
    rwa [(hl.perm hfs).unique hs hl']

/-- Of two filters that are nested the inner one counts, although it comes first. -/
theorem admits_iff_levelFor_nested :
    let s : LogSettings :=
      { filters := [("alloy_runtime", .warn), ("alloy_runtime::config", .debug)] }
    let e : Event :=
      { level := .info, target := "alloy_runtime::config::loader", message := "read" }
    (s.filters.map (·.1)).Nodup ∧ (∀ f ∈ s.filters, IsModulePath f.1) ∧
      s.filters.reverse.Perm s.filters ∧
      ((ofSettings { s with filters := s.filters.reverse }).filter []).admits [] e = true := by
  intro s e
  have hs : (s.filters.map (·.1)).Nodup := by decide
  have hpaths : ∀ f ∈ s.filters, IsModulePath f.1 :=
    List.forall_mem_cons.2 ⟨⟨["alloy_runtime".toList], by decide⟩,
      List.forall_mem_cons.2 ⟨⟨["alloy_runtime".toList, "config".toList], by decide⟩,
        List.forall_mem_nil _⟩⟩
  refine ⟨hs, hpaths, List.reverse_perm _, ?_⟩
  refine (admits_iff_levelFor hs hpaths rfl (List.reverse_perm _) [] e).2 ⟨.debug, ?_, by decide⟩
  exact .filter (f := ("alloy_runtime::config", .debug)) (by decide) (by decide) (by decide)

end Setup

end ChatCommand.Log
