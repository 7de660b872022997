import ChatCommand.Proofs.Command.Check
import ChatCommand.Proofs.Command.Matching

/-!
# What a command reports

The tree of a command can be written and read back where none of its custom patterns leaves a
comment open, and no group in a format has the name of an argument. So the search of the command is
that of its tree (`Command.find_eq`), and it reports the values that the arguments have in the run
(`Command.valuesOf_run`). How much room there was for the matcher makes no difference: a command is
determined by its definition (`Command.eq_of_toDefinition_eq`).
-/

namespace ChatCommand

open Regex

/-! ## The tree of a command -/

namespace Pattern

theorem rawsAll_append (ps qs : List Pattern) : rawsAll (ps ++ qs) = rawsAll ps ++ rawsAll qs := by
  induction ps with
  | nil => rfl
  | cons p ps ih => rw [List.cons_append, rawsAll, rawsAll, ih, List.append_assoc]

theorem capturesAll_append (ps qs : List Pattern) :
    capturesAll (ps ++ qs) = capturesAll ps ++ capturesAll qs := by
  induction ps with
  | nil => rfl
  | cons p ps ih => rw [List.cons_append, capturesAll, capturesAll, ih, List.append_assoc]

theorem groupNamesAll_append (ps qs : List Pattern) :
    groupNamesAll (ps ++ qs) = groupNamesAll ps ++ groupNamesAll qs := by
  induction ps with
  | nil => rfl
  | cons p ps ih => rw [List.cons_append, groupNamesAll, groupNamesAll, ih, List.append_assoc]

theorem lists_literals (texts : List String) :
    rawsAll (texts.map literal) = [] ∧ capturesAll (texts.map literal) = [] ∧
      groupNamesAll (texts.map literal) = [] := by
  induction texts with
  | nil => exact ⟨rfl, rfl, rfl⟩
  | cons text texts ih => exact ih

end Pattern

theorem Format.captures_toPattern (f : Format) : f.toPattern.captures = [] := by
  cases f with
  | choices texts => exact (Pattern.lists_literals texts).2.1
  | _ => rfl

theorem Format.Closed.raws {f : Format} (h : f.Closed) :
    ∀ source ∈ f.toPattern.raws, Fragment source.toList := by
  cases f with
  | type t =>
    intro source hs
    obtain rfl := List.mem_singleton.1 hs
    exact t.fragment_source
  | pattern source =>
    intro source' hs
    obtain rfl := List.mem_singleton.1 hs
    exact h.fragment
  | choices texts =>
    rw [Format.toPattern, Pattern.raws, (Pattern.lists_literals texts).1]
    exact List.forall_mem_nil _
  | literal text => exact List.forall_mem_nil _

namespace Definition

theorem writable_argumentPatterns {as : List Argument} (h : ∀ a ∈ as, a.format.Closed) (i : Nat) :
    Pattern.Writable (Pattern.rawsAll (argumentPatterns i as))
      (Pattern.capturesAll (argumentPatterns i as)) := by
  induction as generalizing i with
  | nil => exact ⟨List.forall_mem_nil _, List.forall_mem_nil _⟩
  | cons a as ih =>
    obtain ⟨ha, has⟩ := List.forall_mem_cons.1 h
    have hraws : Pattern.rawsAll (argumentPattern i a) = a.format.toPattern.raws := by
      unfold argumentPattern
      split <;> simp [Pattern.raws, Pattern.rawsAll]
    have hcaptures : Pattern.capturesAll (argumentPattern i a) = [captureName i] := by
      unfold argumentPattern
      split <;> simp [Pattern.captures, Pattern.capturesAll, a.format.captures_toPattern]
    rw [argumentPatterns, Pattern.rawsAll_append, Pattern.capturesAll_append, hraws, hcaptures]
    refine ⟨List.forall_mem_append.2 ⟨ha.raws, (ih has (i + 1)).raws⟩,
      List.forall_mem_append.2 ⟨fun n hn => ?_, (ih has (i + 1)).captures⟩⟩
    obtain rfl := List.mem_singleton.1 hn
    exact isName_captureName i

theorem writable_pattern {d : Definition} (h : ∀ a ∈ d.arguments, a.format.Closed) :
    Pattern.Writable d.pattern.raws d.pattern.captures := by
  have hnames := Pattern.lists_literals d.names
  have hargs := writable_argumentPatterns h 0
  rw [pattern_eq]
  simpa [Pattern.raws, Pattern.captures, Pattern.rawsAll, Pattern.capturesAll,
    Pattern.rawsAll_append, Pattern.capturesAll_append, hnames.1, hnames.2.1] using hargs

/-- The names under which arguments are captured, the first one at position `i`. -/
def captureNames (i : Nat) (as : List Argument) : List String :=
  (List.range' i as.length).map captureName

theorem groupNames_argumentPatterns (i : Nat) (as : List Argument) :
    (Pattern.groupNamesAll (argumentPatterns i as)).Perm
      (captureNames i as ++ as.flatMap (·.format.toPattern.groupNames)) := by
  induction as generalizing i with
  | nil => exact .refl _
  | cons a as ih =>
    have hhead : Pattern.groupNamesAll (argumentPattern i a) =
        captureName i :: a.format.toPattern.groupNames := by
      unfold argumentPattern
      split <;> simp [Pattern.groupNames, Pattern.groupNamesAll]
    rw [argumentPatterns, Pattern.groupNamesAll_append, hhead, captureNames, List.length_cons,
      List.range'_succ, List.map_cons, List.flatMap_cons, List.cons_append, List.cons_append]
    refine .cons _ (((ih (i + 1)).append_left _).trans ?_)
    rw [← List.append_assoc, ← List.append_assoc]
    exact List.perm_append_comm.append_right _

/-- No group of a format has the name of an argument. -/
theorem groupNames_apart {d : Definition} (h : d.pattern.groupNames.Nodup) :
    ∀ a ∈ d.arguments, ∀ n ∈ a.format.toPattern.groupNames,
      n ∉ captureNames 0 d.arguments := by
  have hnames := (Pattern.lists_literals d.names).2.2
  have hargs : (Pattern.groupNamesAll (argumentPatterns 0 d.arguments)).Nodup := by
    rw [pattern_eq] at h
    simpa [Pattern.groupNames, Pattern.groupNamesAll, Pattern.groupNamesAll_append, hnames] using h
  rw [(groupNames_argumentPatterns 0 d.arguments).nodup_iff] at hargs
  intro a ha n hn hmem
  exact (List.nodup_append.1 hargs).2.2 n hmem n (List.mem_flatMap.2 ⟨a, ha, hn⟩) rfl

end Definition

/-! ## What a command reports -/

/-- A custom pattern whose comment would go on behind the pattern. -/
def Format.leavesComment : Format → Bool
  | pattern source => Regex.leavesComment source.toList
  | _ => false

/-- Only a custom pattern can leave a comment open. -/
theorem Format.leavesComment_of_not_custom {f : Format} (h : f.isCustom = false) :
    f.leavesComment = false := by
  cases f with
  | pattern source => cases h
  | _ => rfl

namespace Command

variable {c : Command}

theorem closed_of_mem {a : Argument} (ha : a ∈ c.arguments)
    (hcomment : a.format.leavesComment = false) : a.format.Closed := by
  intro source hf
  obtain ⟨limit, hwell⟩ := c.wellFormed
  have hformat := hwell.formats a ha
  rw [hf] at hformat hcomment
  exact ⟨⟨limit, hformat.2⟩, hcomment⟩

theorem closed (h : ∀ a ∈ c.arguments, a.format.leavesComment = false) :
    ∀ a ∈ c.arguments, a.format.Closed :=
  fun a ha => closed_of_mem ha (h a ha)

/-- A command is determined by its definition: more room does not change the matcher. -/
theorem eq_of_toDefinition_eq {c' : Command} (h : c.toDefinition = c'.toDefinition) : c = c' := by
  obtain ⟨_, -, hc⟩ := c.check_and_compile
  obtain ⟨_, -, hc'⟩ := c'.check_and_compile
  obtain ⟨i, hi, -, -, hr⟩ := parseChars_eq_ok.1 hc
  obtain ⟨i', hi', -, -, hr'⟩ := parseChars_eq_ok.1 hc'
  rw [h] at hi
  obtain rfl : i = i' := Except.ok.inj (hi.symm.trans hi')
  cases c
  cases c'
  cases h
  cases hr
  cases hr'
  rfl

/-- The search of a command is that of its tree. -/
theorem find_eq (h : ∀ a ∈ c.arguments, a.format.leavesComment = false) (text : String) :
    c.regex.find text = leftmost (c.pattern.ways Pattern.fragment) none 0 text.toList := by
  obtain ⟨_, -, hcompile⟩ := c.check_and_compile
  exact Pattern.find_of_compile (Definition.writable_pattern (closed h)) hcompile text

theorem apart (h : ∀ a ∈ c.arguments, a.format.leavesComment = false) :
    ∀ a ∈ c.arguments, ∀ n ∈ a.format.toPattern.groupNames,
      n ∉ Definition.captureNames 0 c.arguments := by
  obtain ⟨_, -, hcompile⟩ := c.check_and_compile
  exact Definition.groupNames_apart
    (Pattern.item_of_compile (Definition.writable_pattern (closed h)) hcompile).1

theorem ways_pattern (d : Definition) (s : Cursor) :
    d.pattern.ways Pattern.fragment s =
      (d.names.filter fun name => name.toList <+: s.rest).flatMap fun name =>
        Pattern.waysAll Pattern.fragment
          (Definition.argumentPatterns 0 d.arguments ++ [.textEnd])
          (s.skip name.toList.length) := by
  have hnames := ways_values (f := .choices d.names) rfl s
  rw [Definition.pattern_eq, Pattern.ways, Pattern.waysAll]
  change (Pattern.ways Pattern.fragment (Format.choices d.names).toPattern s).flatMap _ = _
  rw [hnames, List.flatMap_map]
  rfl

/-- The values that a command reports for a run are the values of the run. -/
theorem valuesOf_run {s q : Cursor} {vs : List (Option String)}
    (hrun : Run (Definition.captureNames 0 c.arguments) 0 c.arguments s vs q) {text : List Char}
    (hs : s.At text) (hempty : s.spans = []) (start : Nat) :
    c.valuesOf text (q.found start) = c.entries vs := by
  have hlen := hrun.spells.length_eq
  have hvalue : ∀ k < c.arguments.length, (q.spans.lookup (Definition.captureName k)).map
      (fun l => String.ofList (l.chars text)) = vs[k]?.join := by
    intro k hk
    have := hrun.value hs (k := k) (fun j hj => ?_) (fun j _ => by rw [hempty]; rfl) hk
    · simpa using this
    · rw [Definition.captureNames, Nat.zero_add]
      exact List.mem_map_of_mem (List.mem_range'_1.2 ⟨Nat.zero_le j, by omega⟩)
  unfold valuesOf Definition.entries
  congr 1
  refine List.ext_getElem (by simp [hlen]) fun k hk _ => ?_
  have hk : k < c.arguments.length := by simpa using hk
  rw [List.getElem_mapIdx, List.getElem_zipWith]
  change (_, (q.spans.lookup (Definition.captureName k)).map _) = _
  rw [hvalue k hk, List.getElem?_eq_getElem (by omega)]
  rfl

/-- A match of the tree spells an invocation, and the command reports its values. -/
theorem parses_of_ways (hc : ∀ a ∈ c.arguments, a.format.leavesComment = false) {text : List Char}
    {s q : Cursor} (hs : s.At text) (hempty : s.spans = [])
    (hq : q ∈ c.pattern.ways Pattern.fragment s) (start : Nat) :
    ∃ name vs, c.Parses s.rest name vs ∧ c.valuesOf text (q.found start) = c.entries vs := by
  rw [ways_pattern] at hq
  obtain ⟨name, hname, hq⟩ := List.mem_flatMap.1 hq
  obtain ⟨hmem, hpre⟩ := List.mem_filter.1 hname
  obtain ⟨tail, htail⟩ := of_decide_eq_true hpre
  obtain ⟨vs, hrun⟩ := run_of_mem (closed hc) (apart hc) hq
  have hat : (s.skip name.toList.length).At text := by
    rw [Cursor.At, Cursor.skip_rest, Cursor.skip_pos, hs, List.drop_drop]
  have hsp := hrun.spells
  rw [Cursor.skip_rest, ← htail, List.drop_left] at hsp
  exact ⟨name, vs, ⟨hmem, tail, htail.symm, hsp⟩, valuesOf_run hrun hat hempty start⟩

end Command

end ChatCommand
