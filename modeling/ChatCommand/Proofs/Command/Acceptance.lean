import ChatCommand.Proofs.Command.Report

/-!
# Which definitions are accepted

A definition without custom patterns is accepted exactly if it is well formed and its matcher takes
no more room than there is: `Definition.compile_succeeds_iff`. So no name, choice or literal can
make a matcher that does not compile, whatever characters are in it.

Two things could still get in the way, and do not. The names of the groups in the matcher are all
different, since there are none but those of the arguments (`Definition.groupNames_nodup`), and the
groups enclose one another to a depth that does not grow with the definition
(`Definition.depth_pattern`).
-/

namespace ChatCommand

open Regex

/-! ## Depth -/

namespace Regex

theorem foldl_depth_le {items : List Item} {n m : Nat} (h : ∀ i ∈ items, i.depth ≤ n)
    (hm : m ≤ n) : items.foldl (fun d i => max d i.depth) m ≤ n := by
  induction items generalizing m with
  | nil => exact hm
  | cons i items ih =>
    obtain ⟨hi, hitems⟩ := List.forall_mem_cons.1 h
    exact ih hitems (Nat.max_le.2 ⟨hm, hi⟩)

theorem Item.depth_sequence {items : List Item} (h : 2 ≤ items.length) :
    (Item.sequence items).depth = 1 + items.foldl (fun d i => max d i.depth) 0 := by
  match items, h with
  | _ :: _ :: _, _ => rfl

theorem Item.depth_choice {items : List Item} (h : 2 ≤ items.length) :
    (Item.choice items).depth = 1 + items.foldl (fun d i => max d i.depth) 0 := by
  match items, h with
  | _ :: _ :: _, _ => rfl

/-- Elements in order are one deeper than the deepest of them. -/
theorem depth_inOrder_le {items : List Item} {n : Nat} (h : ∀ i ∈ items, i.depth ≤ n) :
    (Item.inOrder items).depth ≤ n + 1 := by
  match items with
  | [] => exact Nat.zero_le _
  | [i] => exact Nat.le_succ_of_le (h i List.mem_cons_self)
  | i :: j :: items =>
    rw [Item.inOrder, Item.depth_sequence (by simp), Nat.add_comm]
    refine Nat.succ_le_succ (foldl_depth_le (fun k hk => h k ?_) (Nat.zero_le n))
    exact List.mem_reverse.1 hk

/-- So are alternatives. -/
theorem depth_oneOf_le {items : List Item} {n : Nat} (h : ∀ i ∈ items, i.depth ≤ n) :
    (Item.oneOf items).depth ≤ n + 1 := by
  match items with
  | [] => exact Nat.zero_le _
  | [i] => exact Nat.le_succ_of_le (h i List.mem_cons_self)
  | i :: j :: items =>
    rw [Item.oneOf, Item.depth_choice (by simp), Nat.add_comm]
    refine Nat.succ_le_succ (foldl_depth_le (fun k hk => h k ?_) (Nat.zero_le n))
    exact List.mem_reverse.1 hk

end Regex

namespace Pattern

theorem branches_eq (ps : List Pattern) : branches ps = ps.map items := by
  induction ps with
  | nil => rfl
  | cons p ps ih => rw [branches, ih, List.map_cons]

theorem depth_literal (text : String) : ∀ i ∈ (literal text).items, i.depth ≤ 0 := by
  intro i hi
  rw [items] at hi
  obtain ⟨c, -, rfl⟩ := List.mem_map.1 hi
  exact Nat.le_refl 0

theorem depth_choice {ps : List Pattern} {n : Nat} (h : ∀ p ∈ ps, ∀ i ∈ p.items, i.depth ≤ n) :
    ∀ i ∈ (choice ps).items, i.depth ≤ n + 3 := by
  have hin : ∀ p ∈ ps, (Item.inOrder p.items).depth ≤ n + 1 := fun p hp => depth_inOrder_le (h p hp)
  match ps with
  | [] =>
    intro i hi
    obtain rfl | rfl : i = .look (.edge .either .word) ∨ i = .look (.edge .neither .word) := by
      simpa [items] using hi
    · exact Nat.zero_le _
    · exact Nat.zero_le _
  | p :: ps =>
    rw [items, branches_eq, List.forall_mem_singleton]
    refine Nat.succ_le_succ (depth_oneOf_le ?_)
    rw [List.map_map]
    exact List.forall_mem_cons.2 ⟨hin p List.mem_cons_self, List.forall_mem_map.2 fun q hq =>
      hin q (List.mem_cons_of_mem p hq)⟩

end Pattern

namespace Format

variable {f : Format}

theorem depth_toPattern (hf : f.isCustom = false) : ∀ i ∈ f.toPattern.items, i.depth ≤ 4 := by
  cases f with
  | type t =>
    have hdepth : (itemOf t.source.toList).depth ≤ 3 := by cases t <;> decide
    rw [toPattern, Pattern.items, List.forall_mem_singleton]
    exact Nat.succ_le_succ hdepth
  | pattern source => cases hf
  | choices texts =>
    have htexts : ∀ p ∈ texts.map Pattern.literal, ∀ i ∈ p.items, i.depth ≤ 0 :=
      List.forall_mem_map.2 fun text _ => Pattern.depth_literal text
    exact fun i hi => Nat.le_succ_of_le (Pattern.depth_choice htexts i hi)
  | literal text => exact fun i hi => Nat.le_trans (Pattern.depth_literal text i hi) (Nat.zero_le 4)

/-- Only a custom pattern has groups with names. -/
theorem groupNames_toPattern (hf : f.isCustom = false) : f.toPattern.groupNames = [] := by
  cases f with
  | type t => exact t.namesOf_source
  | pattern source => cases hf
  | choices texts => exact (Pattern.lists_literals texts).2.2
  | literal text => rfl

theorem closed_of_not_custom (hf : f.isCustom = false) : f.Closed := by
  rintro source rfl
  cases hf

end Format

namespace Definition

variable {d : Definition}

theorem depth_argumentPattern {a : Argument} (ha : a.format.isCustom = false) (i : Nat) :
    ∀ p ∈ argumentPattern i a, ∀ j ∈ p.items, j.depth ≤ 9 := by
  have hblank : ∀ j ∈ Pattern.blank.items, j.depth ≤ 6 :=
    List.forall_mem_singleton.2 (Nat.zero_le 6)
  have hvalue : ∀ j ∈ (Pattern.capture (captureName i) a.format.toPattern).items, j.depth ≤ 6 := by
    rw [Pattern.items, List.forall_mem_singleton]
    exact Nat.succ_le_succ (depth_inOrder_le (Format.depth_toPattern ha))
  have hboth : ∀ p ∈ [Pattern.blank, .capture (captureName i) a.format.toPattern],
      ∀ j ∈ p.items, j.depth ≤ 6 :=
    List.forall_mem_cons.2 ⟨hblank, List.forall_mem_singleton.2 hvalue⟩
  unfold argumentPattern
  split
  · rw [List.forall_mem_singleton, Pattern.items, List.forall_mem_singleton]
    refine Nat.add_le_add_right (Nat.succ_le_succ (depth_inOrder_le (n := 6) ?_)) 1
    rw [Pattern.items, Pattern.branches_eq]
    intro j hj
    obtain ⟨is, his, hj⟩ := List.mem_flatten.1 hj
    obtain ⟨p, hp, rfl⟩ := List.mem_map.1 his
    exact hboth p hp j hj
  · exact fun p hp j hj => Nat.le_trans (hboth p hp j hj) (by decide)

/-- However many names and arguments there are, the matcher is not nested deeply. -/
theorem depth_pattern (hc : ∀ a ∈ d.arguments, a.format.isCustom = false) :
    d.pattern.item.depth ≤ nestLimit := by
  have hargs : ∀ i as, (∀ a ∈ as, a.format.isCustom = false) →
      ∀ p ∈ argumentPatterns i as, ∀ j ∈ p.items, j.depth ≤ 9 := by
    intro i as
    induction as generalizing i with
    | nil => exact fun _ => List.forall_mem_nil _
    | cons a as ih =>
      intro has
      obtain ⟨ha, has⟩ := List.forall_mem_cons.1 has
      exact List.forall_mem_append.2 ⟨depth_argumentPattern ha i, ih (i + 1) has⟩
  have hnames : ∀ j ∈ (Pattern.choice (d.names.map .literal)).items, j.depth ≤ 9 := fun j hj =>
    Nat.le_trans (Format.depth_toPattern (f := .choices d.names) rfl j hj) (by decide)
  have hend : ∀ j ∈ Pattern.textEnd.items, j.depth ≤ 9 :=
    List.forall_mem_singleton.2 (Nat.zero_le 9)
  have hall : ∀ j ∈ d.pattern.items, j.depth ≤ 9 := by
    rw [pattern_eq, Pattern.items, Pattern.branches_eq]
    intro j hj
    obtain ⟨is, his, hj⟩ := List.mem_flatten.1 hj
    obtain ⟨p, hp, rfl⟩ := List.mem_map.1 his
    obtain rfl | hp := List.mem_cons.1 hp
    · exact hnames j hj
    · obtain hp | hp := List.mem_append.1 hp
      · exact hargs 0 d.arguments hc p hp j hj
      · obtain rfl := List.mem_singleton.1 hp
        exact hend j hj
  exact Nat.le_trans (depth_inOrder_le hall) (by decide)

/-! ## The matcher -/

theorem captureNames_nodup (i : Nat) (as : List Argument) : (captureNames i as).Nodup :=
  List.Nodup.map (fun _ _ h => captureName_inj h) (List.nodup_range' ..)

/-- No two groups of the matcher have one name. -/
theorem groupNames_nodup (hc : ∀ a ∈ d.arguments, a.format.isCustom = false) :
    d.pattern.groupNames.Nodup := by
  have hformats : d.arguments.flatMap (·.format.toPattern.groupNames) = [] :=
    List.flatMap_eq_nil_iff.2 fun a ha => Format.groupNames_toPattern (hc a ha)
  have hargs := groupNames_argumentPatterns 0 d.arguments
  rw [hformats, List.append_nil] at hargs
  have hnodup := hargs.nodup_iff.2 (captureNames_nodup 0 d.arguments)
  have hnames := (Pattern.lists_literals d.names).2.2
  rw [pattern_eq]
  simpa [Pattern.groupNames, Pattern.groupNamesAll, Pattern.groupNamesAll_append, hnames]
    using hnodup

/-- An estimate of the bytes that the compiled matcher takes. -/
def room (d : Definition) : Nat :=
  d.pattern.item.room

/-- The matcher compiles unless it is too large. -/
theorem compile_pattern (hc : ∀ a ∈ d.arguments, a.format.isCustom = false) :
    d.pattern.compile =
      if roomLimit < d.room then .error .tooLarge else .ok d.pattern.item.regex := by
  have hclosed : ∀ a ∈ d.arguments, a.format.Closed := fun a ha =>
    Format.closed_of_not_custom (hc a ha)
  have hread := Pattern.readItem_chars (writable_pattern hclosed) (groupNames_nodup hc)
  rw [Pattern.compile, parseChars_eq, hread]
  exact if_neg (Nat.not_lt.2 (depth_pattern hc))

/-! ## Acceptance -/

theorem compile_isOk_iff : (∃ c, d.compile = .ok c) ↔ ∃ r, d.matcher = .ok r := by
  unfold compile
  split
  · rename_i r hr
    exact iff_of_true ⟨_, rfl⟩ ⟨r, hr⟩
  · rename_i fault hfault
    rw [hfault]
    exact iff_of_false (by simp) (by simp)

theorem compile_eq_error {e : CommandError} :
    d.compile = .error e ↔ ∃ fault, d.matcher = .error fault ∧ e = .invalid d.name fault := by
  unfold compile
  split
  · rename_i r hr
    refine iff_of_false (by simp) ?_
    rintro ⟨fault, hfault, -⟩
    cases hr.symm.trans hfault
  · rename_i fault hfault
    constructor
    · intro he
      exact ⟨fault, hfault, (Except.error.inj he).symm⟩
    · rintro ⟨fault', hfault', rfl⟩
      rw [Except.error.inj (hfault.symm.trans hfault')]

/-- The checks do not look at the matcher. -/
theorem check_ne_badMatcher (d : Definition) (cause : PatternError) :
    d.check ≠ .error (.badMatcher cause) := by
  have haliases : ∀ before as, checkAliases before as ≠ .error (.badMatcher cause) := by
    intro before as
    induction as generalizing before with
    | nil => simp [checkAliases]
    | cons a as ih =>
      rw [checkAliases]
      split
      · simp
      · split
        · simp
        · exact ih _
  have harguments : ∀ before as,
      checkArguments roomLimit before as ≠ .error (.badMatcher cause) := by
    intro before as
    induction as generalizing before with
    | nil => simp [checkArguments]
    | cons a as ih =>
      rw [checkArguments]
      split
      · simp
      · split
        · simp
        · split
          · simp
          · exact ih _
  unfold check
  split
  · simp
  · split
    · rename_i fault hfault
      exact hfault ▸ haliases _ _
    · exact harguments _ _

theorem matcher_of_wellFormed (h : d.WellFormed) :
    d.matcher = match d.pattern.compile with
      | .ok r => .ok r
      | .error cause => .error (.badMatcher cause) := by
  cases hcompile : d.pattern.compile <;> simp only [matcher, check_eq_ok.2 h, hcompile]

theorem matcher_of_not_wellFormed (h : ¬ d.WellFormed) :
    ∃ fault, d.matcher = .error fault ∧ ∀ cause, fault ≠ .badMatcher cause := by
  unfold matcher
  cases hcheck : d.check with
  | ok _ => exact absurd (check_eq_ok.1 hcheck) h
  | error fault =>
    refine ⟨fault, rfl, ?_⟩
    rintro cause rfl
    exact check_ne_badMatcher d cause hcheck

/-- Without custom patterns, a definition is accepted exactly if it is well formed and there is room
for its matcher. What is refused is reported as a fault of the command of that name, and the matcher
is at fault only where the definition is well formed, for its size. -/
theorem compile_succeeds_iff (hc : ∀ a ∈ d.arguments, a.format.isCustom = false) :
    ((∃ c, d.compile = .ok c) ↔ d.WellFormed ∧ d.room ≤ roomLimit) ∧
      ∀ e, d.compile = .error e → ∃ fault, e = .invalid d.name fault ∧
        ∀ cause, fault = .badMatcher cause ↔ d.WellFormed ∧ cause = .tooLarge := by
  rw [compile_isOk_iff]
  simp only [compile_eq_error]
  by_cases hgood : d.WellFormed
  · rw [matcher_of_wellFormed hgood, compile_pattern hc]
    by_cases hroom : roomLimit < d.room
    · rw [if_pos hroom]
      refine ⟨iff_of_false (by simp) fun h => Nat.not_le.2 hroom h.2, ?_⟩
      rintro e ⟨fault, hfault, rfl⟩
      obtain rfl := Except.error.inj hfault
      exact ⟨_, rfl, fun cause => by simp [hgood, eq_comm]⟩
    · rw [if_neg hroom]
      exact ⟨iff_of_true ⟨_, rfl⟩ ⟨hgood, Nat.not_lt.1 hroom⟩, by simp⟩
  · obtain ⟨fault, hfault, hne⟩ := matcher_of_not_wellFormed hgood
    rw [hfault]
    refine ⟨iff_of_false (by simp) fun h => hgood h.1, ?_⟩
    rintro e ⟨fault', hfault', rfl⟩
    obtain rfl := Except.error.inj hfault'
    exact ⟨_, rfl, fun cause => iff_of_false (hne cause) fun h => hgood h.1⟩

/-- A definition whose texts are full of characters that mean something in pattern syntax. -/
def emphatic : Definition where
  name := "a(b"
  aliases := ["[^", "a(b)?"]
  arguments := [{ name := "x", format := .choices ["x|y", "é*", "#"] },
    { name := "y", format := .literal "\\", optional := true },
    { name := "z", format := .type .float, optional := true }]

theorem compile_succeeds_iff_emphatic :
    (∀ a ∈ emphatic.arguments, a.format.isCustom = false) ∧ emphatic.WellFormed ∧
      emphatic.room ≤ roomLimit ∧ ∃ c, emphatic.compile = .ok c := by
  have hc : ∀ a ∈ emphatic.arguments, a.format.isCustom = false := by decide
  have hgood : emphatic.WellFormed := check_eq_ok.1 (by decide +kernel)
  have hroom : emphatic.room ≤ roomLimit := by decide +kernel
  exact ⟨hc, hgood, hroom, (compile_succeeds_iff hc).1.2 ⟨hgood, hroom⟩⟩

end Definition

end ChatCommand
