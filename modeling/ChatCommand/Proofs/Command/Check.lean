import ChatCommand.Command.Basic

/-!
# What the checks of a definition let through

`Definition.WellFormed` says what a definition has to be, without an order in which it is looked at:
nothing in it is empty, its names differ from each other, and so do the names of its arguments.
`Definition.check` goes through the aliases and the arguments one by one, each against the names
before it, and stops at the first fault. It lets through the well-formed definitions and no others
(`Definition.check_eq_ok`), so every command is well formed (`Command.wellFormed`).
-/

namespace ChatCommand

/-- The format has a value to offer: a pattern that compiles in the room of `limit`, or texts that
are not empty. -/
def Format.WellFormed (limit : Nat) : Format → Prop
  | type _ => True
  | pattern source => source ≠ "" ∧ ∃ r, Regex.parse source limit = .ok r
  | choices texts => texts ≠ [] ∧ "" ∉ texts
  | literal text => text ≠ ""

/-- A definition that can be invoked and whose arguments can be told apart. -/
structure Definition.WellFormed (d : Definition) (limit : Nat := Regex.roomLimit) : Prop where
  name_ne : d.name ≠ ""
  alias_ne : ∀ a ∈ d.aliases, a ≠ ""
  /-- An alias is neither the name nor another alias. -/
  names_nodup : d.names.Nodup
  argument_ne : ∀ a ∈ d.arguments, a.name ≠ ""
  arguments_nodup : (d.arguments.map (·.name)).Nodup
  formats : ∀ a ∈ d.arguments, a.format.WellFormed limit

section
variable {limit : Nat}

theorem Format.check_eq_ok {f : Format} : f.check limit = .ok () ↔ f.WellFormed limit := by
  cases f with
  | type t => exact iff_of_true rfl trivial
  | pattern source =>
    simp only [check, WellFormed, String.isEmpty_iff]
    split
    · simp_all
    · cases Regex.parse source limit <;> simp_all
  | choices texts =>
    simp only [check, WellFormed, List.isEmpty_iff]
    split
    · simp_all
    · simp_all
  | literal text =>
    simp only [check, WellFormed, String.isEmpty_iff]
    split <;> simp_all

namespace Definition

/-- The aliases pass if they are all different, from each other and from the names before them. -/
theorem checkAliases_eq_ok {before aliases : List String} :
    checkAliases before aliases = .ok () ↔
      (∀ a ∈ aliases, a ≠ "") ∧ aliases.Nodup ∧ ∀ a ∈ aliases, a ∉ before := by
  induction aliases generalizing before with
  | nil => simp [checkAliases]
  | cons a as ih =>
    rw [checkAliases]
    by_cases hempty : a = ""
    · simp [hempty]
    by_cases hbefore : a ∈ before
    · simp [hempty, hbefore]
    rw [if_neg (by simpa using hempty), if_neg (by simpa using hbefore), ih]
    simp only [List.forall_mem_cons, List.nodup_cons]
    constructor
    · rintro ⟨hne, hnodup, hout⟩
      exact ⟨⟨hempty, hne⟩, ⟨fun ha => hout a ha List.mem_cons_self, hnodup⟩, hbefore,
        fun b hb hmem => hout b hb (List.mem_cons_of_mem a hmem)⟩
    · rintro ⟨⟨-, hne⟩, ⟨hnew, hnodup⟩, -, hout⟩
      refine ⟨hne, hnodup, fun b hb hmem => ?_⟩
      obtain rfl | hmem := List.mem_cons.1 hmem
      · exact hnew hb
      · exact hout b hb hmem

/-- The arguments pass if their names do, and if each format does. -/
theorem checkArguments_eq_ok {before : List String} {as : List Argument} :
    checkArguments limit before as = .ok () ↔
      (∀ a ∈ as, a.name ≠ "") ∧ (as.map (·.name)).Nodup ∧ (∀ a ∈ as, a.name ∉ before) ∧
        ∀ a ∈ as, a.format.WellFormed limit := by
  induction as generalizing before with
  | nil => simp [checkArguments]
  | cons a as ih =>
    rw [checkArguments]
    by_cases hempty : a.name = ""
    · simp [hempty]
    by_cases hbefore : a.name ∈ before
    · simp [hempty, hbefore]
    rw [if_neg (by simpa using hempty), if_neg (by simpa using hbefore)]
    cases hcheck : a.format.check limit with
    | error fault =>
      have hformat : ¬ a.format.WellFormed limit := by simp [← Format.check_eq_ok, hcheck]
      simp [hformat]
    | ok _ =>
      have hformat := Format.check_eq_ok.1 hcheck
      simp only [ih, List.forall_mem_cons, List.map_cons, List.nodup_cons]
      constructor
      · rintro ⟨hne, hnodup, hout, hformats⟩
        refine ⟨⟨hempty, hne⟩, ⟨fun ha => ?_, hnodup⟩, ⟨hbefore, fun b hb hmem => ?_⟩, hformat,
          hformats⟩
        · obtain ⟨b, hb, he⟩ := List.mem_map.1 ha
          exact hout b hb (he ▸ List.mem_cons_self)
        · exact hout b hb (List.mem_cons_of_mem _ hmem)
      · rintro ⟨⟨-, hne⟩, ⟨hnew, hnodup⟩, ⟨-, hout⟩, -, hformats⟩
        refine ⟨hne, hnodup, fun b hb hmem => ?_, hformats⟩
        obtain he | hmem := List.mem_cons.1 hmem
        · exact hnew (List.mem_map.2 ⟨b, hb, he⟩)
        · exact hout b hb hmem

/-- The checks let through what is well formed, and nothing else. -/
theorem check_eq_ok {d : Definition} : d.check limit = .ok () ↔ d.WellFormed limit := by
  unfold check
  by_cases hname : d.name = ""
  · rw [if_pos (String.isEmpty_iff.2 hname)]
    exact iff_of_false (by simp) fun h => h.name_ne hname
  rw [if_neg (by simpa using hname)]
  cases haliases : checkAliases [d.name] d.aliases with
  | error fault =>
    refine iff_of_false (by simp) fun h => ?_
    have hnodup := List.nodup_cons.1 h.names_nodup
    have hok : checkAliases [d.name] d.aliases = .ok () :=
      checkAliases_eq_ok.2 ⟨h.alias_ne, hnodup.2, fun a ha he =>
        hnodup.1 (List.mem_singleton.1 he ▸ ha)⟩
    rw [haliases] at hok
    cases hok
  | ok _ =>
    obtain ⟨hne, hnodup, hout⟩ := checkAliases_eq_ok.1 haliases
    rw [checkArguments_eq_ok]
    constructor
    · rintro ⟨hargs, hdistinct, -, hformats⟩
      refine ⟨hname, hne, List.nodup_cons.2 ⟨fun hmem => ?_, hnodup⟩, hargs, hdistinct, hformats⟩
      exact hout d.name hmem List.mem_cons_self
    · exact fun h => ⟨h.argument_ne, h.arguments_nodup, by simp, h.formats⟩

/-- The command of a definition is what the definition says. -/
theorem toDefinition_of_compile {d : Definition} {c : Command} (h : d.compile = .ok c) :
    c.toDefinition = d := by
  unfold compile at h
  split at h
  · obtain rfl := Except.ok.inj h
    rfl
  · cases h

end Definition

namespace Command

theorem check_and_compile (c : Command) :
    ∃ limit, c.toDefinition.check limit = .ok () ∧ c.pattern.compile limit = .ok c.regex := by
  obtain ⟨limit, h⟩ := c.matcher_eq
  refine ⟨limit, ?_⟩
  unfold Definition.matcher at h
  split at h
  · cases h
  · rename_i hcheck
    split at h
    · rename_i r hr
      exact ⟨hcheck, hr.trans (congrArg Except.ok (Except.ok.inj h))⟩
    · cases h

theorem wellFormed (c : Command) : ∃ limit, c.WellFormed limit := by
  obtain ⟨limit, h, -⟩ := c.check_and_compile
  exact ⟨limit, Definition.check_eq_ok.1 h⟩

end Command

end

end ChatCommand
