import ChatCommand.Proofs.Registry.Step
import Mathlib.Data.List.Nodup

/-!
# The namespaces of a registry

A registry is built by operations, each of which may fail: a group is asked for, a definition is
compiled into a group, a command is registered in one. `Registry.Namespaces` says what holds of the
names afterwards. Every group is a namespace of its own, for primary names and aliases alike, and
the next registration is refused exactly for a name that its group has already.

What one operation does is `perform_cases`. From it, an operation keeps `Registry.Holds`
(`Holds.perform`), and so does every history of operations (`Holds.run`).
-/

namespace ChatCommand

/-- An operation on a registry, which may fail. -/
inductive Operation where
  /-- Asks for a group, which is created if there is none of that name. -/
  | ensure (group : String)
  /-- Compiles a definition into a group. -/
  | define (group : String) (definition : Definition)
  /-- Registers a command in a group. -/
  | register (group : String) (command : Command)

/-- The group that an operation is about. -/
def Operation.group : Operation → String
  | ensure group | define group _ | register group _ => group

namespace Registry

/-- Performs an operation: the registry behind it, and the command that it has registered. -/
def perform (r : Registry) : Operation → Registry × Option Command
  | .ensure group => (r.ensure group, none)
  | .define group d =>
    match r.define group d with
    | (r', .ok c) => (r', some c)
    | (r', .error _) => (r', none)
  | .register group c =>
    match r.register group c with
    | (r', .ok ()) => (r', some c)
    | (r', .error _) => (r', none)

/-- Performs operations one after another, whether they fail or not: the registry behind them, and
the commands that they have registered, with their groups. -/
def run (r : Registry) : List Operation → Registry × List (String × Command)
  | [] => (r, [])
  | o :: os =>
    let (r', c?) := r.perform o
    let (r'', cs) := r'.run os
    (r'', (c?.map (o.group, ·)).toList ++ cs)

/-- What a registry has to be for `cs` to be all that was registered in it. -/
structure Holds (r : Registry) (cs : List (String × Command)) : Prop where
  /-- Groups have different names. -/
  groups_nodup : (r.groups.map (·.name)).Nodup
  /-- Within a group no name or alias occurs twice. -/
  names_nodup : ∀ g ∈ r.groups, g.names.Nodup
  /-- A group holds what was registered in it, in that order. -/
  commands_eq : ∀ g ∈ r.groups, g.commands = (cs.filter (·.1 == g.name)).map (·.2)
  /-- Nothing was registered in a group that is not there. -/
  group_mem : ∀ e ∈ cs, ∃ g ∈ r.groups, g.name = e.1
  /-- There are as many commands as were registered. -/
  size_eq : r.size = cs.length

/-- The name belongs to a command of the group. -/
def Owns (r : Registry) (group name : String) : Prop :=
  ∃ g ∈ r.groups, g.name = group ∧ ∃ c ∈ g.commands, name ∈ c.names

/-- What holds of the names in a registry in which `cs` were registered. -/
structure Namespaces (r : Registry) (cs : List (String × Command)) : Prop extends Holds r cs where
  /-- A group is found under its name. -/
  group?_iff : ∀ name g, r.group? name = some g ↔ g ∈ r.groups ∧ g.name = name
  /-- In a group, a name or alias leads to the one command that has it. -/
  find?_iff : ∀ g ∈ r.groups, ∀ n c, g.find? n = some c ↔ c ∈ g.commands ∧ n ∈ c.names
  /-- A lookup finds one command at most in every group, in the order of the groups. -/
  lookup_eq : ∀ n, r.lookup n = r.groups.flatMap fun g => (g.primary? n).toList
  /-- It finds those with that primary name. -/
  primary?_iff : ∀ g ∈ r.groups, ∀ n c, g.primary? n = some c ↔ c ∈ g.commands ∧ c.name = n
  /-- A command can be registered if its group has none of its names. -/
  register_ok_iff : ∀ group c,
    (r.register group c).2 = .ok () ↔ ∀ n ∈ c.names, ¬ r.Owns group n
  /-- Otherwise the error carries the group and the first name that it has. -/
  register_error_iff : ∀ group c e, (r.register group c).2 = .error e ↔
    ∃ before n after, c.names = before ++ n :: after ∧ (∀ m ∈ before, ¬ r.Owns group m) ∧
      r.Owns group n ∧ e = .duplicateName group n

/-! ## One operation -/

variable {r : Registry} {cs : List (String × Command)}

/-- An operation makes sure that its group is there. Then it registers no command, and that is all,
or it puts one behind the others of the group, which has none of its names. -/
theorem perform_cases (hr : (r.groups.map (·.name)).Nodup) (o : Operation) :
    r.perform o = (r.ensure o.group, none) ∨
      ∃ r' c front g back, r.perform o = (r', some c) ∧
        (r.ensure o.group).groups = front ++ g :: back ∧ g.name = o.group ∧ g.taken? c = none ∧
          r'.groups = front ++ { g with commands := g.commands ++ [c] } :: back := by
  cases o with
  | ensure group => exact .inl rfl
  | define group d =>
    cases hd : d.compile with
    | error e => exact .inl (by simp only [perform, define, hd, Operation.group])
    | ok c =>
      cases hreg : (r.ensure group).register group c with
      | mk r' res =>
        cases res with
        | error e =>
          obtain rfl := register_error hreg
          exact .inl (by simp only [perform, define, hd, hreg, Operation.group])
        | ok u =>
          obtain ⟨front, g, back, hsplit, hrest⟩ := register_eq_ok (nodup_ensure hr group) hreg
          rw [ensure_ensure] at hsplit
          refine .inr ⟨r', c, front, g, back, ?_, hsplit, hrest⟩
          simp only [perform, define, hd, hreg]
  | register group c =>
    cases hreg : r.register group c with
    | mk r' res =>
      cases res with
      | error e =>
        obtain rfl := register_eq_error hreg
        exact .inl (by simp only [perform, hreg, Operation.group])
      | ok u =>
        obtain ⟨front, g, back, hrest⟩ := register_eq_ok hr hreg
        exact .inr ⟨r', c, front, g, back, by simp only [perform, hreg], hrest⟩

/-! ## What an operation keeps -/

theorem Holds.empty : Holds {} [] where
  groups_nodup := List.nodup_nil
  names_nodup := List.forall_mem_nil _
  commands_eq := List.forall_mem_nil _
  group_mem := List.forall_mem_nil _
  size_eq := rfl

theorem Holds.ensure (h : Holds r cs) (group : String) : Holds (r.ensure group) cs := by
  cases hg : r.group? group with
  | some g => rwa [ensure_of_some hg]
  | none =>
    have hnew : ∀ g ∈ r.groups, g.name ≠ group := group?_eq_none.1 hg
    have hnone : cs.filter (·.1 == group) = [] := by
      rw [List.filter_eq_nil_iff]
      intro e he heq
      obtain ⟨g, hmem, hname⟩ := h.group_mem e he
      exact hnew g hmem (hname.trans (beq_iff_eq.1 heq))
    have hnodup := nodup_ensure h.groups_nodup group
    rw [ensure_of_none hg] at hnodup ⊢
    refine ⟨hnodup, ?_, ?_, fun e he => ?_, ?_⟩
    · exact List.forall_mem_append.2 ⟨h.names_nodup, by simp [Group.names]⟩
    · exact List.forall_mem_append.2 ⟨h.commands_eq, by simp [hnone]⟩
    · obtain ⟨g, hmem, hname⟩ := h.group_mem e he
      exact ⟨g, List.mem_append_left _ hmem, hname⟩
    · rw [← h.size_eq]
      simp [size, commands]

/-- A command that is put behind the others of its group is one more that was registered. -/
theorem Holds.append (h : Holds r cs) {r' : Registry} {c : Command} {front back : List Group}
    {g : Group} (hsplit : r.groups = front ++ g :: back) (hfree : g.taken? c = none)
    (hr' : r'.groups = front ++ { g with commands := g.commands ++ [c] } :: back) :
    Holds r' (cs ++ [(g.name, c)]) := by
  have hne : ∀ k ∈ front ++ back, g.name ≠ k.name := by
    have hperm : ((front ++ g :: back).map (·.name)).Perm ((g :: (front ++ back)).map (·.name)) :=
      List.perm_middle.map _
    have hnodup := h.groups_nodup
    rw [hsplit, hperm.nodup_iff, List.map_cons, List.nodup_cons] at hnodup
    exact fun k hk he => hnodup.1 (he ▸ List.mem_map_of_mem hk)
  have hmem : ∀ k, k ∈ r.groups ↔ k = g ∨ k ∈ front ++ back := by
    intro k
    simp only [hsplit, List.mem_append, List.mem_cons]
    exact or_left_comm
  have hmem' : ∀ k, k ∈ r'.groups ↔
      k = { g with commands := g.commands ++ [c] } ∨ k ∈ front ++ back := by
    intro k
    simp only [hr', List.mem_append, List.mem_cons]
    exact or_left_comm
  refine ⟨?_, fun k hk => ?_, fun k hk => ?_, fun e he => ?_, ?_⟩
  · have hnodup := h.groups_nodup
    rw [hsplit] at hnodup
    simpa [hr'] using hnodup
  · obtain rfl | hk := (hmem' k).1 hk
    · exact Group.names_nodup_append (h.names_nodup g ((hmem g).2 (.inl rfl))) hfree
    · exact h.names_nodup k ((hmem k).2 (.inr hk))
  · obtain rfl | hk := (hmem' k).1 hk
    · have hg := h.commands_eq g ((hmem g).2 (.inl rfl))
      simp [List.filter_append, hg]
    · have hk' := h.commands_eq k ((hmem k).2 (.inr hk))
      simp [List.filter_append, hk', hne k hk]
  · obtain he | he := List.mem_append.1 he
    · obtain ⟨k, hk, hname⟩ := h.group_mem e he
      obtain rfl | hk := (hmem k).1 hk
      · exact ⟨_, (hmem' _).2 (.inl rfl), hname⟩
      · exact ⟨k, (hmem' k).2 (.inr hk), hname⟩
    · obtain rfl := List.mem_singleton.1 he
      exact ⟨_, (hmem' _).2 (.inl rfl), rfl⟩
  · have hsize := h.size_eq
    simp only [size, commands, hsplit, hr', List.flatMap_append, List.flatMap_cons,
      List.length_append, List.length_cons, List.length_nil] at hsize ⊢
    omega

/-- An operation adds the command that it registers, if it does. -/
theorem Holds.perform (h : Holds r cs) (o : Operation) :
    Holds (r.perform o).1 (cs ++ ((r.perform o).2.map (o.group, ·)).toList) := by
  obtain he | ⟨r', c, front, g, back, he, hsplit, hname, hfree, hr'⟩ :=
    perform_cases h.groups_nodup o
  · rw [he]
    simpa using h.ensure o.group
  · rw [he, ← hname]
    exact (h.ensure o.group).append hsplit hfree hr'

/-- A history adds all that its operations register. -/
theorem Holds.run (h : Holds r cs) (os : List Operation) :
    Holds (r.run os).1 (cs ++ (r.run os).2) := by
  induction os generalizing r cs with
  | nil => simpa [Registry.run] using h
  | cons o os ih =>
    have hrest := ih (h.perform o)
    rw [List.append_assoc] at hrest
    exact hrest

/-! ## The names -/

/-- Groups have different names, so the group of a name is the first one that has it. -/
theorem Holds.group?_eq_some (h : Holds r cs) {name : String} {g : Group} :
    r.group? name = some g ↔ g ∈ r.groups ∧ g.name = name := by
  constructor
  · intro hg
    exact ⟨List.mem_of_find?_eq_some hg, name_of_group? hg⟩
  · rintro ⟨hg, rfl⟩
    obtain ⟨k, hk⟩ : ∃ k, r.group? g.name = some k := by
      rw [← Option.isSome_iff_exists, group?, List.find?_isSome]
      exact ⟨g, hg, by simp⟩
    rw [hk, List.inj_on_of_nodup_map h.groups_nodup (List.mem_of_find?_eq_some hk) hg
      (name_of_group? hk)]

/-- The names that stand in the way of a registration are those that the group owns. -/
theorem Holds.mem_names_groupOrNew (h : Holds r cs) (group n : String) :
    n ∈ ((r.ensure group).groupOrNew group).names ↔ r.Owns group n := by
  cases hg : r.group? group with
  | none =>
    have hnew : ∀ g ∈ r.groups, g.name ≠ group := group?_eq_none.1 hg
    rw [groupOrNew_ensure_of_none hg]
    constructor
    · intro hn
      cases hn
    · rintro ⟨g, hmem, hname, -⟩
      exact absurd hname (hnew g hmem)
  | some g =>
    obtain ⟨hmem, hname⟩ := h.group?_eq_some.1 hg
    rw [ensure_of_some hg, groupOrNew_of_some hg, Group.mem_names]
    constructor
    · exact fun hn => ⟨g, hmem, hname, hn⟩
    · rintro ⟨k, hk, hkname, hn⟩
      obtain rfl : k = g := by
        rw [h.group?_eq_some.2 ⟨hk, hkname⟩] at hg
        exact Option.some.inj hg
      exact hn

theorem Holds.namespaces (h : Holds r cs) : Namespaces r cs where
  toHolds := h
  group?_iff _ _ := h.group?_eq_some
  find?_iff g hg _ _ := Group.find?_eq_some (h.names_nodup g hg)
  lookup_eq n := by
    rw [lookup, commands, List.filter_flatMap]
    exact List.flatMap_congr fun g hg => Group.filter_name (h.names_nodup g hg) n
  primary?_iff g hg _ _ := Group.primary?_eq_some (h.names_nodup g hg)
  register_ok_iff group c := by
    simp only [← h.mem_names_groupOrNew, ← Group.taken?_eq_none]
    rw [register_snd]
    cases ((r.ensure group).groupOrNew group).taken? c with
    | none => exact iff_of_true rfl rfl
    | some n => exact iff_of_false (fun he => by cases he) (fun he => by cases he)
  register_error_iff group c e := by
    simp only [← h.mem_names_groupOrNew]
    rw [register_snd]
    constructor
    · intro he
      split at he
      · rename_i n hn
        obtain ⟨before, after, hnames, hbefore, hmem⟩ := Group.taken?_eq_some.1 hn
        obtain rfl := Except.error.inj he
        exact ⟨before, n, after, hnames, hbefore, hmem, rfl⟩
      · cases he
    · rintro ⟨before, n, after, hnames, hbefore, hmem, rfl⟩
      rw [Group.taken?_eq_some.2 ⟨before, after, hnames, hbefore, hmem⟩]

/-- Whatever operations have been performed, the groups of a registry are namespaces. -/
theorem namespaces_run (os : List Operation) :
    Namespaces (({} : Registry).run os).1 (({} : Registry).run os).2 := by
  have h := Holds.empty.run os
  rw [List.nil_append] at h
  exact h.namespaces

/-- A definition without a name leaves its group behind, and an alias is as good as a name. -/
example :
    let (r, cs) := ({} : Registry).run
      [.ensure "chat", .define "games" { name := "" },
        .define "chat" { name := "hi", aliases := ["hey"] }, .define "chat" { name := "hey" }]
    r.groups.map (·.name) = ["chat", "games"] ∧
      cs.map (fun e => (e.1, e.2.name)) = [("chat", "hi")] := by
  decide +kernel

end Registry

end ChatCommand
