import ChatCommand.Proofs.Registry.Namespace
import Mathlib.Data.List.Induction
import Mathlib.Data.List.Perm.Basic

/-!
# The independence of groups

`Registry.registerAll` registers commands one after another and notes the outcome of every call.
What it does to a group, and how the calls for the group turn out, is what `Group.registerAll` says
of the group alone (`Registry.groupOrNew_registerAll`, `Registry.outcomes_registerAll`). Calls for
other groups leave no trace but the order of the groups (`Registry.names_registerAll`). So calls may
be interleaved at will: `Registry.registerAll_interleaved`.
-/

namespace ChatCommand

/-! ## One group alone -/

namespace Group

/-- The group behind the registration of a command, and the outcome. A group that refuses a command
stays as it is. -/
def put (g : Group) (c : Command) : Group × Except CommandError Unit :=
  match g.register c with
  | .ok g' => (g', .ok ())
  | .error e => (g, .error e)

/-- Registers commands one after another: the group behind them, and the outcomes. -/
def registerAll (g : Group) : List Command → Group × List (Except CommandError Unit)
  | [] => (g, [])
  | c :: cs =>
    let (g', res) := g.put c
    ((g'.registerAll cs).1, res :: (g'.registerAll cs).2)

theorem name_put (g : Group) (c : Command) : (g.put c).1.name = g.name := by
  simp only [put, register]
  cases g.taken? c <;> rfl

end Group

namespace Registry

/-- Registers commands in groups one after another: the registry behind them, and every call with
its outcome. -/
def registerAll (r : Registry) :
    List (String × Command) → Registry × List ((String × Command) × Except CommandError Unit)
  | [] => (r, [])
  | k :: ks =>
    let (r', res) := r.register k.1 k.2
    ((r'.registerAll ks).1, (k, res) :: (r'.registerAll ks).2)

variable {r : Registry} {name group : String}

/-! ## One call -/

theorem name_groupOrNew (r : Registry) (name : String) : (r.groupOrNew name).name = name := by
  cases hg : r.group? name with
  | none => rw [groupOrNew, hg, Option.getD_none]
  | some g => rw [groupOrNew_of_some hg, name_of_group? hg]

theorem group?_ensure (r : Registry) (group name : String) :
    (r.ensure group).group? name =
      if name = group then some (r.groupOrNew group) else r.group? name := by
  cases hg : r.group? group with
  | some g =>
    rw [ensure_of_some hg, groupOrNew_of_some hg]
    split
    · rename_i he
      rw [he, hg]
    · rfl
  | none =>
    rw [ensure_of_none hg, group?, List.find?_append, groupOrNew, hg]
    split
    · rename_i he
      rw [group?] at hg
      rw [he, hg]
      simp
    · rename_i hne
      rw [List.find?_singleton, if_neg (by simpa using Ne.symm hne), Option.or_none, group?]

theorem group?_replace (r : Registry) (g : Group) (name : String) :
    (r.replace g).group? name =
      (r.group? name).map fun h => if h.name == g.name then g else h := by
  have hname : (fun h : Group => h.name == name) ∘ (fun h => if h.name == g.name then g else h) =
      fun h => h.name == name := by
    funext h
    by_cases hh : h.name = g.name <;> simp [hh]
  rw [group?, replace, List.find?_map, hname, group?]

theorem groupOrNew_ensure (r : Registry) (group : String) :
    (r.ensure group).groupOrNew group = r.groupOrNew group := by
  rw [groupOrNew, group?_ensure, if_pos rfl, Option.getD_some]

/-- A registration changes its group alone. -/
theorem group?_register (r : Registry) (group : String) (c : Command) (name : String) :
    (r.register group c).1.group? name =
      if name = group then some ((r.groupOrNew group).put c).1 else r.group? name := by
  have hput := Group.name_put (r.groupOrNew group) c
  simp only [register, groupOrNew_ensure, Group.put] at hput ⊢
  cases hreg : (r.groupOrNew group).register c with
  | error e => exact group?_ensure r group name
  | ok g =>
    rw [hreg, name_groupOrNew] at hput
    simp only at hput ⊢
    rw [group?_replace, group?_ensure, hput]
    split
    · simp [name_groupOrNew]
    · rename_i hne
      cases hg : r.group? name with
      | none => rfl
      | some h => rw [Option.map_some, if_neg (by simpa [name_of_group? hg] using hne)]

/-- The outcome of a registration depends on its group alone. -/
theorem register_snd_put (r : Registry) (group : String) (c : Command) :
    (r.register group c).2 = ((r.groupOrNew group).put c).2 := by
  simp only [register, groupOrNew_ensure, Group.put]
  cases (r.groupOrNew group).register c <;> rfl

theorem groupOrNew_register_self (r : Registry) (group : String) (c : Command) :
    (r.register group c).1.groupOrNew group = ((r.groupOrNew group).put c).1 := by
  rw [groupOrNew, group?_register, if_pos rfl, Option.getD_some]

theorem groupOrNew_register_of_ne (r : Registry) (c : Command) (h : name ≠ group) :
    (r.register group c).1.groupOrNew name = r.groupOrNew name := by
  rw [groupOrNew, group?_register, if_neg h, groupOrNew]

/-- The groups behind a registration are those behind `ensure`. -/
theorem names_register (r : Registry) (group : String) (c : Command) :
    (r.register group c).1.groups.map (·.name) = (r.ensure group).groups.map (·.name) := by
  have hreplace : ∀ (r : Registry) (g : Group),
      (r.replace g).groups.map (·.name) = r.groups.map (·.name) := by
    intro r g
    rw [replace, List.map_map]
    refine List.map_congr_left fun h _ => ?_
    by_cases hh : h.name = g.name <;> simp [hh]
  simp only [register]
  cases ((r.ensure group).groupOrNew group).register c with
  | ok g => exact hreplace _ g
  | error e => rfl

/-! ## Many calls -/

/-- The calls for one group. -/
def callsFor (group : String) (ks : List (String × Command)) : List (String × Command) :=
  ks.filter (·.1 == group)

/-- What calls do to a group, they do to it alone. -/
theorem groupOrNew_registerAll (r : Registry) (ks : List (String × Command)) (name : String) :
    (r.registerAll ks).1.groupOrNew name =
      ((r.groupOrNew name).registerAll ((callsFor name ks).map (·.2))).1 := by
  induction ks generalizing r with
  | nil => rfl
  | cons k ks ih =>
    obtain ⟨group, c⟩ := k
    simp only [registerAll, callsFor] at ih ⊢
    rw [ih]
    by_cases hk : group = name
    · subst hk
      rw [List.filter_cons_of_pos (by simp), groupOrNew_register_self]
      rfl
    · rw [List.filter_cons_of_neg (by simpa using hk), groupOrNew_register_of_ne r c (Ne.symm hk)]

/-- How the calls for a group turn out does not depend on the other calls. -/
theorem outcomes_registerAll (r : Registry) (ks : List (String × Command)) (name : String) :
    (r.registerAll ks).2.filter (·.1.1 == name) =
      (callsFor name ks).zip
        ((r.groupOrNew name).registerAll ((callsFor name ks).map (·.2))).2 := by
  induction ks generalizing r with
  | nil => rfl
  | cons k ks ih =>
    obtain ⟨group, c⟩ := k
    simp only [registerAll, callsFor] at ih ⊢
    by_cases hk : group = name
    · subst hk
      rw [List.filter_cons_of_pos (by simp), List.filter_cons_of_pos (by simp), ih,
        groupOrNew_register_self, register_snd_put]
      rfl
    · rw [List.filter_cons_of_neg (by simpa using hk), List.filter_cons_of_neg (by simpa using hk),
        ih, groupOrNew_register_of_ne r c (Ne.symm hk)]

theorem registerAll_append (r : Registry) (ks ks' : List (String × Command)) :
    (r.registerAll (ks ++ ks')).1 = ((r.registerAll ks).1.registerAll ks').1 := by
  induction ks generalizing r with
  | nil => rfl
  | cons k ks ih => exact ih _

/-- The groups that calls create, in the order in which the calls first name them. -/
def newGroups (r : Registry) (ks : List (String × Command)) : List String :=
  (ks.map (·.1)).eraseDups.filter fun name => name ∉ r.groups.map (·.name)

theorem mem_newGroups {ks : List (String × Command)} :
    name ∈ r.newGroups ks ↔ name ∈ ks.map (·.1) ∧ name ∉ r.groups.map (·.name) := by
  rw [newGroups, List.mem_filter, List.mem_eraseDups, decide_eq_true_iff]

theorem newGroups_concat (r : Registry) (ks : List (String × Command)) (k : String × Command) :
    r.newGroups (ks ++ [k]) =
      if k.1 ∈ r.groups.map (·.name) ++ r.newGroups ks then r.newGroups ks
      else r.newGroups ks ++ [k.1] := by
  have hmem : k.1 ∈ r.groups.map (·.name) ++ r.newGroups ks ↔
      k.1 ∈ r.groups.map (·.name) ∨ k.1 ∈ ks.map (·.1) := by
    rw [List.mem_append, mem_newGroups]
    tauto
  have hconcat : r.newGroups (ks ++ [k]) =
      (if k.1 ∈ ks.map (·.1) then (ks.map (·.1)).eraseDups
        else (ks.map (·.1)).eraseDups ++ [k.1]).filter fun name =>
          name ∉ r.groups.map (·.name) := by
    rw [newGroups, List.map_append, List.map_singleton, eraseDups_concat]
  rw [hconcat]
  by_cases hnamed : k.1 ∈ ks.map (·.1)
  · rw [if_pos hnamed, if_pos (hmem.2 (.inr hnamed)), newGroups]
  · rw [if_neg hnamed, List.filter_append, ← newGroups]
    by_cases hold : k.1 ∈ r.groups.map (·.name)
    · rw [if_pos (hmem.2 (.inl hold)), List.filter_cons_of_neg (by simpa using hold),
        List.filter_nil, List.append_nil]
    · rw [if_neg (by tauto), List.filter_cons_of_pos (by simpa using hold), List.filter_nil]

/-- New groups come behind the others. -/
theorem names_registerAll (r : Registry) (ks : List (String × Command)) :
    (r.registerAll ks).1.groups.map (·.name) = r.groups.map (·.name) ++ r.newGroups ks := by
  induction ks using List.reverseRecOn with
  | nil => simp [registerAll, newGroups]
  | append_singleton ks k ih =>
    have hlast : (r.registerAll (ks ++ [k])).1 =
        ((r.registerAll ks).1.register k.1 k.2).1 := registerAll_append r ks [k]
    rw [hlast, names_register, names_ensure, ih, newGroups_concat]
    split <;> simp [List.append_assoc]

theorem nodup_registerAll (hr : (r.groups.map (·.name)).Nodup) (ks : List (String × Command)) :
    ((r.registerAll ks).1.groups.map (·.name)).Nodup := by
  induction ks generalizing r with
  | nil => exact hr
  | cons k ks ih =>
    refine ih ?_
    change ((r.register k.1 k.2).1.groups.map (·.name)).Nodup
    rw [names_register]
    exact nodup_ensure hr k.1

/-! ## Registries by their groups -/

/-- Where groups have different names, a registry is the list of the names and what is found under
them. -/
theorem groups_eq_map (hr : (r.groups.map (·.name)).Nodup) :
    r.groups = (r.groups.map (·.name)).map r.groupOrNew := by
  rw [List.map_map]
  refine (List.map_id r.groups).symm.trans (List.map_congr_left fun g hg => ?_)
  cases hfound : r.group? g.name with
  | none => exact absurd rfl (group?_eq_none.1 hfound g hg)
  | some g' =>
    have hname := name_of_group? hfound
    rw [Function.comp_apply, groupOrNew_of_some hfound]
    exact (List.inj_on_of_nodup_map hr (List.mem_of_find?_eq_some hfound) hg hname).symm

/-- What is found under a name. -/
theorem group?_eq (r : Registry) (name : String) :
    r.group? name = if name ∈ r.groups.map (·.name) then some (r.groupOrNew name) else none := by
  cases hg : r.group? name with
  | none => rw [if_neg (by simpa using group?_eq_none.1 hg)]
  | some g =>
    rw [if_pos, groupOrNew_of_some hg]
    exact List.mem_map.2 ⟨g, List.mem_of_find?_eq_some hg, name_of_group? hg⟩

/-! ## Interleavings -/

section Interleaved

variable {ks ks' : List (String × Command)}

/-- Both have the same calls for every group, in the same order. -/
def Interleaved (ks ks' : List (String × Command)) : Prop :=
  ∀ group, callsFor group ks = callsFor group ks'

theorem Interleaved.groupOrNew_eq (h : Interleaved ks ks') (r : Registry) :
    (r.registerAll ks).1.groupOrNew = (r.registerAll ks').1.groupOrNew := by
  funext name
  rw [groupOrNew_registerAll, groupOrNew_registerAll, h name]

theorem Interleaved.mem_groups (h : Interleaved ks ks') (name : String) :
    name ∈ ks.map (·.1) ↔ name ∈ ks'.map (·.1) := by
  have hcalls : ∀ ks : List (String × Command), name ∈ ks.map (·.1) ↔ callsFor name ks ≠ [] := by
    intro ks
    simp [callsFor]
  rw [hcalls, hcalls, h name]

theorem Interleaved.mem_names (h : Interleaved ks ks') (r : Registry) (name : String) :
    name ∈ (r.registerAll ks).1.groups.map (·.name) ↔
      name ∈ (r.registerAll ks').1.groups.map (·.name) := by
  rw [names_registerAll, names_registerAll, List.mem_append, List.mem_append, mem_newGroups,
    mem_newGroups, h.mem_groups]

theorem Interleaved.group?_eq (h : Interleaved ks ks') (r : Registry) (name : String) :
    (r.registerAll ks).1.group? name = (r.registerAll ks').1.group? name := by
  rw [Registry.group?_eq, Registry.group?_eq, h.groupOrNew_eq]
  exact if_congr (h.mem_names r name) rfl rfl

theorem Interleaved.groups_perm (h : Interleaved ks ks') (hr : (r.groups.map (·.name)).Nodup) :
    (r.registerAll ks).1.groups.Perm (r.registerAll ks').1.groups := by
  rw [groups_eq_map (nodup_registerAll hr ks), groups_eq_map (nodup_registerAll hr ks'),
    h.groupOrNew_eq]
  exact ((List.perm_ext_iff_of_nodup (nodup_registerAll hr ks) (nodup_registerAll hr ks')).2
    (h.mem_names r)).map _

/-- Where new groups come in the same order, nothing is left of the interleaving. -/
theorem Interleaved.registerAll_eq (h : Interleaved ks ks') (hr : (r.groups.map (·.name)).Nodup)
    (hnew : r.newGroups ks = r.newGroups ks') :
    (r.registerAll ks).1 = (r.registerAll ks').1 := by
  have hgroups : (r.registerAll ks).1.groups = (r.registerAll ks').1.groups := by
    rw [groups_eq_map (nodup_registerAll hr ks), groups_eq_map (nodup_registerAll hr ks'),
      h.groupOrNew_eq, names_registerAll, names_registerAll, hnew]
  exact congrArg Registry.mk hgroups

/-- Let two lists of calls have the same calls for every group, in the same order. Whatever has been
done to the registry before, the n-th call for a group turns out the same in both, the same group is
found under every name, and there are as many commands. If calls name the new groups in the same
order, texts are dispatched alike, and commands are listed and looked up alike. -/
theorem registerAll_interleaved (h : Interleaved ks ks') (os : List Operation) :
    let r := (({} : Registry).run os).1
    let after := (r.registerAll ks).1
    let after' := (r.registerAll ks').1
    (∀ group, (r.registerAll ks).2.filter (·.1.1 == group) =
      (r.registerAll ks').2.filter (·.1.1 == group)) ∧
    (∀ name, after.group? name = after'.group? name) ∧
    after.groups.Perm after'.groups ∧
    after.size = after'.size ∧
    (r.newGroups ks = r.newGroups ks' →
      after.commands = after'.commands ∧
      ∀ text, after.dispatch? text = after'.dispatch? text ∧
        after.dispatchAtStart? text = after'.dispatchAtStart? text ∧
        after.lookup text = after'.lookup text) := by
  intro r after after'
  have hr : (r.groups.map (·.name)).Nodup := (Holds.empty.run os).groups_nodup
  refine ⟨fun group => ?_, h.group?_eq r, h.groups_perm hr, ?_, fun hnew => ?_⟩
  · rw [outcomes_registerAll, outcomes_registerAll, h group]
  · exact ((h.groups_perm hr).flatMap_right _).length_eq
  · have heq : after = after' := h.registerAll_eq hr hnew
    rw [heq]
    exact ⟨rfl, fun text => ⟨rfl, rfl, rfl⟩⟩

/-- A command with an alias that others have too. -/
def kick : Command where
  name := "kick"
  aliases := ["x"]
  regex := _
  matcher_eq := ⟨Regex.roomLimit, rfl⟩

/-- A command of the same alias. -/
def ban : Command where
  name := "ban"
  aliases := ["x"]
  regex := _
  matcher_eq := ⟨Regex.roomLimit, rfl⟩

/-- Calls that change from group to group, one of which is refused. -/
def inTurns : List (String × Command) :=
  [("one", kick), ("two", ban), ("one", ban)]

/-- The same calls, group after group. -/
def inBlocks : List (String × Command) :=
  [("one", kick), ("one", ban), ("two", ban)]

theorem registerAll_interleaved_inTurns :
    Interleaved inTurns inBlocks ∧
      ({} : Registry).newGroups inTurns = ({} : Registry).newGroups inBlocks ∧
      (({} : Registry).registerAll inTurns).2.map (·.2) =
        [.ok (), .ok (), .error (.duplicateName "one" "x")] ∧
      (({} : Registry).registerAll inTurns).1.size = (({} : Registry).registerAll inBlocks).1.size ∧
      (({} : Registry).registerAll inTurns).1.dispatchAtStart? "x" =
        (({} : Registry).registerAll inBlocks).1.dispatchAtStart? "x" := by
  have h : Interleaved inTurns inBlocks := by
    intro group
    by_cases hone : "one" = group
    · subst hone
      rfl
    · simp [callsFor, inTurns, inBlocks, List.filter_cons, hone]
  have hnew : ({} : Registry).newGroups inTurns = ({} : Registry).newGroups inBlocks := by
    decide +kernel
  obtain ⟨-, -, -, hsize, hsame⟩ := registerAll_interleaved h []
  exact ⟨h, hnew, rfl, hsize, ((hsame hnew).2 "x").2.1⟩

end Interleaved

end Registry

end ChatCommand
