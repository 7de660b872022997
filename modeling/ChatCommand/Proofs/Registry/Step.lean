import ChatCommand.Proofs.Command.Check
import ChatCommand.Registry

/-!
# What one operation does to a registry

`Registry.ensure` finds a group or adds an empty one (`groups_ensure`), `Registry.register` puts a
command behind the others of its group or is refused, and then changes nothing (`register_eq_ok`,
`register_error`). Whether it is refused depends on the names in the group alone
(`Group.taken?_eq_none`, `Group.taken?_eq_some`). Here groups have different names, and within a
group no name occurs twice; `ensure` and `register` keep both.
-/

namespace ChatCommand

/-! ## Names in a group -/

namespace Group

/-- All names and aliases of commands of the group. -/
def names (g : Group) : List String :=
  g.commands.flatMap (·.names)

/-- The command that has `name` as its primary name. -/
def primary? (g : Group) (name : String) : Option Command :=
  g.commands.find? (·.name == name)

variable {g : Group} {c : Command} {n : String}

theorem mem_names : n ∈ g.names ↔ ∃ c ∈ g.commands, n ∈ c.names :=
  List.mem_flatMap

theorem find?_isSome : (g.find? n).isSome ↔ n ∈ g.names := by
  rw [find?, List.find?_isSome, mem_names]
  simp only [List.contains_iff_mem]

theorem taken?_eq_none : g.taken? c = none ↔ ∀ n ∈ c.names, n ∉ g.names := by
  simp only [taken?, List.find?_eq_none, find?_isSome]

/-- The name that is reported is the first one of the command that the group has already. -/
theorem taken?_eq_some :
    g.taken? c = some n ↔
      ∃ before after, c.names = before ++ n :: after ∧ (∀ m ∈ before, m ∉ g.names) ∧
        n ∈ g.names := by
  rw [taken?, List.find?_eq_some_iff_append, find?_isSome]
  constructor
  · rintro ⟨hn, before, after, hnames, hbefore⟩
    refine ⟨before, after, hnames, fun m hm => ?_, hn⟩
    rw [← find?_isSome]
    simpa using hbefore m hm
  · rintro ⟨before, after, hnames, hbefore, hn⟩
    refine ⟨hn, before, after, hnames, fun m hm => ?_⟩
    have := hbefore m hm
    rw [← find?_isSome] at this
    simpa using this

/-- Where no name occurs twice, a name leads to the one command that has it. -/
theorem find?_eq_some (h : g.names.Nodup) : g.find? n = some c ↔ c ∈ g.commands ∧ n ∈ c.names := by
  constructor
  · intro hc
    exact ⟨List.mem_of_find?_eq_some hc, by simpa using List.find?_some hc⟩
  · rintro ⟨hc, hn⟩
    obtain ⟨front, back, hsplit⟩ := List.append_of_mem hc
    rw [names, hsplit, List.flatMap_append, List.nodup_append] at h
    rw [find?, hsplit, List.find?_append, List.find?_cons_of_pos (by simpa using hn),
      List.find?_eq_none.2, Option.none_or]
    intro d hd hnd
    refine h.2.2 n (List.mem_flatMap.2 ⟨d, hd, by simpa using hnd⟩) n ?_ rfl
    rw [List.flatMap_cons]
    exact List.mem_append_left _ hn

/-- Where no name occurs twice, one command at most has a primary name. -/
theorem filter_name (h : g.names.Nodup) (n : String) :
    g.commands.filter (·.name == n) = (g.primary? n).toList := by
  obtain ⟨group, cs⟩ := g
  simp only [names, primary?] at h ⊢
  induction cs with
  | nil => rfl
  | cons c cs ih =>
    rw [List.flatMap_cons, List.nodup_append] at h
    by_cases hn : c.name = n
    · have hcs : cs.filter (·.name == n) = [] := by
        rw [List.filter_eq_nil_iff]
        intro d hd hdn
        refine h.2.2 c.name List.mem_cons_self d.name ?_ (hn.trans (beq_iff_eq.1 hdn).symm)
        exact List.mem_flatMap.2 ⟨d, hd, List.mem_cons_self⟩
      simp [hn, hcs]
    · simp [hn, ih h.2.1]

/-- So does a primary name. -/
theorem primary?_eq_some (h : g.names.Nodup) :
    g.primary? n = some c ↔ c ∈ g.commands ∧ c.name = n := by
  constructor
  · intro hc
    exact ⟨List.mem_of_find?_eq_some hc, by simpa using List.find?_some hc⟩
  · rintro ⟨hc, rfl⟩
    obtain ⟨d, hd⟩ : ∃ d, g.primary? c.name = some d := by
      rw [← Option.isSome_iff_exists, primary?, List.find?_isSome]
      exact ⟨c, hc, by simp⟩
    have hmem := List.mem_of_find?_eq_some hd
    have hname : d.name = c.name := by simpa using List.find?_some hd
    have hfound : g.find? d.name = some d := (find?_eq_some h).2 ⟨hmem, List.mem_cons_self⟩
    rw [hd, ← hfound, hname, (find?_eq_some h).2 ⟨hc, List.mem_cons_self⟩]

/-- Without a collision, the names of the group and of a new command are all different. -/
theorem names_nodup_append (h : g.names.Nodup) (hc : g.taken? c = none) :
    ({ g with commands := g.commands ++ [c] } : Group).names.Nodup := by
  simp only [names, List.flatMap_append, List.flatMap_singleton, List.nodup_append]
  obtain ⟨_, hwell⟩ := c.wellFormed
  refine ⟨h, hwell.names_nodup, fun n hn m hm he => ?_⟩
  exact taken?_eq_none.1 hc m hm (he ▸ hn)

end Group

/-! ## Groups and registration -/

/-- What comes last counts as new if it did not occur before. -/
theorem eraseDups_concat (l : List String) (a : String) :
    (l ++ [a]).eraseDups = if a ∈ l then l.eraseDups else l.eraseDups ++ [a] := by
  rw [List.eraseDups_append, List.removeAll]
  split
  · rename_i h
    rw [List.filter_cons_of_neg (by simpa using h)]
    exact List.append_nil _
  · rename_i h
    rw [List.filter_cons_of_pos (by simpa using h)]
    rfl

namespace Registry

variable {r r' : Registry} {group : String} {c : Command}

theorem group?_eq_none : r.group? group = none ↔ ∀ g ∈ r.groups, g.name ≠ group := by
  simp [group?]

theorem name_of_group? {g : Group} (h : r.group? group = some g) : g.name = group :=
  beq_iff_eq.1 (List.find?_some (p := fun g : Group => g.name == group) h)

theorem ensure_of_some {g : Group} (h : r.group? group = some g) : r.ensure group = r :=
  if_pos (Option.isSome_iff_exists.2 ⟨g, h⟩)

theorem groupOrNew_of_some {g : Group} (h : r.group? group = some g) : r.groupOrNew group = g := by
  rw [groupOrNew, h, Option.getD_some]

theorem ensure_of_none (h : r.group? group = none) :
    r.ensure group = { groups := r.groups ++ [{ name := group }] } := by
  rw [ensure, h]
  rfl

theorem groupOrNew_ensure_of_none (h : r.group? group = none) :
    (r.ensure group).groupOrNew group = { name := group } := by
  rw [group?] at h
  rw [ensure_of_none h, groupOrNew, group?, List.find?_append, h]
  simp

/-- Behind `ensure`, the group is there. -/
theorem groups_ensure (r : Registry) (group : String) :
    ∃ front g back, (r.ensure group).groups = front ++ g :: back ∧
      (∀ h ∈ front, h.name ≠ group) ∧ g.name = group ∧
        (r.ensure group).group? group = some g := by
  have hsome : ∃ g, (r.ensure group).group? group = some g := by
    cases hg : r.group? group with
    | none =>
      rw [ensure_of_none hg, group?, List.find?_append]
      rw [group?] at hg
      exact ⟨{ name := group }, by simp [hg]⟩
    | some g => exact ⟨g, by rw [ensure_of_some hg, hg]⟩
  obtain ⟨g, hg⟩ := hsome
  obtain ⟨hname, front, back, hsplit, hfront⟩ := List.find?_eq_some_iff_append.1 hg
  exact ⟨front, g, back, hsplit, by simpa using hfront, by simpa using hname, hg⟩

theorem ensure_ensure (r : Registry) (group : String) :
    (r.ensure group).ensure group = r.ensure group := by
  obtain ⟨-, g, -, -, -, -, hg⟩ := groups_ensure r group
  exact ensure_of_some hg

theorem taken?_empty (group : String) (c : Command) : ({ name := group } : Group).taken? c = none :=
  List.find?_eq_none.2 fun _ _ h => by cases h

theorem register_eq_error {e : CommandError} (h : r.register group c = (r', .error e)) :
    r' = r.ensure group := by
  unfold register at h
  simp only at h
  split at h
  · cases congrArg Prod.snd h
  · exact (congrArg Prod.fst h).symm

/-- A registration that is refused changes nothing, since its group is there already. -/
theorem register_error {e : CommandError} (h : r.register group c = (r', .error e)) : r' = r := by
  rw [register_eq_error h]
  cases hg : r.group? group with
  | none =>
    simp only [register, groupOrNew_ensure_of_none hg, Group.register, taken?_empty] at h
    cases congrArg Prod.snd h
  | some g => exact ensure_of_some hg

theorem register_ok (h : r.register group c = (r', .ok ())) :
    ((r.ensure group).groupOrNew group).taken? c = none ∧
      r' = (r.ensure group).replace
        { (r.ensure group).groupOrNew group with
          commands := ((r.ensure group).groupOrNew group).commands ++ [c] } := by
  simp only [register, Group.register] at h
  cases ht : ((r.ensure group).groupOrNew group).taken? c with
  | none =>
    simp only [ht] at h
    exact ⟨rfl, (congrArg Prod.fst h).symm⟩
  | some n =>
    simp only [ht] at h
    cases congrArg Prod.snd h

/-- The group comes behind the others if it is new. -/
theorem names_ensure (r : Registry) (group : String) :
    (r.ensure group).groups.map (·.name) =
      if group ∈ r.groups.map (·.name) then r.groups.map (·.name)
      else r.groups.map (·.name) ++ [group] := by
  cases hg : r.group? group with
  | some g =>
    rw [ensure_of_some hg, if_pos]
    exact List.mem_map.2 ⟨g, List.mem_of_find?_eq_some hg, name_of_group? hg⟩
  | none =>
    rw [ensure_of_none hg, if_neg (by simpa using group?_eq_none.1 hg), List.map_append,
      List.map_singleton]

theorem nodup_ensure (hr : (r.groups.map (·.name)).Nodup) (group : String) :
    ((r.ensure group).groups.map (·.name)).Nodup := by
  rw [names_ensure]
  split
  · exact hr
  · rename_i hnew
    refine List.nodup_append.2 ⟨hr, by simp, fun name hname name' hname' he => ?_⟩
    obtain rfl := List.mem_singleton.1 hname'
    exact hnew (he ▸ hname)

/-- A registration that succeeds puts the command behind the others of its group, and leaves all
other groups as they are. -/
theorem register_eq_ok (hr : (r.groups.map (·.name)).Nodup)
    (h : r.register group c = (r', .ok ())) :
    ∃ front g back, (r.ensure group).groups = front ++ g :: back ∧ g.name = group ∧
      g.taken? c = none ∧
        r'.groups = front ++ { g with commands := g.commands ++ [c] } :: back := by
  obtain ⟨front, g, back, hsplit, hfront, hname, hg⟩ := groups_ensure r group
  obtain ⟨hfree, rfl⟩ := register_ok h
  rw [groupOrNew_of_some hg] at hfree ⊢
  refine ⟨front, g, back, hsplit, hname, hfree, ?_⟩
  have hback : ∀ h ∈ back, h.name ≠ group := by
    have hnodup := nodup_ensure hr group
    rw [hsplit, List.map_append, List.map_cons, List.nodup_append, List.nodup_cons] at hnodup
    exact fun h hh he => hnodup.2.1.1 (hname ▸ he ▸ List.mem_map_of_mem hh)
  have hkeep : ∀ hs : List Group, (∀ h ∈ hs, h.name ≠ group) →
      hs.map (fun h => if h.name == g.name then { g with commands := g.commands ++ [c] } else h) =
        hs := fun hs hhs => by
    rw [List.map_congr_left (g := id) fun h hh => ?_, List.map_id]
    rw [if_neg (by simpa [hname] using hhs h hh)]
    rfl
  rw [replace, hsplit, List.map_append, List.map_cons, hkeep front hfront, hkeep back hback]
  simp

/-- The outcome of a registration. -/
theorem register_snd (r : Registry) (group : String) (c : Command) :
    (r.register group c).2 =
      match ((r.ensure group).groupOrNew group).taken? c with
      | some n => .error (.duplicateName group n)
      | none => .ok () := by
  obtain ⟨-, g, -, -, -, hname, hg⟩ := groups_ensure r group
  simp only [register, Group.register, groupOrNew_of_some hg]
  cases g.taken? c with
  | none => rfl
  | some n => simp [hname]

end Registry

end ChatCommand
