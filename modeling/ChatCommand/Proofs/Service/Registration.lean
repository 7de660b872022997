import ChatCommand.Proofs.Registry.Step
import ChatCommand.Service.Draft
import ChatCommand.Service.Routing

/-!
# Histories of registrations

A draft is put together by calls, each of which may fail. `Draft.run` is a history of calls and
`Registration.Holds` what it leaves behind: the groups are those of the successful registrations, in
the order in which they were first registered into, and every registration finds its own handler
under its group and name. A failed call changes nothing (`call_error`), a successful one adds its
registration (`Holds.call`), and so does a whole history (`Holds.run`).
-/

namespace ChatCommand

/-- A call that registers a command, compiled already or not. -/
inductive Call where
  | register (group : String) (command : Command) (handler : Handler)
  | define (group : String) (definition : Definition) (handler : Handler)

namespace Call

/-- The group of the call. -/
def group : Call → String
  | register group _ _ | define group _ _ => group

/-- The handler of the call. -/
def handler : Call → Handler
  | register _ _ handler | define _ _ handler => handler

end Call

/-- What a successful call has registered. -/
structure Registration where
  group : String
  command : Command
  handler : Handler

namespace Draft

/-- Makes a call. -/
def call (d : Draft) : Call → Draft × Except CommandError Command
  | .register group c h => d.register group c h
  | .define group definition h => d.define group definition h

/-- Makes calls one after another, whether they fail or not: the draft behind them, and what the
successful ones have registered. -/
def run (d : Draft) : List Call → Draft × List Registration
  | [] => (d, [])
  | k :: ks =>
    match d.call k with
    | (d', .ok c) =>
      let (d'', rs) := d'.run ks
      (d'', ⟨k.group, c, k.handler⟩ :: rs)
    | (d', .error _) => d'.run ks

end Draft

namespace Registration

/-- The groups of registrations, in the order in which they first occur. -/
def groupNames (rs : List Registration) : List String :=
  (rs.map (·.group)).eraseDups

/-- The registrations in one group. -/
def inGroup (rs : List Registration) (group : String) : List Registration :=
  rs.filter (·.group == group)

/-- The registrations ordered by when their group first occurs, those in one group in their own
order. -/
def ordered (rs : List Registration) : List Registration :=
  (groupNames rs).flatMap (inGroup rs)

/-- The group of that name. -/
def toGroup (rs : List Registration) (group : String) : Group where
  name := group
  commands := (inGroup rs group).map (·.command)

/-- The registry that they make up. -/
def registry (rs : List Registration) : Registry where
  groups := (groupNames rs).map (toGroup rs)

variable {rs : List Registration} {x : Registration}

theorem groupNames_append_of_mem (h : x.group ∈ rs.map (·.group)) :
    groupNames (rs ++ [x]) = groupNames rs := by
  rw [groupNames, List.map_append, List.map_singleton, eraseDups_concat, if_pos h, groupNames]

theorem groupNames_append_of_not_mem (h : x.group ∉ rs.map (·.group)) :
    groupNames (rs ++ [x]) = groupNames rs ++ [x.group] := by
  rw [groupNames, List.map_append, List.map_singleton, eraseDups_concat, if_neg h, groupNames]

theorem mem_groupNames {group : String} :
    group ∈ groupNames rs ↔ ∃ r ∈ rs, r.group = group := by
  rw [groupNames, List.mem_eraseDups, List.mem_map]

theorem mem_ordered {r : Registration} : r ∈ ordered rs ↔ r ∈ rs := by
  simp only [ordered, inGroup, List.mem_flatMap, List.mem_filter, beq_iff_eq]
  exact ⟨fun ⟨_, _, h, _⟩ => h, fun h => ⟨r.group, mem_groupNames.2 ⟨r, h, rfl⟩, h, rfl⟩⟩

theorem toGroup_append_self :
    toGroup (rs ++ [x]) x.group =
      { toGroup rs x.group with commands := (toGroup rs x.group).commands ++ [x.command] } := by
  simp [toGroup, inGroup]

theorem toGroup_append_of_ne {group : String} (h : x.group ≠ group) :
    toGroup (rs ++ [x]) group = toGroup rs group := by
  simp [toGroup, inGroup, h]

theorem toGroup_of_not_mem {group : String} (h : group ∉ groupNames rs) :
    toGroup rs group = { name := group } := by
  have hnone : inGroup rs group = [] := List.filter_eq_nil_iff.2 fun r hr he =>
    h (mem_groupNames.2 ⟨r, hr, beq_iff_eq.1 he⟩)
  rw [toGroup, hnone]
  rfl

end Registration

open Registration

/-! ## Groups -/

namespace Registry

variable {r : Registry} {rs : List Registration}

theorem group?_of_mem {group : String} (hg : group ∈ groupNames rs) :
    (registry rs).group? group = some (toGroup rs group) := by
  have hfind : (groupNames rs).find? (· == group) = some group := by
    cases hf : (groupNames rs).find? (· == group) with
    | none => simpa using List.find?_eq_none.1 hf group hg
    | some n =>
      have hn : (n == group) = true := List.find?_some (p := fun n => n == group) hf
      rw [beq_iff_eq.1 hn]
  rw [group?, registry, List.find?_map]
  exact congrArg (Option.map (toGroup rs)) hfind

theorem group?_of_not_mem {group : String} (hg : group ∉ groupNames rs) :
    (registry rs).group? group = none := by
  rw [group?, List.find?_eq_none]
  intro g hmem he
  obtain ⟨n, hn, rfl⟩ := List.mem_map.1 hmem
  exact hg (beq_iff_eq.1 he ▸ hn)

theorem groupOrNew_registry (rs : List Registration) (group : String) :
    ((registry rs).ensure group).groupOrNew group = toGroup rs group := by
  by_cases hg : group ∈ groupNames rs
  · rw [ensure_of_some (group?_of_mem hg), groupOrNew_of_some (group?_of_mem hg)]
  · rw [groupOrNew_ensure_of_none (group?_of_not_mem hg), toGroup_of_not_mem hg]

/-- A registration adds the command to its group, and the group to the others if it is new. -/
theorem registry_append {x : Registration} {r' : Registry}
    (hr : (registry rs).register x.group x.command = (r', .ok ())) :
    r' = registry (rs ++ [x]) := by
  obtain ⟨-, rfl⟩ := register_ok hr
  rw [groupOrNew_registry, ← toGroup_append_self]
  have hreplace : ∀ names : List String,
      (names.map (toGroup rs)).map (fun g => if g.name == (toGroup (rs ++ [x]) x.group).name then
        toGroup (rs ++ [x]) x.group else g) = names.map (toGroup (rs ++ [x])) := by
    intro names
    rw [List.map_map]
    refine List.map_congr_left fun n _ => ?_
    by_cases hn : n = x.group
    · simp [toGroup, hn]
    · rw [Function.comp_apply, if_neg (by simpa [toGroup] using hn),
        toGroup_append_of_ne (Ne.symm hn)]
  by_cases hg : x.group ∈ groupNames rs
  · rw [ensure_of_some (group?_of_mem hg), replace, registry, hreplace, registry,
      groupNames_append_of_mem (by simpa [groupNames] using hg)]
  · rw [ensure_of_none (group?_of_not_mem hg), replace, registry, List.map_append, hreplace,
      registry, groupNames_append_of_not_mem (by simpa [groupNames] using hg), List.map_append]
    simp [toGroup]

/-- Nor does the command share its name with one that is in the group. -/
theorem name_ne_of_register {x y : Registration} {r' : Registry}
    (hr : (registry rs).register x.group x.command = (r', .ok ())) (hy : y ∈ rs)
    (hg : y.group = x.group) : y.command.name ≠ x.command.name := by
  have hfree := (register_ok hr).1
  rw [groupOrNew_registry] at hfree
  intro hname
  have hmem : y.command ∈ (toGroup rs x.group).commands :=
    List.mem_map_of_mem (List.mem_filter.2 ⟨hy, beq_iff_eq.2 hg⟩)
  have hfind : ((toGroup rs x.group).find? x.command.name).isSome := by
    rw [Group.find?, List.find?_isSome]
    exact ⟨y.command, hmem, by simp [Definition.names, hname]⟩
  exact List.find?_eq_none.1 hfree x.command.name List.mem_cons_self hfind

end Registry

/-! ## Handlers -/

namespace Handlers

variable (hs : Handlers) (group name : String) (h : Handler)

theorem lookup_filter_ne {α β : Type} [BEq α] [LawfulBEq α] {k k' : α} (hne : k' ≠ k)
    (l : List (α × β)) : (l.filter (·.1 != k)).lookup k' = l.lookup k' := by
  induction l with
  | nil => rfl
  | cons e l ih =>
    by_cases he : e.1 = k
    · have hk : (k' == e.1) = false := beq_eq_false_iff_ne.2 (he ▸ hne)
      rw [List.filter_cons_of_neg (by simp [he]), ih, List.lookup_cons, hk]
    · rw [List.filter_cons_of_pos (by simpa using he), List.lookup_cons, List.lookup_cons, ih]

theorem get?_insert_self : (hs.insert group name h).get? group name = some h := by
  have hnone : (hs.entries.filter (·.1 != (group, name))).lookup (group, name) = none := by
    rw [List.lookup_eq_none_iff]
    intro e he
    have := (List.mem_filter.1 he).2
    simpa [bne_comm] using this
  rw [get?, insert, List.lookup_append, hnone, Option.none_or, List.lookup_cons_self]

theorem get?_insert_of_ne {group' name' : String} (hne : (group', name') ≠ (group, name)) :
    (hs.insert group name h).get? group' name' = hs.get? group' name' := by
  have hlast : [((group, name), h)].lookup (group', name') = none := by
    rw [List.lookup_cons, beq_eq_false_iff_ne.2 hne]
    rfl
  rw [get?, insert, List.lookup_append, lookup_filter_ne hne, hlast, Option.or_none, get?]

end Handlers

/-! ## Calls -/

namespace Draft

variable {d d' : Draft} {rs : List Registration}

theorem register_eq_error {group : String} {c : Command} {h : Handler} {e : CommandError}
    (hd : d.register group c h = (d', .error e)) : d' = d := by
  unfold register at hd
  split at hd
  · cases congrArg Prod.snd hd
  · rename_i r e' hr
    rw [Registry.register_error hr] at hd
    exact (congrArg Prod.fst hd).symm

theorem register_eq_ok {group : String} {c c' : Command} {h : Handler}
    (hd : d.register group c h = (d', .ok c')) :
    ∃ r, d.registry.register group c = (r, .ok ()) ∧ c' = c ∧
      d' = { d with registry := r, handlers := d.handlers.insert group c.name h } := by
  unfold register at hd
  split at hd
  · rename_i r hr
    exact ⟨r, hr, (Except.ok.inj (congrArg Prod.snd hd)).symm, (congrArg Prod.fst hd).symm⟩
  · cases congrArg Prod.snd hd

/-- A failed call leaves the draft as it is. -/
theorem call_error {k : Call} {e : CommandError} (h : d.call k = (d', .error e)) : d' = d := by
  cases k with
  | register group c handler => exact register_eq_error h
  | define group definition handler =>
    simp only [call, define] at h
    split at h
    · exact register_eq_error h
    · exact (congrArg Prod.fst h).symm

/-- A successful one registers its command, or the one that its definition compiles to. -/
theorem call_ok {k : Call} {c : Command} (h : d.call k = (d', .ok c)) :
    d.register k.group c k.handler = (d', .ok c) := by
  cases k with
  | register group c' handler =>
    obtain ⟨-, -, rfl, -⟩ := register_eq_ok h
    exact h
  | define group definition handler =>
    simp only [call, define] at h
    split at h
    · obtain ⟨-, -, rfl, -⟩ := register_eq_ok h
      exact h
    · cases congrArg Prod.snd h

theorem run_cons_ok {k : Call} {c : Command} (h : d.call k = (d', .ok c)) (ks : List Call) :
    d.run (k :: ks) = ((d'.run ks).1, ⟨k.group, c, k.handler⟩ :: (d'.run ks).2) := by
  rw [run, h]

theorem run_cons_error {k : Call} {e : CommandError} (h : d.call k = (d', .error e))
    (ks : List Call) : d.run (k :: ks) = d.run ks := by
  rw [run, h]
  exact congrArg (·.run ks) (call_error h)

theorem run_append (d : Draft) (ks ks' : List Call) :
    d.run (ks ++ ks') =
      (((d.run ks).1.run ks').1, (d.run ks).2 ++ ((d.run ks).1.run ks').2) := by
  induction ks generalizing d with
  | nil => rfl
  | cons k ks ih =>
    rw [List.cons_append]
    cases hk : d.call k with
    | mk d' res =>
      cases res with
      | ok c => rw [run_cons_ok hk, run_cons_ok hk, ih, List.cons_append]
      | error e => rw [run_cons_error hk, run_cons_error hk, ih]

end Draft

/-! ## What is left behind -/

namespace Registration

/-- What a registry and a table of handlers have to be for `rs` to be all that was registered. -/
structure Holds (r : Registry) (hs : Handlers) (rs : List Registration) : Prop where
  registry : r = Registration.registry rs
  handlers : ∀ x ∈ rs, hs.get? x.group x.command.name = some x.handler

variable {d d' : Draft} {rs : List Registration}

theorem Holds.empty : Holds {} {} [] :=
  ⟨rfl, nofun⟩

/-- A successful call adds one registration. The handler of no other one is lost, since a command of
the same name in the same group would have made the call fail. -/
theorem Holds.call (hd : Holds d.registry d.handlers rs) {k : Call} {c : Command}
    (h : d.call k = (d', .ok c)) :
    Holds d'.registry d'.handlers (rs ++ [⟨k.group, c, k.handler⟩]) := by
  obtain ⟨r, hr, -, rfl⟩ := Draft.register_eq_ok (Draft.call_ok h)
  rw [hd.registry] at hr
  refine ⟨Registry.registry_append (x := ⟨k.group, c, k.handler⟩) hr, fun y hy => ?_⟩
  obtain hy | hy := List.mem_append.1 hy
  · rw [Handlers.get?_insert_of_ne]
    · exact hd.handlers y hy
    · intro hkey
      obtain ⟨hgroup, hname⟩ := Prod.mk.inj hkey
      exact Registry.name_ne_of_register (x := ⟨k.group, c, k.handler⟩) hr hy hgroup hname
  · obtain rfl := List.mem_singleton.1 hy
    exact Handlers.get?_insert_self ..

/-- A history adds what its successful calls have registered. -/
theorem Holds.run (hd : Holds d.registry d.handlers rs) (ks : List Call) :
    Holds (d.run ks).1.registry (d.run ks).1.handlers (rs ++ (d.run ks).2) := by
  induction ks generalizing d rs with
  | nil => simpa [Draft.run] using hd
  | cons k ks ih =>
    cases hk : d.call k with
    | mk d' res =>
      cases res with
      | ok c =>
        rw [Draft.run_cons_ok hk]
        simpa using ih (hd.call hk)
      | error e =>
        rw [Draft.run_cons_error hk]
        exact ih hd

end Registration

end ChatCommand
