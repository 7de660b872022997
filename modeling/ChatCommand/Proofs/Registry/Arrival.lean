import ChatCommand.Proofs.Registry.Dispatch
import ChatCommand.Proofs.Registry.Namespace
import Mathlib.Data.List.TakeWhile

/-!
# Dispatch behind a registration

A command that is registered is not asked last. It comes behind the commands of its own group and of
the groups before that (`Registry.ahead`), but before those of the groups behind, however long they
have been there (`Registry.entries_register`). So a registration changes the outcome for a text
exactly if the new command accepts it and no command ahead does: `Registry.dispatch_register`.
-/

namespace ChatCommand

namespace Registry

variable {r r' : Registry} {group : String} {c : Command}

/-- The commands that are asked before one that is added to the group: those of the groups before
it, and those that are in it. -/
def ahead (r : Registry) (group : String) : List Command :=
  (r.groups.takeWhile (·.name != group)).flatMap (·.commands) ++ (r.groupOrNew group).commands

/-- A new group counts as behind all others. -/
theorem ahead_of_new (h : r.group? group = none) : r.ahead group = r.commands := by
  have hall : r.groups.takeWhile (·.name != group) = r.groups := by
    rw [List.takeWhile_eq_self_iff]
    simpa using group?_eq_none.1 h
  rw [ahead, hall, groupOrNew, h, commands]
  exact List.append_nil _

theorem ahead_of_split {front back : List Group} {g : Group} (h : r.groups = front ++ g :: back)
    (hfront : ∀ k ∈ front, k.name ≠ g.name) :
    r.ahead g.name = front.flatMap (·.commands) ++ g.commands := by
  have hpos : ∀ k ∈ front, (k.name != g.name) = true := by simpa using hfront
  have hgroup : r.group? g.name = some g := by
    rw [group?, h, List.find?_append, List.find?_eq_none.2 (by simpa using hfront)]
    simp
  rw [ahead, groupOrNew_of_some hgroup, h, List.takeWhile_append_of_pos hpos,
    List.takeWhile_cons_of_neg (by simp), List.append_nil]

/-- A group without commands makes no difference. -/
theorem entries_ensure (r : Registry) (group : String) : (r.ensure group).entries = r.entries := by
  cases hg : r.group? group with
  | some g => rw [ensure_of_some hg]
  | none => simp [ensure_of_none hg, entries]

theorem ahead_ensure (r : Registry) (group : String) :
    (r.ensure group).ahead group = r.ahead group := by
  cases hg : r.group? group with
  | some g => rw [ensure_of_some hg]
  | none =>
    have hnew : ∀ g ∈ r.groups, g.name ≠ group := group?_eq_none.1 hg
    have hsplit : (r.ensure group).groups = r.groups ++ { name := group } :: [] := by
      rw [ensure_of_none hg]
    rw [ahead_of_split hsplit hnew, ahead_of_new hg, commands, List.append_nil]

/-! ## One registration -/

/-- The new command comes behind the commands ahead of it, and before all others. -/
theorem entries_register (hr : (r.groups.map (·.name)).Nodup)
    (h : r.register group c = (r', .ok ())) :
    ∃ before behind, before.map (·.2) = r.ahead group ∧ r.entries = before ++ behind ∧
      r'.entries = before ++ (group, c) :: behind := by
  obtain ⟨front, g, back, hsplit, rfl, -, hr'⟩ := register_eq_ok hr h
  have hfront : ∀ k ∈ front, k.name ≠ g.name := by
    have hnodup := nodup_ensure hr g.name
    rw [hsplit, List.map_append, List.nodup_append] at hnodup
    exact fun k hk => hnodup.2.2 _ (List.mem_map_of_mem hk) _ List.mem_cons_self
  let offers (gs : List Group) : List (String × Command) :=
    gs.flatMap fun g => g.commands.map (g.name, ·)
  refine ⟨offers front ++ g.commands.map (g.name, ·), offers back, ?_, ?_, ?_⟩
  · rw [← ahead_ensure, ahead_of_split hsplit hfront]
    simp [offers, List.map_flatMap]
  · rw [← entries_ensure r g.name, entries, hsplit]
    simp [offers]
  · rw [entries, hr']
    simp [offers]

/-- How the outcome of a search changes from `old` to `new` where `c` is put behind the other
commands of the group. -/
structure Gains (r : Registry) (group : String) (c : Command) (captures : Command → Option Values)
    (old new : Option Hit) : Prop where
  /-- The new command is hit if it accepts the text and no command ahead does. -/
  hit : ∀ values, captures c = some values → (∀ d ∈ r.ahead group, captures d = none) →
    new = some ⟨group, c, values⟩
  /-- Otherwise the outcome is as before. -/
  kept : (captures c = none ∨ ∃ d ∈ r.ahead group, (captures d).isSome) → new = old

theorem firstHit?_register (hr : (r.groups.map (·.name)).Nodup)
    (h : r.register group c = (r', .ok ())) (captures : Command → Option Values) :
    r.Gains group c captures (r.firstHit? captures) (r'.firstHit? captures) := by
  -- The two searches differ in one command, which is behind those ahead of it.
  obtain ⟨before, behind, hahead, hold, hnew⟩ := entries_register hr h
  rw [firstHit?_eq_entries, firstHit?_eq_entries, hold, hnew, List.findSome?_append,
    List.findSome?_append, List.findSome?_cons]
  constructor
  · intro values hvalues hnone
    have hbefore : before.findSome? (hitOf? captures) = none := by
      rw [List.findSome?_eq_none_iff]
      intro e he
      exact hitOf?_eq_none.2 (hnone e.2 (hahead ▸ List.mem_map_of_mem he))
    rw [hbefore, Option.none_or, hitOf?, hvalues, Option.map_some]
  · rintro (hnone | ⟨d, hd, hsome⟩)
    · rw [hitOf?_eq_none.2 hnone]
    · obtain ⟨e, he, rfl⟩ := List.mem_map.1 (hahead ▸ hd)
      have hbefore : (before.findSome? (hitOf? captures)).isSome := by
        rw [List.findSome?_isSome_iff]
        exact ⟨e, he, by simpa [hitOf?] using hsome⟩
      rw [Option.or_of_isSome hbefore, Option.or_of_isSome hbefore]

/-- Whatever operations have been performed, a registration that succeeds leads a text to the new
command if this accepts it and no command ahead does, and changes nothing for any other text. Nor
does a registration that fails change anything. A new group counts as behind all others. -/
theorem dispatch_register {os : List Operation} (hos : (({} : Registry).run os).1 = r)
    (group : String) (c : Command) :
    (r.group? group = none → r.ahead group = r.commands) ∧
    (∀ r', r.register group c = (r', .ok ()) → ∀ text,
      r.Gains group c (·.captures? text) (r.dispatch? text) (r'.dispatch? text) ∧
        r.Gains group c (·.capturesAtStart? text) (r.dispatchAtStart? text)
          (r'.dispatchAtStart? text)) ∧
    ∀ r' e, r.register group c = (r', .error e) → ∀ text,
      r'.dispatch? text = r.dispatch? text ∧
        r'.dispatchAtStart? text = r.dispatchAtStart? text := by
  have hr : (r.groups.map (·.name)).Nodup := hos ▸ (Holds.empty.run os).groups_nodup
  refine ⟨ahead_of_new, fun r' h text => ?_, fun r' e h text => ?_⟩
  · exact ⟨firstHit?_register hr h _, firstHit?_register hr h _⟩
  · rw [register_error h]
    exact ⟨rfl, rfl⟩

/-- A group that is there already, without commands, and a command in a later one. -/
def debugOnly : List Operation :=
  [.ensure "admin", .register "dev" debugging]

/-- A command in an earlier group gets a text that an older command got before. As a whole the text
still invokes the older one, which cannot be registered a second time. -/
theorem dispatch_register_debugOnly :
    ∃ r r' r'' e, (({} : Registry).run debugOnly).1 = r ∧
      r.register "admin" granting = (r', .ok ()) ∧ r.register "dev" debugging = (r'', .error e) ∧
      (r.dispatch? "debug bob").map (·.group) = some "dev" ∧
      r'.dispatch? "debug bob" =
        some ⟨"admin", granting, ⟨[("name", some "bob"), ("level", none)]⟩⟩ ∧
      r'.dispatchAtStart? "debug bob" = r.dispatchAtStart? "debug bob" ∧
      r''.dispatch? "debug bob" = r.dispatch? "debug bob" := by
  obtain ⟨r, hr⟩ : ∃ r, (({} : Registry).run debugOnly).1 = r := ⟨_, rfl⟩
  obtain ⟨r', hr'⟩ : ∃ r', r.register "admin" granting = (r', .ok ()) := by
    subst hr
    exact ⟨_, rfl⟩
  obtain ⟨r'', e, hr''⟩ : ∃ r'' e, r.register "dev" debugging = (r'', .error e) := by
    subst hr
    exact ⟨_, _, rfl⟩
  have hahead : r.ahead "admin" = [] := by
    subst hr
    rfl
  have hold : (r.dispatch? "debug bob").map (·.group) = some "dev" := by
    subst hr
    decide +kernel
  have hpart : granting.captures? "debug bob" =
      some ⟨[("name", some "bob"), ("level", none)]⟩ := by
    decide +kernel
  have hwhole : granting.capturesAtStart? "debug bob" = none := by decide +kernel
  obtain ⟨hgained, hkept⟩ := (dispatch_register hr "admin" granting).2.1 r' hr' "debug bob"
  have hfailed := (dispatch_register hr "dev" debugging).2.2 r'' e hr'' "debug bob"
  refine ⟨r, r', r'', e, hr, hr', hr'', hold, hgained.hit _ hpart ?_, hkept.kept (.inl hwhole),
    hfailed.1⟩
  rw [hahead]
  exact List.forall_mem_nil _

end Registry

end ChatCommand
