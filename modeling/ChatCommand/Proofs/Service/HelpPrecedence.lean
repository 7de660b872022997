import ChatCommand.Proofs.Service.Routing
import Mathlib.Data.List.TakeWhile

/-!
# Whom the built-in help command gives way to

A service registers its help command last, but a text is offered to the groups in the order in which
they appeared. Where nothing else is in the group of the help command, that group is the last one,
and help gives way to all other commands. Where something is, help comes before all groups that
appeared later: it answers what it accepts unless a command that is `ahead` of it does
(`Service.dispatch_help_iff`).
-/

namespace ChatCommand

open Registration

/-- The built-in help command was hit. -/
def Hit.IsHelp (hit : Hit) : Prop :=
  hit.group = Help.group ∧ hit.command.toDefinition = Help.definition

instance (hit : Hit) : Decidable hit.IsHelp :=
  inferInstanceAs (Decidable (_ ∧ _))

/-! ## The place of a new registration -/

namespace Registration

/-- The registrations whose commands are asked before one that is added to the group: those in the
groups that appeared before it, and those that are in it. -/
def ahead (rs : List Registration) (group : String) : List Registration :=
  ((groupNames rs).takeWhile (· != group)).flatMap (inGroup rs) ++ inGroup rs group

variable {rs : List Registration} {x : Registration}

theorem inGroup_append_self : inGroup (rs ++ [x]) x.group = inGroup rs x.group ++ [x] := by
  simp [inGroup]

theorem inGroup_append_of_ne {group : String} (h : x.group ≠ group) :
    inGroup (rs ++ [x]) group = inGroup rs group := by
  simp [inGroup, h]

theorem mem_ahead {group : String} {r : Registration} :
    r ∈ ahead rs group ↔
      r ∈ rs ∧ (r.group ∈ (groupNames rs).takeWhile (· != group) ∨ r.group = group) := by
  simp only [ahead, inGroup, List.mem_append, List.mem_flatMap, List.mem_filter, beq_iff_eq]
  constructor
  · rintro (⟨n, hn, hr, rfl⟩ | ⟨hr, hg⟩)
    · exact ⟨hr, .inl hn⟩
    · exact ⟨hr, .inr hg⟩
  · rintro ⟨hr, hn | hg⟩
    · exact .inl ⟨r.group, hn, hr, rfl⟩
    · exact .inr ⟨hr, hg⟩

/-- Where a group has no registrations, all groups appeared before it. -/
theorem mem_ahead_of_new {group : String} (hnew : ∀ r ∈ rs, r.group ≠ group) {r : Registration} :
    r ∈ ahead rs group ↔ r ∈ rs := by
  have hall : (groupNames rs).takeWhile (· != group) = groupNames rs := by
    rw [List.takeWhile_eq_self_iff]
    intro n hn
    obtain ⟨q, hq, rfl⟩ := mem_groupNames.1 hn
    simpa using hnew q hq
  rw [mem_ahead, hall]
  exact ⟨And.left, fun hr => ⟨hr, .inl (mem_groupNames.2 ⟨r, hr, rfl⟩)⟩⟩

theorem exists_eq_takeWhile_append {names : List String} {n : String} (h : n ∈ names) :
    ∃ back, names = names.takeWhile (· != n) ++ n :: back := by
  induction names with
  | nil => cases h
  | cons m names ih =>
    by_cases hm : m = n
    · exact ⟨names, by simp [hm]⟩
    · obtain ⟨back, hback⟩ := ih ((List.mem_cons.1 h).resolve_left (Ne.symm hm))
      refine ⟨back, ?_⟩
      rw [List.takeWhile_cons_of_pos (by simpa using hm), List.cons_append, ← hback]

/-- The group of a new registration keeps its place, or comes last if it is new. -/
theorem groupNames_append (rs : List Registration) (x : Registration) :
    ∃ back, groupNames (rs ++ [x]) =
      (groupNames rs).takeWhile (· != x.group) ++ x.group :: back := by
  by_cases hg : x.group ∈ rs.map (·.group)
  · rw [groupNames_append_of_mem hg]
    exact exists_eq_takeWhile_append (by rwa [groupNames, List.mem_eraseDups])
  · refine ⟨[], ?_⟩
    rw [groupNames_append_of_not_mem hg, List.takeWhile_eq_self_iff.2]
    intro n hn
    rw [groupNames, List.mem_eraseDups] at hn
    simpa using fun he : n = x.group => hg (he ▸ hn)

/-- A new registration is behind those that are ahead of it, and before all others. -/
theorem ordered_append (rs : List Registration) (x : Registration) :
    ∃ behind, ordered (rs ++ [x]) = ahead rs x.group ++ x :: behind := by
  obtain ⟨back, hnames⟩ := groupNames_append rs x
  refine ⟨back.flatMap (inGroup (rs ++ [x])), ?_⟩
  have hfront : ((groupNames rs).takeWhile (· != x.group)).flatMap (inGroup (rs ++ [x])) =
      ((groupNames rs).takeWhile (· != x.group)).flatMap (inGroup rs) := by
    refine List.flatMap_congr fun n hn => inGroup_append_of_ne fun he => ?_
    simpa [he] using List.mem_takeWhile_imp hn
  rw [ordered, hnames, List.flatMap_append, List.flatMap_cons, hfront, inGroup_append_self, ahead]
  simp

end Registration

/-! ## Dispatch with a new registration -/

section

variable {rs : List Registration} {text : String} {x : Registration}

/-- If a command of a list accepts the text, one of them is the first. -/
theorem exists_first {l : List Registration}
    (h : ∃ r ∈ l, (r.command.capturesAtStart? text).isSome) :
    ∃ before r after values, l = before ++ r :: after ∧
      (∀ q ∈ before, q.command.capturesAtStart? text = none) ∧
        r.command.capturesAtStart? text = some values := by
  obtain ⟨r, hr⟩ := Option.isSome_iff_exists.1 (List.find?_isSome.2 h)
  obtain ⟨hsome, before, after, hsplit, hbefore⟩ := List.find?_eq_some_iff_append.1 hr
  obtain ⟨values, hvalues⟩ := Option.isSome_iff_exists.1 hsome
  exact ⟨before, r, after, values, hsplit, by simpa using hbefore, hvalues⟩

/-- A text that is accepted ahead of a new registration is dispatched to an old one. -/
theorem dispatch_ahead (h : ∃ r ∈ ahead rs x.group, (r.command.capturesAtStart? text).isSome) :
    ∃ r ∈ rs, ∃ values, (registry (rs ++ [x])).dispatchAtStart? text =
      some ⟨r.group, r.command, values⟩ := by
  obtain ⟨before, r, after, values, hsplit, hbefore, hvalues⟩ := exists_first h
  obtain ⟨behind, hordered⟩ := ordered_append rs x
  have hr : r ∈ ahead rs x.group := hsplit ▸ List.mem_append_right _ List.mem_cons_self
  have hfirst : ordered (rs ++ [x]) = before ++ r :: (after ++ x :: behind) := by
    rw [hordered, hsplit, List.append_assoc, List.cons_append]
  refine ⟨r, (mem_ahead.1 hr).1, values, ?_⟩
  exact Registry.dispatchAtStart?_eq_some.2 ⟨r, ⟨before, _, hfirst, hbefore, hvalues⟩, rfl, rfl⟩

/-- A text that is accepted, but not ahead of the new registration, is dispatched to that. -/
theorem dispatch_self (h : ∀ r ∈ ahead rs x.group, r.command.capturesAtStart? text = none)
    (hx : (x.command.capturesAtStart? text).isSome) :
    ∃ values, (registry (rs ++ [x])).dispatchAtStart? text =
      some ⟨x.group, x.command, values⟩ := by
  obtain ⟨values, hvalues⟩ := Option.isSome_iff_exists.1 hx
  obtain ⟨behind, hordered⟩ := ordered_append rs x
  refine ⟨values, ?_⟩
  exact Registry.dispatchAtStart?_eq_some.2 ⟨x, ⟨_, behind, hordered, h, hvalues⟩, rfl, rfl⟩

/-- If only the new registration has the property `P`, a text leads to a hit with it exactly if the
new command accepts the text and no command ahead does. -/
theorem dispatch_append_iff {P : Hit → Prop} (hself : ∀ values, P ⟨x.group, x.command, values⟩)
    (hother : ∀ r ∈ rs, ∀ values, ¬ P ⟨r.group, r.command, values⟩) :
    (∃ hit, (registry (rs ++ [x])).dispatchAtStart? text = some hit ∧ P hit) ↔
      (x.command.capturesAtStart? text).isSome ∧
        ∀ r ∈ ahead rs x.group, r.command.capturesAtStart? text = none := by
  constructor
  · rintro ⟨⟨group, command, values⟩, hhit, hP⟩
    constructor
    · obtain ⟨r, haccepts, rfl, rfl⟩ := Registry.dispatchAtStart?_eq_some.1 hhit
      obtain hr | hr := List.mem_append.1 haccepts.mem
      · exact absurd hP (hother r hr values)
      · obtain rfl := List.mem_singleton.1 hr
        obtain ⟨-, -, -, -, hvalues⟩ := haccepts
        exact Option.isSome_iff_exists.2 ⟨_, hvalues⟩
    · intro r hr
      rw [← Option.not_isSome_iff_eq_none]
      intro hsome
      obtain ⟨q, hq, values', hhit'⟩ := dispatch_ahead ⟨r, hr, hsome⟩
      exact hother q hq values' (Option.some.inj (hhit.symm.trans hhit') ▸ hP)
  · rintro ⟨hx, hnone⟩
    obtain ⟨values, hhit⟩ := dispatch_self hnone hx
    exact ⟨_, hhit, hself values⟩

end

/-! ## The help command of a service -/

namespace Draft

variable {d d' : Draft} {rs : List Registration} {sys : Settings.System} {s : Service}

theorem define_eq_ok {group : String} {definition : Definition} {h : Handler} {c : Command}
    (hd : d.define group definition h = (d', .ok c)) :
    definition.compile = .ok c ∧ d.register group c h = (d', .ok c) := by
  have hreg := call_ok (k := .define group definition h) hd
  unfold define at hd
  split at hd
  · rename_i c' hc
    obtain ⟨-, -, rfl, -⟩ := register_eq_ok hd
    exact ⟨hc, hreg⟩
  · cases congrArg Prod.snd hd

/-- A service with help has one registration more than its draft: a help command, whose name
nothing else has in its group. -/
theorem registry_of_build (hd : d.registry = Registration.registry rs) (h : d.build sys = .ok s)
    (hhelp : s.settings.help.enabled = true) :
    ∃ c, Help.definition.compile = .ok c ∧
      s.registry = Registration.registry (rs ++ [⟨Help.group, c, Help.handler⟩]) ∧
        ∀ r ∈ rs, r.group = Help.group → r.command.name ≠ c.name := by
  obtain ⟨-, d', hcompleted, hs, -⟩ := completed_of_build h
  rw [completed, if_pos hhelp] at hcompleted
  split at hcompleted
  · rename_i e c hc
    obtain rfl := Except.ok.inj hcompleted
    obtain ⟨hcompile, hreg⟩ := define_eq_ok hc
    obtain ⟨r', hr', -, rfl⟩ := register_eq_ok hreg
    rw [hd] at hr'
    refine ⟨c, hcompile, ?_, fun r hr hg => ?_⟩
    · rw [hs]
      exact Registry.registry_append (x := ⟨Help.group, c, Help.handler⟩) hr'
    · exact Registry.name_ne_of_register (x := ⟨Help.group, c, Help.handler⟩) hr' hr hg
  · cases hcompleted

end Draft

namespace Service

variable {settings : Option Settings} {file : Option String} {ks : List Call}
  {sys : Settings.System} {s : Service}

/-- Where nothing was registered in its group, the help command of a service gives way to all other
commands. Otherwise it answers what it accepts unless a command does that is in its group or in one
that appeared earlier. -/
theorem dispatch_help_iff (h : ((Draft.start settings file).run ks).1.build sys = .ok s)
    (hhelp : s.settings.help.enabled = true) :
    ((∀ r ∈ ((Draft.start settings file).run ks).2, r.group ≠ Help.group) →
      ∀ text, (∃ r ∈ ((Draft.start settings file).run ks).2,
          (r.command.capturesAtStart? text).isSome) →
        ∃ hit, s.registry.dispatchAtStart? text = some hit ∧ ¬ hit.IsHelp) ∧
    ∀ text, (∃ hit, s.registry.dispatchAtStart? text = some hit ∧ hit.IsHelp) ↔
      (∃ c, Help.definition.compile = .ok c ∧ (c.capturesAtStart? text).isSome) ∧
        ∀ r ∈ ahead ((Draft.start settings file).run ks).2 Help.group,
          r.command.capturesAtStart? text = none := by
  have hd := Holds.empty.run (d := Draft.start settings file) ks
  rw [List.nil_append] at hd
  generalize ((Draft.start settings file).run ks).2 = rs at hd ⊢
  obtain ⟨c, hc, hs, hname⟩ := Draft.registry_of_build hd.registry h hhelp
  have hself : ∀ values, Hit.IsHelp ⟨Help.group, c, values⟩ := fun _ =>
    ⟨rfl, Definition.toDefinition_of_compile hc⟩
  -- Whatever was registered by a call is not the help command, even in its group.
  have hother : ∀ r ∈ rs, ∀ values, ¬ Hit.IsHelp ⟨r.group, r.command, values⟩ := by
    rintro r hr values ⟨hgroup, hdefinition⟩
    refine hname r hr hgroup ?_
    rw [hdefinition, Definition.toDefinition_of_compile hc]
  rw [hs]
  refine ⟨fun hnew text => ?_, fun text => ?_⟩
  · rintro ⟨r, hr, hsome⟩
    obtain ⟨q, hq, values, hhit⟩ := dispatch_ahead (x := ⟨Help.group, c, Help.handler⟩)
      ⟨r, (mem_ahead_of_new hnew).2 hr, hsome⟩
    exact ⟨_, hhit, hother q hq values⟩
  · rw [dispatch_append_iff (x := ⟨Help.group, c, Help.handler⟩) hself hother]
    refine and_congr_left fun _ => ⟨fun hsome => ⟨c, hc, hsome⟩, ?_⟩
    rintro ⟨c', hc', hsome⟩
    rwa [Except.ok.inj (hc.symm.trans hc')]

/-- A call for a command that has the name of the help command. -/
def namesake : List Call :=
  [.define "chat" { name := "help" } (.line fun _ => "from chat")]

/-- The same call behind one that takes the group of the help command. -/
def latecomer : List Call :=
  .define Help.group { name := "about" } (.line fun _ => "from about") :: namesake

/-- The service that calls lead to. -/
def helpful (ks : List Call) : Service :=
  match ((Draft.start (some {}) none).run ks).1.buildWith {} with
  | .ok s => s
  | .error _ => { settings := {}, registry := {}, handlers := {} }

theorem dispatch_help_iff_namesake :
    ((Draft.start (some {}) none).run namesake).1.build
        { disk := { current := [], lookup := fun _ => none }, environment := []
          userDirectory := none } = .ok (helpful namesake) ∧
      (helpful namesake).settings.help.enabled = true ∧
      ∃ hit, (helpful namesake).registry.dispatchAtStart? "help" = some hit ∧ ¬ hit.IsHelp := by
  have hbuild : ((Draft.start (some {}) none).run namesake).1.build
      { disk := { current := [], lookup := fun _ => none }, environment := []
        userDirectory := none } = .ok (helpful namesake) := rfl
  obtain ⟨hother, -⟩ := dispatch_help_iff hbuild rfl
  exact ⟨hbuild, rfl, hother (by decide +kernel) "help" (by decide +kernel)⟩

/-- A command outside its group accepts the text, and the help command is invoked. -/
theorem dispatch_help_latecomer :
    ((Draft.start (some {}) none).run latecomer).1.build
        { disk := { current := [], lookup := fun _ => none }, environment := []
          userDirectory := none } = .ok (helpful latecomer) ∧
      (helpful latecomer).settings.help.enabled = true ∧
      (∃ r ∈ ((Draft.start (some {}) none).run latecomer).2,
        r.group ≠ Help.group ∧ (r.command.capturesAtStart? "help").isSome) ∧
      ∃ hit, (helpful latecomer).registry.dispatchAtStart? "help" = some hit ∧ hit.IsHelp := by
  refine ⟨rfl, rfl, by decide +kernel, ?_⟩
  have hhit : ((helpful latecomer).registry.dispatchAtStart? "help").any
      (fun hit => decide hit.IsHelp) = true := by
    decide +kernel
  simpa using (Option.any_eq_true _ _).1 hhit

end Service

end ChatCommand
