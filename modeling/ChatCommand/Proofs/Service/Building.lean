import ChatCommand.Proofs.Registry.Arrival
import ChatCommand.Proofs.Service.HelpOutput
import ChatCommand.Proofs.Service.Refusal
import ChatCommand.Proofs.Settings.Usable

/-!
# What becomes of a draft

Where a program decides on the settings itself, building its draft fails for two reasons only: the
settings are not usable, or the help command finds its name taken. Otherwise there is a service with
these settings, and with the commands of the draft and the help command (`Service.Completes`).
`Draft.build_start` says which of these it is.

A service finds a handler for every command because handlers and commands are added in pairs. That
the table of handlers has the commands for keys, each of them once, is what a history keeps
(`Registration.Keyed.run`).
-/

namespace ChatCommand

open Registration

/-! ## Handlers and commands in pairs -/

namespace Registration

/-- The key of the handler. -/
def key (x : Registration) : String × String :=
  (x.group, x.command.name)

theorem names_registry (rs : List Registration) :
    (registry rs).groups.map (·.name) = groupNames rs := by
  simp [registry, toGroup, Function.comp_def]

theorem groupNames_nodup (rs : List Registration) : (groupNames rs).Nodup := by
  induction rs using List.reverseRecOn with
  | nil => exact List.nodup_nil
  | append_singleton rs x ih =>
    by_cases hx : x.group ∈ rs.map (·.group)
    · rwa [groupNames_append_of_mem hx]
    · rw [groupNames_append_of_not_mem hx, List.nodup_append]
      refine ⟨ih, by simp, fun n hn m hm he => hx ?_⟩
      obtain rfl := List.mem_singleton.1 hm
      rwa [he, groupNames, List.mem_eraseDups] at hn

/-- The table has one handler for each registration, and the registry has one command for each. -/
structure Keyed (hs : Handlers) (rs : List Registration) : Prop where
  keys_nodup : (rs.map key).Nodup
  keys_eq : hs.entries.map (·.1) = rs.map key
  entries_perm : (Registration.registry rs).entries.Perm (rs.map fun x => (x.group, x.command))

variable {d d' : Draft} {hs : Handlers} {rs : List Registration}

theorem Keyed.empty : Keyed {} [] :=
  ⟨List.nodup_nil, rfl, .nil⟩

/-- A registration adds a command, and a handler under a key that is new. -/
theorem Keyed.append (h : Keyed hs rs) {x : Registration} {r : Registry}
    (hr : (registry rs).register x.group x.command = (r, .ok ())) :
    Keyed (hs.insert x.group x.command.name x.handler) (rs ++ [x]) := by
  have hnew : ∀ y ∈ rs, y.key ≠ x.key := fun y hy he =>
    Registry.name_ne_of_register hr hy (congrArg Prod.fst he) (congrArg Prod.snd he)
  refine ⟨?_, ?_, ?_⟩
  · rw [List.map_append, List.nodup_append]
    refine ⟨h.keys_nodup, by simp, fun k hk k' hk' he => ?_⟩
    obtain ⟨y, hy, rfl⟩ := List.mem_map.1 hk
    obtain rfl := List.mem_singleton.1 hk'
    exact hnew y hy he
  · -- No handler is replaced.
    have hkeep : hs.entries.filter (·.1 != (x.group, x.command.name)) = hs.entries := by
      rw [List.filter_eq_self]
      intro e he
      have hkey : e.1 ∈ rs.map key := h.keys_eq ▸ List.mem_map_of_mem he
      obtain ⟨y, hy, hye⟩ := List.mem_map.1 hkey
      rw [← hye, bne_iff_ne]
      exact hnew y hy
    rw [Handlers.insert, hkeep, List.map_append, h.keys_eq, List.map_append]
    rfl
  · have hnodup : ((registry rs).groups.map (·.name)).Nodup :=
      names_registry rs ▸ groupNames_nodup rs
    obtain ⟨before, behind, -, hold, hentries⟩ := Registry.entries_register hnodup hr
    have hperm := h.entries_perm
    rw [hold] at hperm
    rw [← Registry.registry_append hr, hentries, List.map_append, List.map_singleton]
    exact List.perm_middle.trans ((hperm.cons _).trans (List.perm_append_singleton _ _).symm)

/-- A history keeps handlers and commands in pairs. -/
theorem Keyed.run (hd : Holds d.registry d.handlers rs) (h : Keyed d.handlers rs)
    (ks : List Call) : Keyed (d.run ks).1.handlers (rs ++ (d.run ks).2) := by
  induction ks generalizing d rs with
  | nil => simpa [Draft.run] using h
  | cons k ks ih =>
    cases hk : d.call k with
    | mk d' res =>
      cases res with
      | ok c =>
        obtain ⟨r, hr, -, rfl⟩ := Draft.register_eq_ok (Draft.call_ok hk)
        have hr' := hr
        rw [hd.registry] at hr'
        rw [Draft.run_cons_ok hk]
        have hnext := ih (hd.call hk) (h.append (x := ⟨k.group, c, k.handler⟩) hr')
        rwa [List.append_assoc] at hnext
      | error e =>
        rw [Draft.run_cons_error hk]
        exact ih hd h

end Registration

/-! ## The help command -/

/-- The built-in help command. -/
def Help.command : Command :=
  Help.definition.compile.toOption.get rfl

theorem Help.compile : Help.definition.compile = .ok Help.command := by
  have hsome : Help.definition.compile.toOption = some Help.command := (Option.some_get _).symm
  cases hc : Help.definition.compile with
  | ok c =>
    rw [hc] at hsome
    exact congrArg Except.ok (Option.some.inj hsome)
  | error e =>
    rw [hc] at hsome
    cases hsome

theorem Help.toDefinition_command : Help.command.toDefinition = Help.definition :=
  Definition.toDefinition_of_compile Help.compile

/-- What completing a draft registers. -/
def Help.registrations (settings : Settings) : List Registration :=
  if settings.help.enabled then [⟨Help.group, Help.command, Help.handler⟩] else []

theorem Help.inGroup_registrations (settings : Settings) (group : String) :
    (inGroup (Help.registrations settings) group).map (·.command) =
      if settings.help.enabled ∧ group = Help.group then [Help.command] else [] := by
  rw [Help.registrations, inGroup]
  by_cases hhelp : settings.help.enabled = true
  · by_cases hgroup : group = Help.group
    · simp [hhelp, hgroup]
    · simp [hhelp, hgroup, Ne.symm hgroup]
  · simp [hhelp]

theorem Help.groupNames_registrations (rs : List Registration) (settings : Settings) :
    groupNames (rs ++ Help.registrations settings) = groupNames rs ++
      if settings.help.enabled ∧ Help.group ∉ groupNames rs then [Help.group] else [] := by
  rw [Help.registrations]
  by_cases hhelp : settings.help.enabled = true
  · by_cases hgroup : Help.group ∈ groupNames rs
    · rw [if_pos hhelp, groupNames_append_of_mem (by simpa [groupNames] using hgroup)]
      simp [hgroup]
    · rw [if_pos hhelp, groupNames_append_of_not_mem (by simpa [groupNames] using hgroup)]
      simp [hhelp, hgroup]
  · simp [hhelp]

/-- The help command is in order, so its name is the only reason to refuse it. -/
theorem Help.refused_iff {rs : List Registration} {e : CommandError} :
    Refused rs (.define Help.group Help.definition Help.handler) e ↔
      Taken rs Help.group "help" ∧ e = .duplicateName Help.group "help" := by
  constructor
  · intro h
    cases h with
    | invalid hfault =>
      have hrefused := Definition.compile_eq_error.2 ⟨_, hfault, rfl⟩
      rw [Help.compile] at hrefused
      cases hrefused
    | @taken _ c before after n hk hnames _ hn =>
      obtain rfl := Except.ok.inj (Help.compile.symm.trans hk)
      rw [Help.toDefinition_command] at hnames
      have hsingle : ["help"] = before ++ n :: after := hnames
      cases before with
      | nil =>
        obtain rfl := (List.cons.inj hsingle).1
        exact ⟨hn, rfl⟩
      | cons m before => simp at hsingle
  · rintro ⟨hn, rfl⟩
    have hnames : Help.command.names = [] ++ "help" :: [] := by
      rw [Help.toDefinition_command]
      rfl
    exact .taken Help.compile hnames (List.forall_mem_nil _) hn

/-! ## Building -/

/-- The service has these settings and these registrations, and help if the settings want it. -/
structure Service.Completes (s : Service) (settings : Settings) (rs : List Registration) :
    Prop where
  settings_eq : s.settings = settings
  /-- The groups of the registrations, in order. That of help is one of them, or comes last. -/
  groups_eq : s.registry.groups.map (·.name) =
    groupNames rs ++ if settings.help.enabled ∧ Help.group ∉ groupNames rs then [Help.group] else []
  /-- The commands of a group in the order of registration. Help is the last one of its group. -/
  commands_eq : ∀ g ∈ s.registry.groups, g.commands = (inGroup rs g.name).map (·.command) ++
    if settings.help.enabled ∧ g.name = Help.group then [Help.command] else []
  /-- There is one handler for each command, and for nothing else. -/
  keys_nodup : (s.handlers.entries.map (·.1)).Nodup
  keys_perm : (s.handlers.entries.map (·.1)).Perm
    (s.registry.entries.map fun e => (e.1, e.2.name))
  /-- It is the one that the command was registered with. -/
  handler_eq : ∀ x ∈ rs ++ Help.registrations settings,
    s.handlers.get? x.group x.command.name = some x.handler

namespace Draft

variable {d : Draft} {rs : List Registration} {settings : Settings} {sys : Settings.System}

theorem completed_eq_error (hd : d.registry = Registration.registry rs) {e : CommandError} :
    d.completed settings = .error e ↔ settings.help.enabled = true ∧
      Taken rs Help.group "help" ∧ e = .duplicateName Help.group "help" := by
  rw [← Help.refused_iff, ← call_snd_eq_error hd]
  change _ ↔ _ ∧ (d.define Help.group Help.definition Help.handler).2 = .error e
  unfold completed
  split
  · rename_i hhelp
    cases hdef : d.define Help.group Help.definition Help.handler with
    | mk d' res => cases res <;> simp [hhelp]
  · rename_i hhelp
    simp [hhelp]

/-- Settings that a program decides on are checked and not loaded. -/
theorem settle_start (settings : Settings) (file : Option String) (ks : List Call)
    (sys : Settings.System) :
    ((start (some settings) file).run ks).1.settle sys =
      match settings.check with
      | .ok () => .ok settings
      | .error u => .error (.unusable u) := by
  rw [settle_run]
  rfl

/-- Completing a draft makes the call for help and no other. -/
theorem run_helpCalls_snd {s : Service} (h : d.build sys = .ok s) :
    (d.run (helpCalls s.settings)).2 = Help.registrations s.settings := by
  by_cases hhelp : s.settings.help.enabled = true
  · obtain ⟨c, hc, hrun⟩ := run_helpCalls h hhelp
    obtain rfl := Except.ok.inj (Help.compile.symm.trans hc)
    rw [hrun, Help.registrations, if_pos hhelp]
  · rw [helpCalls, Help.registrations, if_neg hhelp, if_neg hhelp]
    rfl

/-- A service completes what its draft holds. -/
theorem completes_of_build (hd : Holds d.registry d.handlers rs) (hk : Keyed d.handlers rs)
    {s : Service} (h : d.build sys = .ok s) : s.Completes s.settings rs := by
  have hs := holds_of_build hd h
  have hkeyed := hk.run hd (helpCalls s.settings)
  obtain ⟨-, -, hhandlers⟩ := build_eq_ok h
  rw [run_helpCalls_snd h] at hs hkeyed
  rw [← hhandlers] at hkeyed
  refine ⟨rfl, ?_, fun g hg => ?_, hkeyed.keys_eq ▸ hkeyed.keys_nodup, ?_, hs.handlers⟩
  · rw [hs.registry, names_registry, Help.groupNames_registrations]
  · rw [hs.registry] at hg
    obtain ⟨n, -, rfl⟩ := List.mem_map.1 hg
    rw [← Help.inGroup_registrations, ← List.map_append, inGroup, inGroup, ← List.filter_append]
    rfl
  · have hperm := hkeyed.entries_perm.map fun e => (e.1, e.2.name)
    rw [← hs.registry, List.map_map] at hperm
    rw [hkeyed.keys_eq]
    exact hperm.symm

theorem build_eq_error_settings {e : Settings.Error} :
    d.build sys = .error (.settings e) ↔ d.settle sys = .error e := by
  unfold build buildWith
  cases d.settle sys with
  | error e' => simp
  | ok settings => cases hd : d.completed settings <;> simp [hd]

theorem build_eq_error_command {e : CommandError} :
    d.build sys = .error (.command e) ↔
      ∃ settings, d.settle sys = .ok settings ∧ d.completed settings = .error e := by
  unfold build buildWith
  cases d.settle sys with
  | error e' => simp
  | ok settings => cases hd : d.completed settings <;> simp [hd]

theorem build_isOk_iff :
    (∃ s, d.build sys = .ok s) ↔
      ∃ settings, d.settle sys = .ok settings ∧ ¬ ∃ e, d.completed settings = .error e := by
  unfold build buildWith
  cases d.settle sys with
  | error e' => simp
  | ok settings => cases hd : d.completed settings <;> simp [hd]

/-- A draft whose settings a program decides on cannot be built if these are not usable, nor
otherwise if they want help and its name is taken in its group. In all other cases it becomes a
service, which completes what was registered. -/
theorem build_start (settings : Settings) (file : Option String) (ks : List Call)
    (sys : Settings.System) :
    let d := ((start (some settings) file).run ks).1
    let rs := ((start (some settings) file).run ks).2
    (¬ settings.Usable ↔ ∃ u, d.build sys = .error (.settings (.unusable u))) ∧
      (∀ u, d.build sys = .error (.settings (.unusable u)) ↔ settings.Unfit u) ∧
      (d.build sys = .error (.command (.duplicateName Help.group "help")) ↔
        settings.Usable ∧ settings.help.enabled = true ∧ Taken rs Help.group "help") ∧
      ((∃ s, d.build sys = .ok s) ↔
        settings.Usable ∧ ¬ (settings.help.enabled = true ∧ Taken rs Help.group "help")) ∧
      ∀ s, d.build sys = .ok s → s.Completes settings rs := by
  intro d rs
  have hd : Holds d.registry d.handlers rs := holds_of_start (some settings) file ks
  have hk : Keyed d.handlers rs := by
    have h := Keyed.empty.run (d := start (some settings) file) Holds.empty ks
    rwa [List.nil_append] at h
  have hunfit : ∀ u, d.build sys = .error (.settings (.unusable u)) ↔ settings.Unfit u := by
    intro u
    rw [build_eq_error_settings, settle_start, ← Settings.check_eq_error]
    cases settings.check <;> simp
  have hsettle : ∀ settings', d.settle sys = .ok settings' ↔
      settings.Usable ∧ settings' = settings := by
    intro settings'
    rw [settle_start, ← Settings.check_eq_ok]
    cases settings.check <;> simp [eq_comm]
  refine ⟨?_, hunfit, ?_, ?_, fun s hs => ?_⟩
  · simp only [hunfit]
    exact Settings.not_usable_iff
  · rw [build_eq_error_command]
    simp only [hsettle, completed_eq_error hd.registry]
    simp
  · rw [build_isOk_iff]
    simp only [hsettle, completed_eq_error hd.registry]
    simp
  · obtain ⟨hsettled, -⟩ := build_eq_ok hs
    obtain ⟨-, hsettings⟩ := (hsettle s.settings).1 hsettled
    exact hsettings ▸ completes_of_build hd hk hs

/-- A command in the group of help that has the name of help as an alias. -/
def impostor : List Call :=
  [.define Help.group { name := "about", aliases := ["help"] } (.line fun _ => "from about")]

/-- A system without files and variables. -/
def bareSystem : Settings.System where
  disk := { current := [], lookup := fun _ => none }
  environment := []
  userDirectory := none

/-- What is wrong with the settings comes first, and without help its name is free. -/
theorem build_start_impostor :
    ((start (some {}) (some "a.toml")).run impostor).1.build bareSystem =
        .error (.command (.duplicateName Help.group "help")) ∧
      ((start (some { commands := { sigil := "! " } }) none).run impostor).1.build bareSystem =
        .error (.settings (.unusable (.blankInSigil "! "))) ∧
      ∃ s, ((start (some { help := { enabled := false } }) none).run impostor).1.build bareSystem =
          .ok s ∧
        s.Completes { help := { enabled := false } }
          ((start (some { help := { enabled := false } }) none).run impostor).2 := by
  have hsigil : CommandSettings.SigilFits {} := ⟨by decide, by decide⟩
  have husable : ∀ help, Settings.Usable { help } := fun _ => ⟨hsigil, nofun, nofun⟩
  have htaken : ∀ settings file,
      Taken ((start (some settings) file).run impostor).2 Help.group "help" := fun _ _ =>
    ⟨_, List.mem_cons_self, rfl, List.mem_cons_of_mem _ List.mem_cons_self⟩
  obtain ⟨-, -, htaken', -⟩ := build_start {} (some "a.toml") impostor bareSystem
  obtain ⟨-, hunfit, -⟩ := build_start { commands := { sigil := "! " } } none impostor bareSystem
  obtain ⟨-, -, -, hready, hcompletes⟩ :=
    build_start { help := { enabled := false } } none impostor bareSystem
  obtain ⟨s, hs⟩ := hready.2 ⟨husable _, fun h => by cases h.1⟩
  exact ⟨htaken'.2 ⟨husable _, rfl, htaken _ _⟩, (hunfit _).2 (.blankInSigil (by decide)), s, hs,
    hcompletes s hs⟩

end Draft

end ChatCommand
