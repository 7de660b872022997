import ChatCommand.Proofs.Command.Acceptance
import ChatCommand.Proofs.Service.Routing

/-!
# Refused calls

`Registration.Refused rs k e` says why a call is refused where `rs` is all that was registered: its
definition is at fault, or a name of its command belongs to its group. `Draft.call_eq_error_iff`
shows that a call fails for these reasons only and leaves the draft as it is, although a group is
created before its names are compared, and handlers are kept apart from commands. So a history has
the same outcome without the calls that fail (`Draft.run_accepted`).
-/

namespace ChatCommand

open Registration

/-- The command that a call is to register, or why there is none. -/
def Call.command : Call → Except CommandError Command
  | .register _ c _ => .ok c
  | .define _ definition _ => definition.compile

namespace Registration

/-- The name belongs to a command that was registered in the group. -/
def Taken (rs : List Registration) (group name : String) : Prop :=
  ∃ x ∈ rs, x.group = group ∧ name ∈ x.command.names

/-- Why a call is refused. -/
inductive Refused (rs : List Registration) : Call → CommandError → Prop
  /-- The definition is at fault. -/
  | invalid {group : String} {definition : Definition} {handler : Handler}
      {fault : DefinitionFault} (h : definition.matcher = .error fault) :
      Refused rs (.define group definition handler) (.invalid definition.name fault)
  /-- The group has a name of the command already; the first such name is reported. -/
  | taken {k : Call} {c : Command} {before after : List String} {n : String}
      (h : k.command = .ok c) (hnames : c.names = before ++ n :: after)
      (hbefore : ∀ m ∈ before, ¬ Taken rs k.group m) (hn : Taken rs k.group n) :
      Refused rs k (.duplicateName k.group n)

variable {rs : List Registration}

theorem mem_names_toGroup {group n : String} : n ∈ (toGroup rs group).names ↔ Taken rs group n := by
  rw [Group.mem_names, Taken]
  simp only [toGroup, inGroup, List.mem_map, List.mem_filter, beq_iff_eq]
  constructor
  · rintro ⟨-, ⟨x, ⟨hx, hg⟩, rfl⟩, hn⟩
    exact ⟨x, hx, hg, hn⟩
  · rintro ⟨x, hx, hg, hn⟩
    exact ⟨x.command, ⟨x, ⟨hx, hg⟩, rfl⟩, hn⟩

/-- No group is empty, since a group is there because something was registered in it. -/
theorem commands_ne_nil {g : Group} (h : g ∈ (registry rs).groups) : g.commands ≠ [] := by
  obtain ⟨group, hgroup, rfl⟩ := List.mem_map.1 h
  obtain ⟨x, hx, hg⟩ := mem_groupNames.1 hgroup
  exact List.ne_nil_of_mem (List.mem_map_of_mem (List.mem_filter.2 ⟨hx, beq_iff_eq.2 hg⟩))

end Registration

namespace Draft

variable {d d' : Draft} {rs : List Registration} {k : Call}

/-! ## One call -/

/-- A call without a command fails before anything is looked at. -/
theorem call_of_command_error {e : CommandError} (h : k.command = .error e) (d : Draft) :
    d.call k = (d, .error e) := by
  cases k with
  | register group c handler => cases h
  | define group definition handler =>
    have hcompile : definition.compile = .error e := h
    simp only [call, define, hcompile]

theorem call_of_command_ok {c : Command} (h : k.command = .ok c) (d : Draft) :
    d.call k = d.register k.group c k.handler := by
  cases k with
  | register group c' handler =>
    obtain rfl := Except.ok.inj h
    rfl
  | define group definition handler =>
    have hcompile : definition.compile = .ok c := h
    simp only [call, define, hcompile, Call.group, Call.handler]

theorem command_eq_error {e : CommandError} (h : k.command = .error e) : Refused rs k e := by
  cases k with
  | register group c handler => cases h
  | define group definition handler =>
    obtain ⟨fault, hfault, rfl⟩ := Definition.compile_eq_error.1 h
    exact .invalid hfault

/-- A registration fails exactly for the first name that the group has. -/
theorem register_snd_eq_error (hd : d.registry = Registration.registry rs) {group : String}
    {c : Command} {handler : Handler} {e : CommandError} :
    (d.register group c handler).2 = .error e ↔
      ∃ n, (toGroup rs group).taken? c = some n ∧ e = .duplicateName group n := by
  have hsnd : (d.register group c handler).2 = (d.registry.register group c).2.map fun _ => c := by
    unfold register
    split
    all_goals
      rename_i hr
      rw [hr]
      rfl
  rw [hsnd, hd, Registry.register_snd, Registry.groupOrNew_registry]
  cases (toGroup rs group).taken? c with
  | none => simp [Except.map]
  | some n => simp [Except.map, eq_comm]

/-- A call fails exactly for the reasons to refuse it. -/
theorem call_snd_eq_error (hd : d.registry = Registration.registry rs) {e : CommandError} :
    (d.call k).2 = .error e ↔ Refused rs k e := by
  constructor
  · intro h
    cases hk : k.command with
    | error e' =>
      rw [call_of_command_error hk] at h
      obtain rfl := Except.error.inj h
      exact command_eq_error hk
    | ok c =>
      rw [call_of_command_ok hk, register_snd_eq_error hd] at h
      obtain ⟨n, hn, rfl⟩ := h
      obtain ⟨before, after, hnames, hbefore, hmem⟩ := Group.taken?_eq_some.1 hn
      simp only [mem_names_toGroup] at hbefore hmem
      exact .taken hk hnames hbefore hmem
  · intro h
    cases h with
    | @invalid group definition handler fault hfault =>
      have hcompile := Definition.compile_eq_error.2 ⟨fault, hfault, rfl⟩
      rw [call_of_command_error (k := .define group definition handler) hcompile]
    | taken hk hnames hbefore hn =>
      rw [call_of_command_ok hk, register_snd_eq_error hd]
      refine ⟨_, Group.taken?_eq_some.2 ⟨_, _, hnames, ?_, mem_names_toGroup.2 hn⟩, rfl⟩
      simpa only [mem_names_toGroup] using hbefore

/-! ## Histories -/

/-- The calls of a history that do not fail. -/
def accepted (d : Draft) : List Call → List Call
  | [] => []
  | k :: ks =>
    match d.call k with
    | (d', .ok _) => k :: d'.accepted ks
    | (d', .error _) => d'.accepted ks

/-- Calls that fail leave no trace in a history. -/
theorem run_accepted (d : Draft) (ks : List Call) : d.run (d.accepted ks) = d.run ks := by
  induction ks generalizing d with
  | nil => rfl
  | cons k ks ih =>
    cases hk : d.call k with
    | mk d' res =>
      cases res with
      | ok c => simp only [accepted, hk, run_cons_ok hk, ih]
      | error e =>
        obtain rfl := call_error hk
        simp only [accepted, hk, run_cons_error hk, ih]

/-- Whatever calls a draft has seen, the next one fails exactly if there is a reason to refuse it,
and leaves the draft as it is. No group is empty, and every command has the handler that it was
registered with. -/
theorem call_eq_error_iff (settings : Option Settings) (file : Option String) (ks : List Call) :
    let d := ((Draft.start settings file).run ks).1
    let rs := ((Draft.start settings file).run ks).2
    (∀ k d' e, d.call k = (d', .error e) ↔ d' = d ∧ Refused rs k e) ∧
      (∀ g ∈ d.registry.groups, g.commands ≠ []) ∧
      ∀ x ∈ rs, d.handlers.get? x.group x.command.name = some x.handler := by
  intro d rs
  have hd : Holds d.registry d.handlers rs := holds_of_start settings file ks
  refine ⟨fun k d' e => ?_, fun g hg => ?_, hd.handlers⟩
  · rw [← call_snd_eq_error hd.registry]
    constructor
    · intro h
      exact ⟨call_error h, congrArg Prod.snd h⟩
    · rintro ⟨rfl, h⟩
      have hcall : d.call k = ((d.call k).1, .error e) := Prod.ext rfl h
      rw [hcall, call_error hcall]
  · exact commands_ne_nil (hd.registry ▸ hg)

/-- A new name does not help where aliases collide. -/
example :
    (((Draft.start none none).run Service.visits).1.call
      (.define "chat" { name := "wave", aliases := ["hey", "hi"] } (.line fun _ => ""))).2 =
        .error (.duplicateName "chat" "hey") :=
  rfl

end Draft

end ChatCommand
