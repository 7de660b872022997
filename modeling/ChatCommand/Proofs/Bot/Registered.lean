import ChatCommand.Bot.Commands
import ChatCommand.Proofs.Service.Building

/-!
# Services of the bot

The bot registers its commands before it knows its settings, and no call that registers one depends
on them (`Draft.run_configured`). So it is enough to make the calls once, without settings, to see
that none fails. A service of the bot then has all commands, each with its handler, and the help
command if the settings want it (`Bot.exists_registrations`); and with settings that are valid there
is always a service (`Bot.exists_service`).
-/

namespace ChatCommand

open Registration

namespace Draft

/-- The draft with other settings, or another file to load them from. -/
def configured (d : Draft) (given : Option Settings) (file : Option String) : Draft :=
  { d with settings := given, settingsFile := file }

theorem call_configured (d : Draft) (given : Option Settings) (file : Option String) (k : Call) :
    (d.configured given file).call k = ((d.call k).1.configured given file, (d.call k).2) := by
  have hregister : ∀ group c h, (d.configured given file).register group c h =
      ((d.register group c h).1.configured given file, (d.register group c h).2) := by
    intro group c h
    have hr : (d.configured given file).registry = d.registry := rfl
    rw [register, register, hr]
    rcases d.registry.register group c with ⟨r, e | ⟨⟩⟩ <;> rfl
  cases k with
  | register group c h => exact hregister group c h
  | define group definition h =>
    simp only [call, define]
    split
    · exact hregister group _ h
    · rfl

/-- Calls keep the settings, and do not depend on them. -/
theorem run_configured (d : Draft) (given : Option Settings) (file : Option String)
    (ks : List Call) :
    (d.configured given file).run ks = ((d.run ks).1.configured given file, (d.run ks).2) := by
  induction ks generalizing d with
  | nil => rfl
  | cons k ks ih =>
    have hcall := call_configured d given file k
    cases hk : d.call k with
    | mk d' res =>
      rw [hk] at hcall
      cases res with
      | ok c => rw [run_cons_ok hcall, run_cons_ok hk, ih]
      | error e => rw [run_cons_error hcall, run_cons_error hk, ih]

/-- Definitions that are registered one after another are so many calls. -/
theorem foldl_define (l : List (String × Definition × Handler)) (d : Draft) :
    l.foldl (fun d (group, definition, handler) => (d.define group definition handler).1) d =
      (d.run (l.map fun (group, definition, handler) => .define group definition handler)).1 := by
  induction l generalizing d with
  | nil => rfl
  | cons x l ih =>
    obtain ⟨group, definition, handler⟩ := x
    rw [List.foldl_cons, List.map_cons, ih]
    dsimp only
    cases hk : d.call (.define group definition handler) with
    | mk d' res =>
      have hdefine : (d.define group definition handler).1 = d' := congrArg Prod.fst hk
      cases res with
      | ok c => rw [run_cons_ok hk, hdefine]
      | error e => rw [run_cons_error hk, hdefine, call_error hk]

end Draft

namespace Registration

/-- What was registered: a definition, with its group and its handler. -/
def entry (r : Registration) : String × Definition × Handler :=
  (r.group, r.command.toDefinition, r.handler)

end Registration

namespace Bot

/-- The calls that register the commands. -/
def calls : List Call :=
  commands.map fun (group, definition, handler) => .define group definition handler

/-- The help command, as it is registered. -/
def helpEntry : String × Definition × Handler :=
  (Help.group, Help.definition, Help.handler)

/-- The commands of the bot, and the help command if the settings want it. -/
def allCommands (settings : Settings) : List (String × Definition × Handler) :=
  commands ++ if settings.help.enabled then [helpEntry] else []

variable {given : Option Settings} {file : Option String} {sys : Settings.System}
  {settings : Settings} {s : Service}

theorem draft_configured (given : Option Settings) (file : Option String) :
    draft.configured given file = ((Draft.start given file).run calls).1 := by
  have hstart : Draft.start given file = ({} : Draft).configured given file := rfl
  rw [hstart, Draft.run_configured, draft, Draft.foldl_define]
  rfl

/-- No call of the bot fails. -/
theorem entries_calls (given : Option Settings) (file : Option String) :
    ((Draft.start given file).run calls).2.map entry = commands := by
  have hstart : Draft.start given file = ({} : Draft).configured given file := rfl
  -- Without settings nothing is left to assume, and the calls can be made.
  have hclosed : (({} : Draft).run calls).2.map entry = commands := rfl
  rw [hstart, Draft.run_configured, hclosed]

/-- A service of the bot has all its commands, and no others. -/
theorem exists_registrations (h : (draft.configured given file).build sys = .ok s) :
    ∃ rs, Holds s.registry s.handlers rs ∧ rs.map entry = allCommands s.settings := by
  rw [draft_configured] at h
  refine ⟨_, Draft.holds_of_built h, ?_⟩
  rw [Draft.run_append, List.map_append, entries_calls, Draft.run_helpCalls_snd h, allCommands,
    Help.registrations]
  split
  · rw [List.map_singleton, entry, Help.toDefinition_command, helpEntry]
  · rfl

/-- With every valid configuration there is a service of the bot, whether the configuration is given
or loaded: no command of the bot is in the group of the help command. -/
theorem exists_service (h : (draft.configured given file).settle sys = .ok settings) :
    ∃ s, (draft.configured given file).build sys = .ok s ∧ s.settings = settings := by
  have hnew : ∀ e ∈ commands, e.1 ≠ Help.group := by decide
  have hcompleted : ¬ ∃ e, (draft.configured given file).completed settings = .error e := by
    rintro ⟨e, he⟩
    rw [draft_configured, Draft.completed_eq_error (Draft.holds_of_start given file calls).registry]
      at he
    obtain ⟨-, ⟨r, hr, hgroup, -⟩, -⟩ := he
    have hentry : r.entry ∈ commands := entries_calls given file ▸ List.mem_map_of_mem hr
    exact hnew _ hentry hgroup
  obtain ⟨s, hs⟩ := Draft.build_isOk_iff.2 ⟨settings, h, hcompleted⟩
  have hsettled := (Draft.completed_of_build hs).1
  exact ⟨s, hs, Except.ok.inj (hsettled.symm.trans h)⟩

end Bot

end ChatCommand
