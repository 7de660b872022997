import ChatCommand.Proofs.Command.Recognition
import ChatCommand.Proofs.Service.HelpPrecedence

/-!
# The answers of the built-in help command

A text that is dispatched to the built-in help command is the word `help` alone or with one more
word behind it (`Help.Asks`). `Help.Says` is what there is to say in either case, line by line, and
`Help.Delivers` the way to the author or the channel. `Service.handle_help` shows that a service
with help gives these answers to every message that gets as far as its help command.
-/

namespace ChatCommand

open Registration

/-! ## What help is asked for, and what it says -/

namespace Help

/-- The text asks for help, with all commands or with those of one name. -/
inductive Asks : String → Option String → Prop
  | all : Asks "help" none
  | about {b : Char} {name : String} (hb : Text.isBlank b = true) (hne : name ≠ "")
      (hname : name.toList.any Text.isBlank = false) :
      Asks ("help" ++ String.singleton b ++ name) (some name)

/-- The line of a command in the listing: its usage and its summary. -/
def entry (sigil : String) (c : Command) : String :=
  c.usage sigil ++ c.summary.elim "" (" - " ++ ·)

/-- The lines of an answer. -/
inductive Says (commands : List Command) (sigil : String) : Option String → List String → Prop
  | all : Says commands sigil none (commands.map (entry sigil))
  | unknown {name : String} (h : ∀ c ∈ commands, c.name ≠ name) :
      Says commands sigil (some name) ["help: Unknown command " ++ Text.quoted name]
  | about {name : String} {c : Command} {cs : List Command}
      (h : commands.filter (·.name == name) = c :: cs) :
      Says commands sigil (some name)
        ((c :: cs).map (·.usage sigil) ++ "" :: c.description.toList)

/-- The way that the settings want an answer to go. -/
structure Delivers (response : HelpResponse) (m : Message) (r : Reply) : Prop where
  notice : response = .notice → r.delivery = .notice ∧ r.recipient = m.sender
  send : response = .send → r.delivery = .query ∧ r.recipient = m.sender
  reply : response = .reply → r.delivery = .origin ∧
    (∀ channel, m.channel = some channel → r.recipient = channel) ∧
    (m.channel = none → r.recipient = m.sender)

/-- A text asks for one thing only. -/
theorem Asks.unique {text : String} {request request' : Option String} (h : Asks text request)
    (h' : Asks text request') : request = request' := by
  have hne : ∀ (b : Char) (name : String), "help" ≠ "help" ++ String.singleton b ++ name := by
    intro b name he
    have hlength := congrArg String.length he
    simp only [String.length_append, String.length_singleton] at hlength
    omega
  generalize htext : text = text' at h'
  cases h with
  | all =>
    cases h' with
    | all => rfl
    | about => exact absurd htext (hne _ _)
  | about =>
    cases h' with
    | all => exact absurd htext.symm (hne _ _)
    | about =>
      have hchars := congrArg String.toList htext
      simp only [String.toList_append, String.toList_singleton, List.append_assoc,
        List.append_cancel_left_eq, List.singleton_append, List.cons.injEq] at hchars
      rw [String.toList_inj.1 hchars.2]

/-- What the help command takes for an invocation asks for what it finds. -/
theorem asks_of_captures {c : Command} (hc : c.toDefinition = definition) {text : String}
    {values : Values} (h : c.capturesAtStart? text = some values) :
    Asks text (values.get? 0) := by
  have hcomment : ∀ a ∈ c.arguments, a.format.leavesComment = false := by
    rw [hc]
    decide
  obtain ⟨name, vs, ⟨hname, tail, htext, hspells⟩, rfl⟩ :=
    Command.capturesAtStart?_parses hcomment h
  rw [hc] at hname hspells ⊢
  obtain rfl : name = "help" := by simpa [definition, Definition.names] using hname
  cases hspells with
  | absent _ hrest =>
    cases hrest
    rw [List.append_nil, String.toList_inj] at htext
    exact htext ▸ .all
  | @present _ _ b v _ _ hb hv hrest =>
    cases hrest
    obtain ⟨hne, hword⟩ : v.toList ≠ [] ∧ ∀ c ∈ v.toList, Text.isBlank c = false := hv
    have hwhole : text = "help" ++ String.singleton b ++ v := by
      rw [← String.toList_inj, htext]
      simp [String.toList_append]
    rw [hwhole]
    refine .about hb (fun he => hne (he ▸ rfl)) (List.any_eq_false.2 fun c hc => ?_)
    simp [hword c hc]

/-- The lines of the help command say what was asked for. -/
theorem says_lines (i : Invocation) :
    Says i.registry.commands i.sigil (i.values.get? 0) (lines i) := by
  unfold lines
  cases i.values.get? 0 with
  | none =>
    have hlisting : listing i.registry.commands i.sigil =
        i.registry.commands.map (entry i.sigil) := by
      refine List.map_congr_left fun c _ => ?_
      rw [entry]
      cases c.summary with
      | none => exact (String.append_empty ..).symm
      | some summary => exact String.append_assoc ..
    rw [hlisting]
    exact .all
  | some name =>
    have hlookup : i.registry.lookup name = i.registry.commands.filter (·.name == name) := rfl
    simp only [detail]
    split
    · rename_i hnone
      rw [hlookup, List.filter_eq_nil_iff] at hnone
      exact .unknown fun c hc he => hnone c hc (beq_iff_eq.2 he)
    · rename_i c cs hsome
      rw [List.append_assoc]
      exact .about (hlookup ▸ hsome)

theorem delivers_respond (i : Invocation) (text : String) :
    Delivers i.settings.help.response i.message (i.respond text) := by
  unfold Invocation.respond
  cases i.settings.help.response with
  | notice => exact ⟨fun _ => ⟨rfl, rfl⟩, nofun, nofun⟩
  | send => exact ⟨nofun, fun _ => ⟨rfl, rfl⟩, nofun⟩
  | reply =>
    refine ⟨nofun, nofun, fun _ => ⟨rfl, fun channel h => ?_, fun h => ?_⟩⟩
    · simp [Invocation.reply, Reply.toOrigin, Message.origin, h]
    · simp [Invocation.reply, Reply.toOrigin, Message.origin, h]

theorem text_respond (i : Invocation) (text : String) : (i.respond text).text = text := by
  unfold Invocation.respond
  cases i.settings.help.response <;> rfl

end Help

/-! ## The help command of a service -/

namespace Registration

/-- The commands of a registry, in the order in which texts are dispatched to them. -/
theorem commands_registry (rs : List Registration) :
    (registry rs).commands = (ordered rs).map (·.command) := by
  rw [Registry.commands, registry, ordered, List.flatMap_map, List.map_flatMap]
  rfl

/-- A command of a group has one handler, however it is come by. -/
theorem Holds.handler_eq {r : Registry} {hs : Handlers} {rs : List Registration}
    (h : Holds r hs rs) {x y : Registration} (hx : x ∈ rs) (hy : y ∈ rs)
    (hgroup : x.group = y.group) (hname : x.command.name = y.command.name) :
    x.handler = y.handler := by
  have hfound := h.handlers x hx
  rw [hgroup, hname, h.handlers y hy] at hfound
  exact (Option.some.inj hfound).symm

end Registration

/-- The last call of a draft that becomes a service with help registers the help command. -/
theorem Draft.run_helpCalls {d : Draft} {sys : Settings.System} {s : Service}
    (h : d.build sys = .ok s) (hhelp : s.settings.help.enabled = true) :
    ∃ c, Help.definition.compile = .ok c ∧
      (d.run (helpCalls s.settings)).2 = [⟨Help.group, c, Help.handler⟩] := by
  obtain ⟨-, d', hcompleted, -⟩ := completed_of_build h
  rw [completed, if_pos hhelp] at hcompleted
  split at hcompleted
  · rename_i e c hc
    have hcall : d.call (.define Help.group Help.definition Help.handler) = (e, .ok c) := hc
    rw [helpCalls, if_pos hhelp, run_cons_ok hcall]
    exact ⟨c, (define_eq_ok hc).1, rfl⟩
  · cases hcompleted

namespace Service

variable {settings : Option Settings} {file : Option String} {ks : List Call}
  {sys : Settings.System} {s : Service}

/-- The answer to a message that gets as far as the help command. -/
theorem handle_of_isHelp {rs : List Registration} (hs : Holds s.registry s.handlers rs)
    {c : Command} (hx : ⟨Help.group, c, Help.handler⟩ ∈ rs) (hc : c.toDefinition = Help.definition)
    {m : Message} {body : String} (hbody : m.text = s.sigil ++ body) {r : Registration}
    {values : Values} (hr : Accepts rs body r values) (hgroup : r.group = Help.group)
    (hdefinition : r.command.toDefinition = Help.definition) :
    ∃ replies, s.handle m = .ok replies ∧
      Help.Says s.registry.commands s.sigil (values.get? 0) (replies.map (·.text)) ∧
      ∀ r ∈ replies, Help.Delivers s.settings.help.response m r := by
  have hhandler : r.handler = Help.handler := by
    refine hs.handler_eq hr.mem hx hgroup ?_
    rw [hdefinition, hc]
  have hopen : r.command.operatorOnly = false := by
    rw [hdefinition]
    rfl
  have hhandle := handle_of_accepts hs hbody hr (by simp [hopen])
  rw [hhandler] at hhandle
  refine ⟨_, hhandle, ?_, fun q hq => ?_⟩
  · have htexts : ((Help.lines (r.invocation s.settings rs m values)).map
        (r.invocation s.settings rs m values).respond).map (·.text) =
          Help.lines (r.invocation s.settings rs m values) := by
      rw [List.map_map]
      exact (List.map_congr_left fun text _ => Help.text_respond _ text).trans (List.map_id _)
    rw [htexts, hs.registry]
    exact Help.says_lines (r.invocation s.settings rs m values)
  · obtain ⟨text, -, rfl⟩ := List.mem_map.1 hq
    exact Help.delivers_respond (r.invocation s.settings rs m values) text

/-- A service with help has the commands that calls have registered, and the help command. A text
that is dispatched to the help command is a request for help, and the service answers with what
there is to say about it, the way that its settings want. -/
theorem handle_help (h : ((Draft.start settings file).run ks).1.build sys = .ok s)
    (hhelp : s.settings.help.enabled = true) :
    s.registry.commands =
      (ordered ((Draft.start settings file).run (ks ++ Draft.helpCalls s.settings)).2).map
        (·.command) ∧
    (∃ c ∈ s.registry.commands, c.toDefinition = Help.definition) ∧
    ∀ m body hit, m.text = s.sigil ++ body → s.registry.dispatchAtStart? body = some hit →
      hit.IsHelp →
        (∃ request, Help.Asks body request) ∧
        ∀ request, Help.Asks body request → ∃ replies, s.handle m = .ok replies ∧
          Help.Says s.registry.commands s.sigil request (replies.map (·.text)) ∧
          ∀ r ∈ replies, Help.Delivers s.settings.help.response m r := by
  have hs := Draft.holds_of_built h
  obtain ⟨c, hcompile, hlast⟩ := Draft.run_helpCalls h hhelp
  have hc := Definition.toDefinition_of_compile hcompile
  have hx : ⟨Help.group, c, Help.handler⟩ ∈
      ((Draft.start settings file).run (ks ++ Draft.helpCalls s.settings)).2 := by
    rw [Draft.run_append]
    exact List.mem_append_right _ (hlast ▸ List.mem_singleton_self _)
  generalize ((Draft.start settings file).run (ks ++ Draft.helpCalls s.settings)).2 = rs
    at hs hx ⊢
  have hcommands : s.registry.commands = (ordered rs).map (·.command) := by
    rw [hs.registry, commands_registry]
  refine ⟨hcommands, ⟨c, ?_, hc⟩, fun m body hit hbody hhit his => ?_⟩
  · rw [hcommands]
    exact List.mem_map_of_mem (mem_ordered.2 hx)
  · rw [hs.registry, Registry.dispatchAtStart?_eq_some] at hhit
    obtain ⟨r, hr, hgroup, hcommand⟩ := hhit
    have hdefinition : r.command.toDefinition = Help.definition := hcommand ▸ his.2
    have hasks : Help.Asks body (hit.values.get? 0) := by
      obtain ⟨-, -, -, -, hvalues⟩ := hr
      exact Help.asks_of_captures hdefinition hvalues
    refine ⟨⟨_, hasks⟩, fun request hrequest => ?_⟩
    rw [hrequest.unique hasks]
    exact handle_of_isHelp hs hx hc hbody hr (hgroup ▸ his.1) hdefinition

/-- Two commands of one name, the first of which has an alias. -/
def grants : List Call :=
  [.define "admin" { name := "grant", aliases := ["g"]
                     arguments := [{ name := "name", format := .type .string }]
                     summary := some "Grants access", description := some "Grants a level" }
      (.line fun _ => "granted"),
    .define "legacy" { name := "grant", description := some "Grants all" }
      (.line fun _ => "granted")]

theorem handle_help_grants :
    ((Draft.start (some {}) none).run grants).1.build
        { disk := { current := [], lookup := fun _ => none }, environment := []
          userDirectory := none } = .ok (helpful grants) ∧
      (helpful grants).settings.help.enabled = true ∧
      (∃ hit, (helpful grants).registry.dispatchAtStart? "help grant" = some hit ∧ hit.IsHelp) ∧
      ∃ replies, (helpful grants).handle
          { sender := "ann", channel := some "#wall", text := "!help grant" } = .ok replies ∧
        Help.Says (helpful grants).registry.commands "!" (some "grant") (replies.map (·.text)) ∧
        ∀ r ∈ replies, r.delivery = .origin ∧ r.recipient = "#wall" := by
  have hbuild : ((Draft.start (some {}) none).run grants).1.build
      { disk := { current := [], lookup := fun _ => none }, environment := []
        userDirectory := none } = .ok (helpful grants) := rfl
  have hroute : ((helpful grants).registry.dispatchAtStart? "help grant").any
      (fun hit => decide hit.IsHelp) = true := by
    decide +kernel
  obtain ⟨hit, hhit, his⟩ : ∃ hit,
      (helpful grants).registry.dispatchAtStart? "help grant" = some hit ∧ hit.IsHelp := by
    simpa using (Option.any_eq_true _ _).1 hroute
  have htext : "help" ++ String.singleton ' ' ++ "grant" = "help grant" := by decide
  have hasks : Help.Asks "help grant" (some "grant") :=
    htext ▸ .about (by decide) (by decide) (by decide)
  obtain ⟨-, -, hanswers⟩ := handle_help hbuild rfl
  obtain ⟨replies, hreplies, hsays, hdelivers⟩ := (hanswers
    { sender := "ann", channel := some "#wall", text := "!help grant" } "help grant" hit
    (by decide) hhit his).2 _ hasks
  refine ⟨hbuild, rfl, ⟨hit, hhit, his⟩, replies, hreplies, hsays, fun r hr => ?_⟩
  obtain ⟨hdelivery, hchannel, -⟩ := (hdelivers r hr).reply rfl
  exact ⟨hdelivery, hchannel "#wall" rfl⟩

/-- An alias is not a name to ask help for. -/
example :
    ((helpful grants).handle { sender := "ann", text := "!help g" }).toOption =
      some [{ delivery := .origin, recipient := "ann"
              text := "help: Unknown command \"g\"" }] := by
  decide +kernel

end Service

end ChatCommand
