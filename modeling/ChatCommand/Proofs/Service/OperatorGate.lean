import ChatCommand.Proofs.Service.Routing
import Mathlib.Data.List.Forall2

/-!
# The gate for operators

Who is no operator cannot tell how the commands that are reserved for operators are handled. Two
drafts see calls for the same commands, with handlers that answer alike unless the command is
reserved (`Call.Agree`); what they register then agrees as well (`Draft.run_agree`, from one call,
`Draft.call_agree`), and the two services give such a sender the same answers (`Answers.agree`).
-/

namespace ChatCommand

open Registration

/-- Two calls for the same command in the same group, whose handlers answer alike unless the command
is reserved for operators. -/
inductive Call.Agree : Call → Call → Prop
  | register {group : String} {c : Command} {h h' : Handler}
      (ha : c.operatorOnly = false → h'.answer = h.answer) :
      Agree (.register group c h) (.register group c h')
  | define {group : String} {d : Definition} {h h' : Handler}
      (ha : d.operatorOnly = false → h'.answer = h.answer) :
      Agree (.define group d h) (.define group d h')

theorem Call.Agree.refl (k : Call) : k.Agree k := by
  cases k with
  | register group c h => exact .register fun _ => rfl
  | define group d h => exact .define fun _ => rfl

/-- Two registrations of the same command in the same group, whose handlers answer alike unless the
command is reserved for operators. -/
structure Registration.Agree (x x' : Registration) : Prop where
  group_eq : x'.group = x.group
  command_eq : x'.command = x.command
  answer_eq : x.command.operatorOnly = false → x'.handler.answer = x.handler.answer

/-! ## Calls -/

namespace Draft

variable {d d' : Draft}

/-- Whether a command is registered does not depend on its handler or on those before it. -/
theorem register_agree (hd : d'.registry = d.registry) {group : String} {c : Command}
    {h h' : Handler} (ha : c.operatorOnly = false → h'.answer = h.answer) :
    (∃ e, d.register group c h = (d, .error e) ∧ d'.register group c h' = (d', .error e)) ∨
      ∃ f f', d.register group c h = (f, .ok c) ∧ d'.register group c h' = (f', .ok c) ∧
        f'.registry = f.registry ∧ Agree ⟨group, c, h⟩ ⟨group, c, h'⟩ := by
  unfold register
  rw [hd]
  cases hr : d.registry.register group c with
  | mk r res =>
    cases res with
    | error e =>
      obtain rfl := Registry.register_error hr
      exact .inl ⟨e, rfl, by rw [← hd]⟩
    | ok u => exact .inr ⟨_, _, rfl, rfl, rfl, rfl, rfl, ha⟩

/-- Two calls that agree both fail or both register the same command. -/
theorem call_agree (hd : d'.registry = d.registry) {k k' : Call} (hk : k.Agree k') :
    (∃ e, d.call k = (d, .error e) ∧ d'.call k' = (d', .error e)) ∨
      ∃ f f' c, d.call k = (f, .ok c) ∧ d'.call k' = (f', .ok c) ∧ f'.registry = f.registry ∧
        Agree ⟨k.group, c, k.handler⟩ ⟨k'.group, c, k'.handler⟩ := by
  cases hk with
  | register ha =>
    obtain h | ⟨f, f', h⟩ := register_agree hd ha
    · exact .inl h
    · exact .inr ⟨f, f', _, h⟩
  | @define group definition h h' ha =>
    simp only [call, define]
    cases hc : definition.compile with
    | error e => exact .inl ⟨e, rfl, rfl⟩
    | ok c =>
      obtain rfl := Definition.toDefinition_of_compile hc
      obtain h | ⟨f, f', h⟩ := register_agree hd ha
      · exact .inl h
      · exact .inr ⟨f, f', _, h⟩

/-- Histories of calls that agree leave registrations that agree. -/
theorem run_agree (hd : d'.registry = d.registry) {ks ks' : List Call}
    (hks : List.Forall₂ Call.Agree ks ks') :
    List.Forall₂ Registration.Agree (d.run ks).2 (d'.run ks').2 := by
  induction hks generalizing d d' with
  | nil => exact .nil
  | cons hk _ ih =>
    obtain ⟨e, he, he'⟩ | ⟨f, f', c, hf, hf', hr, hagree⟩ := call_agree hd hk
    · rw [run_cons_error he, run_cons_error he']
      exact ih hd
    · rw [run_cons_ok hf, run_cons_ok hf']
      exact .cons hagree (ih hr)

end Draft

/-! ## Registrations -/

namespace Registration

variable {rs rs' : List Registration}

theorem groupNames_agree (hrs : List.Forall₂ Agree rs rs') : groupNames rs' = groupNames rs := by
  have hgroups : rs'.map (·.group) = rs.map (·.group) := by
    induction hrs with
    | nil => rfl
    | cons hx _ ih => rw [List.map_cons, List.map_cons, hx.group_eq, ih]
  rw [groupNames, groupNames, hgroups]

theorem inGroup_agree (hrs : List.Forall₂ Agree rs rs') (group : String) :
    List.Forall₂ Agree (inGroup rs group) (inGroup rs' group) :=
  List.rel_filter (fun x x' hx => by simp only [hx.group_eq]) hrs

theorem ordered_agree (hrs : List.Forall₂ Agree rs rs') :
    List.Forall₂ Agree (ordered rs) (ordered rs') := by
  rw [ordered, ordered, groupNames_agree hrs]
  induction groupNames rs with
  | nil => exact .nil
  | cons group groups ih =>
    rw [List.flatMap_cons, List.flatMap_cons]
    exact List.rel_append (inGroup_agree hrs group) ih

theorem registry_agree (hrs : List.Forall₂ Agree rs rs') : registry rs' = registry rs := by
  have hcommands : ∀ {l l' : List Registration}, List.Forall₂ Agree l l' →
      l'.map (·.command) = l.map (·.command) := fun h => by
    induction h with
    | nil => rfl
    | cons hx _ ih => rw [List.map_cons, List.map_cons, hx.command_eq, ih]
  rw [registry, registry, groupNames_agree hrs]
  refine congrArg _ (List.map_congr_left fun group _ => ?_)
  rw [toGroup, toGroup, hcommands (inGroup_agree hrs group)]

/-- What agrees with a list that is split is split in the same place. -/
theorem split_agree {before after l : List Registration} {x : Registration}
    (h : List.Forall₂ Agree (before ++ x :: after) l) :
    ∃ before' x' after', l = before' ++ x' :: after' ∧ (∀ q' ∈ before', ∃ q ∈ before, q.Agree q') ∧
      x.Agree x' := by
  induction before generalizing l with
  | nil =>
    cases h with
    | cons hx _ => exact ⟨[], _, _, rfl, List.forall_mem_nil _, hx⟩
  | cons q before ih =>
    cases h with
    | cons hq h =>
      obtain ⟨before', x', after', rfl, hbefore, hx⟩ := ih h
      refine ⟨_ :: before', x', after', rfl, List.forall_mem_cons.2 ⟨?_, fun q' hq' => ?_⟩, hx⟩
      · exact ⟨q, List.mem_cons_self, hq⟩
      · obtain ⟨p, hp, hpq⟩ := hbefore q' hq'
        exact ⟨p, List.mem_cons_of_mem _ hp, hpq⟩

/-- The registration that takes a text on one side agrees with the one that does on the other. -/
theorem accepts_agree (hrs : List.Forall₂ Agree rs rs') {text : String} {x : Registration}
    {values : Values} (hx : Accepts rs text x values) :
    ∃ x', Accepts rs' text x' values ∧ Agree x x' := by
  obtain ⟨before, after, hsplit, hbefore, hvalues⟩ := hx
  obtain ⟨before', x', after', hsplit', hagree, hxx'⟩ := split_agree (hsplit ▸ ordered_agree hrs)
  refine ⟨x', ⟨before', after', hsplit', fun q' hq' => ?_, hxx'.command_eq ▸ hvalues⟩, hxx'⟩
  obtain ⟨q, hq, hqq'⟩ := hagree q' hq'
  exact hqq'.command_eq ▸ hbefore q hq

end Registration

/-- Without operator rights, registrations that agree give the same answers. -/
theorem Answers.agree {settings : Settings} {rs rs' : List Registration} {m : Message}
    {a : Except ServiceError (List Reply)} (hrs : List.Forall₂ Registration.Agree rs rs')
    (hm : m.sender ∉ settings.commands.operators) (ha : Answers settings rs m a) :
    Answers settings rs' m a := by
  have hreach : ∀ {body x values}, Accepts rs body x values →
      (x.command.operatorOnly = true → m.sender ∈ settings.commands.operators) →
        ∃ x', Accepts rs' body x' values ∧
          (x'.command.operatorOnly = true → m.sender ∈ settings.commands.operators) ∧
          x'.handler.answer (x'.invocation settings rs' m values) =
            x.handler.answer (x.invocation settings rs m values) ∧
          x'.command.name = x.command.name := by
    intro body x values hx hsender
    obtain ⟨x', hx', hagree⟩ := accepts_agree hrs hx
    have hop : x.command.operatorOnly = false := by
      rw [Bool.eq_false_iff]
      exact fun hop => hm (hsender hop)
    have hinvocation : x'.invocation settings rs' m values =
        x.invocation settings rs m values := by
      rw [invocation, invocation, hagree.group_eq, hagree.command_eq, registry_agree hrs]
    refine ⟨x', hx', hagree.command_eq ▸ hsender, ?_, by rw [hagree.command_eq]⟩
    rw [hagree.answer_eq hop, hinvocation]
  cases ha with
  | noSigil h => exact .noSigil h
  | noCommand h hnone =>
    refine .noCommand h ?_
    rw [← Registry.dispatchAtStart?_eq_none, registry_agree hrs]
    exact Registry.dispatchAtStart?_eq_none.2 hnone
  | rejected h hx hop hsender =>
    obtain ⟨x', hx', hagree⟩ := accepts_agree hrs hx
    exact .rejected h hx' (hagree.command_eq ▸ hop) hsender
  | replied h hx hsender ha =>
    obtain ⟨x', hx', hsender', hanswer, -⟩ := hreach hx hsender
    exact .replied h hx' hsender' (hanswer.trans ha)
  | failed h hx hsender ha =>
    obtain ⟨x', hx', hsender', hanswer, hname⟩ := hreach hx hsender
    exact hname ▸ .failed h hx' hsender' (hanswer.trans ha)

namespace Service

variable {settings settings' : Option Settings} {file file' : Option String} {ks ks' : List Call}
  {sys sys' : Settings.System} {s s' : Service}

/-- Of two services with the same settings, drafts that have seen calls that agree have registered
what agrees. Then no message tells the services apart whose sender is no operator. If the first
command that takes such a message is reserved, there is no answer, even if another one takes it as
well. -/
theorem handle_agree (h : ((Draft.start settings file).run ks).1.build sys = .ok s)
    (h' : ((Draft.start settings' file').run ks').1.build sys' = .ok s')
    (hsettings : s'.settings = s.settings) :
    (List.Forall₂ Call.Agree ks ks' →
      List.Forall₂ Registration.Agree ((Draft.start settings file).run ks).2
        ((Draft.start settings' file').run ks').2) ∧
    (List.Forall₂ Registration.Agree ((Draft.start settings file).run ks).2
        ((Draft.start settings' file').run ks').2 →
      ∀ m, m.sender ∉ s.settings.commands.operators → s'.handle m = s.handle m) ∧
    ∀ m, m.sender ∉ s.settings.commands.operators → ∀ body r values, m.text = s.sigil ++ body →
      Accepts ((Draft.start settings file).run (ks ++ Draft.helpCalls s.settings)).2 body r values →
      r.command.operatorOnly = true → s.handle m = .ok [] := by
  have hd := Holds.empty.run (d := Draft.start settings file) ks
  have hd' := Holds.empty.run (d := Draft.start settings' file') ks'
  rw [List.nil_append] at hd hd'
  have hs := Draft.holds_of_build hd h
  have hs' := Draft.holds_of_build hd' h'
  refine ⟨Draft.run_agree (by rfl), fun hrs m hm => ?_, fun m hm body r values hbody hr hop => ?_⟩
  · have hregistry : ((Draft.start settings' file').run ks').1.registry =
        ((Draft.start settings file).run ks).1.registry := by
      rw [hd.registry, hd'.registry, registry_agree hrs]
    have hcalls : List.Forall₂ Call.Agree (Draft.helpCalls s.settings)
        (Draft.helpCalls s.settings) := List.forall₂_same.2 fun k _ => .refl k
    have hhelp := Draft.run_agree hregistry hcalls
    rw [hsettings] at hs'
    refine (handle_iff hs').2 ?_
    rw [hsettings]
    exact ((handle_iff hs).1 rfl).agree (List.rel_append hrs hhelp) hm
  · rw [Draft.run_append] at hr
    exact handle_of_answers hs (.rejected hbody hr hop hm)

/-- Calls for a reserved command, and for another one that its alias invokes too. -/
def guarded (text : String) : List Call :=
  [.define "chat" { name := "kick", aliases := ["boot"], operatorOnly := true }
      (.line fun _ => text),
    .define "games" { name := "boot" } (.line fun _ => "from games")]

/-- Settings with one operator. -/
def guardedSettings : Settings :=
  { commands := { operators := ["op"] } }

/-- The service that the calls and these settings lead to. -/
def guardedService (text : String) : Service :=
  match ((Draft.start (some guardedSettings) none).run (guarded text)).1.buildWith
      guardedSettings with
  | .ok s => s
  | .error _ => { settings := {}, registry := {}, handlers := {} }

theorem handle_agree_guarded :
    (∀ text, ((Draft.start (some guardedSettings) none).run (guarded text)).1.build
        { disk := { current := [], lookup := fun _ => none }, environment := []
          userDirectory := none } = .ok (guardedService text)) ∧
      (∀ m, m.sender ≠ "op" →
        (guardedService "gone").handle m = (guardedService "out").handle m) ∧
      (guardedService "out").handle { sender := "ann", text := "!boot" } = .ok [] ∧
      (guardedService "out").handle { sender := "op", text := "!boot" } ≠
        (guardedService "gone").handle { sender := "op", text := "!boot" } := by
  have hbuild : ∀ text, ((Draft.start (some guardedSettings) none).run (guarded text)).1.build
      { disk := { current := [], lookup := fun _ => none }, environment := []
        userDirectory := none } = .ok (guardedService text) := fun text => rfl
  have hsettings : (guardedService "out").settings = guardedSettings := rfl
  obtain ⟨hagree, hhandle, hrejected⟩ := handle_agree (hbuild "out") (hbuild "gone") rfl
  rw [hsettings] at hhandle hrejected
  refine ⟨hbuild, fun m hm => ?_, ?_, by decide +kernel⟩
  · have hcalls : List.Forall₂ Call.Agree (guarded "out") (guarded "gone") :=
      .cons (.define nofun) (.cons (.define fun _ => rfl) .nil)
    exact hhandle (hagree hcalls) m (by simpa [guardedSettings] using hm)
  · obtain ⟨hit, hhit, hop⟩ : ∃ hit, (Registration.registry ((Draft.start (some guardedSettings)
        none).run (guarded "out" ++ Draft.helpCalls guardedSettings)).2).dispatchAtStart? "boot" =
          some hit ∧ hit.command.operatorOnly = true :=
      (Option.any_eq_true (fun hit : Hit => hit.command.operatorOnly) _).1 (by decide +kernel)
    obtain ⟨r, hr, -, hc⟩ := Registry.dispatchAtStart?_eq_some.1 hhit
    exact hrejected _ (by decide) "boot" r hit.values (by decide) hr (hc ▸ hop)

end Service

end ChatCommand
