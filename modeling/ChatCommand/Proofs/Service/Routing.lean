import ChatCommand.Proofs.Registry.Dispatch
import ChatCommand.Proofs.Service.Registration
import Mathlib.Data.List.Basic

/-!
# The answers of a service

`Answers settings rs m a` says which answer a message gets where `rs` is all that was registered. It
knows no table of handlers, only calls and their order. `Service.handle_iff_answers` shows that a
service gives these answers and no others, whatever calls its draft has seen.
-/

namespace ChatCommand

open Registration

/-- `r` is the first registration whose command takes the text as an invocation. -/
def Accepts (rs : List Registration) (text : String) (r : Registration) (values : Values) : Prop :=
  ∃ before after, ordered rs = before ++ r :: after ∧
    (∀ q ∈ before, q.command.capturesAtStart? text = none) ∧
    r.command.capturesAtStart? text = some values

/-- The invocation that the handler of a registration gets to see. -/
def Registration.invocation (settings : Settings) (rs : List Registration) (m : Message)
    (r : Registration) (values : Values) : Invocation where
  message := m
  hit := ⟨r.group, r.command, values⟩
  registry := registry rs
  settings := settings

section

variable (settings : Settings) (rs : List Registration) (m : Message)

/-- The answer to a message: none without the sigil, without a command, or where the command is not
for the sender, and what the handler of the call says otherwise. -/
inductive Answers : Except ServiceError (List Reply) → Prop
  | noSigil (h : ∀ body, m.text ≠ settings.commands.sigil ++ body) : Answers (.ok [])
  | noCommand {body : String} (h : m.text = settings.commands.sigil ++ body)
      (hnone : ∀ r ∈ rs, r.command.capturesAtStart? body = none) : Answers (.ok [])
  | rejected {body : String} {r : Registration} {values : Values}
      (h : m.text = settings.commands.sigil ++ body) (hr : Accepts rs body r values)
      (hop : r.command.operatorOnly = true) (hsender : m.sender ∉ settings.commands.operators) :
      Answers (.ok [])
  | replied {body : String} {r : Registration} {values : Values} {replies : List Reply}
      (h : m.text = settings.commands.sigil ++ body) (hr : Accepts rs body r values)
      (hsender : r.command.operatorOnly = true → m.sender ∈ settings.commands.operators)
      (ha : r.handler.answer (r.invocation settings rs m values) = .ok replies) :
      Answers (.ok replies)
  | failed {body : String} {r : Registration} {values : Values} {reason : String}
      (h : m.text = settings.commands.sigil ++ body) (hr : Accepts rs body r values)
      (hsender : r.command.operatorOnly = true → m.sender ∈ settings.commands.operators)
      (ha : r.handler.answer (r.invocation settings rs m values) = .error reason) :
      Answers (.error (.handlerFailed r.command.name reason))

end

/-! ## Dispatch -/

namespace Registry

variable {rs : List Registration}

/-- Texts are offered to the commands in the order of the registrations. -/
theorem entries_registry (rs : List Registration) :
    (registry rs).entries = (ordered rs).map fun r => (r.group, r.command) := by
  rw [entries, registry, ordered, List.flatMap_map, List.map_flatMap]
  refine List.flatMap_congr fun n _ => ?_
  rw [toGroup, List.map_map]
  refine List.map_congr_left fun r hr => ?_
  have hgroup : r.group = n := beq_iff_eq.1 (List.mem_filter.1 hr).2
  rw [Function.comp_apply, hgroup]

/-- The first hit in a registry is that of the first registration. -/
theorem firstHit?_registry (rs : List Registration) (captures : Command → Option Values) :
    (registry rs).firstHit? captures =
      (ordered rs).findSome? fun r =>
        (captures r.command).map fun v => ⟨r.group, r.command, v⟩ := by
  rw [firstHit?_eq_entries, entries_registry, List.findSome?_map]
  rfl

theorem dispatchAtStart?_eq_none {text : String} :
    (registry rs).dispatchAtStart? text = none ↔
      ∀ r ∈ rs, r.command.capturesAtStart? text = none := by
  rw [dispatchAtStart?, firstHit?_registry, List.findSome?_eq_none_iff]
  simp only [mem_ordered, Option.map_eq_none_iff]

theorem dispatchAtStart?_eq_some {text : String} {hit : Hit} :
    (registry rs).dispatchAtStart? text = some hit ↔
      ∃ r, Accepts rs text r hit.values ∧ hit.group = r.group ∧ hit.command = r.command := by
  rw [dispatchAtStart?, firstHit?_registry, List.findSome?_eq_some_iff]
  simp only [Option.map_eq_none_iff]
  constructor
  · rintro ⟨before, r, after, hrs, hr, hbefore⟩
    obtain ⟨values, hvalues, rfl⟩ := Option.map_eq_some_iff.1 hr
    exact ⟨r, ⟨before, after, hrs, hbefore, hvalues⟩, rfl, rfl⟩
  · rintro ⟨r, ⟨before, after, hrs, hbefore, hvalues⟩, hgroup, hcommand⟩
    refine ⟨before, r, after, hrs, ?_, hbefore⟩
    rw [hvalues, Option.map_some, ← hgroup, ← hcommand]

end Registry

theorem Accepts.mem {rs : List Registration} {text : String} {r : Registration} {values : Values}
    (h : Accepts rs text r values) : r ∈ rs := by
  obtain ⟨before, after, hrs, -⟩ := h
  exact mem_ordered.1 (hrs ▸ by simp)

/-! ## Routing -/

namespace Service

theorem body?_eq_some {s : Service} {text body : String} :
    s.body? text = some body ↔ text = s.sigil ++ body := by
  unfold body?
  split
  · rename_i hpre
    obtain ⟨rest, hrest⟩ := List.isPrefixOf_iff_prefix.1 hpre
    rw [← hrest, List.drop_left, Option.some.injEq, ← String.toList_inj, ← String.toList_inj,
      String.toList_append, ← hrest, List.append_cancel_left_eq, String.toList_ofList]
  · rename_i hpre
    refine ⟨(nomatch ·), fun h => (hpre ?_).elim⟩
    rw [h, String.toList_append]
    exact List.isPrefixOf_iff_prefix.2 (List.prefix_append _ _)

theorem body?_eq_none {s : Service} {text : String} :
    s.body? text = none ↔ ∀ body, text ≠ s.sigil ++ body := by
  rw [Option.eq_none_iff_forall_ne_some]
  exact forall_congr' fun body => not_congr body?_eq_some

variable {s : Service} {rs : List Registration} {m : Message} {a : Except ServiceError (List Reply)}

theorem dispatch_of_accepts (hs : Holds s.registry s.handlers rs) {body : String}
    {r : Registration} {values : Values} (hr : Accepts rs body r values) :
    s.registry.dispatchAtStart? body = some ⟨r.group, r.command, values⟩ := by
  rw [hs.registry]
  exact Registry.dispatchAtStart?_eq_some.2 ⟨r, hr, rfl, rfl⟩

/-- A message that reaches a command that the sender may invoke is answered by its handler. -/
theorem handle_of_accepts (hs : Holds s.registry s.handlers rs) {body : String} {r : Registration}
    {values : Values} (hbody : m.text = s.sigil ++ body) (hr : Accepts rs body r values)
    (hsender : r.command.operatorOnly = true → m.sender ∈ s.settings.commands.operators) :
    s.handle m =
      match r.handler.answer (r.invocation s.settings rs m values) with
      | .ok replies => .ok replies
      | .error reason => .error (.handlerFailed r.command.name reason) := by
  have hgate : ¬ (r.command.operatorOnly && !s.isOperator m.sender) = true := by
    simpa [isOperator] using hsender
  simp only [handle, route, body?_eq_some.2 hbody, dispatch_of_accepts hs hr]
  rw [if_neg hgate]
  simp only [hs.handlers r hr.mem, Routing.result, hs.registry]
  rfl

theorem handle_of_answers (hs : Holds s.registry s.handlers rs) (h : Answers s.settings rs m a) :
    s.handle m = a := by
  cases h with
  | noSigil h =>
    rw [handle, route, body?_eq_none.2 h]
    rfl
  | noCommand h hnone =>
    have hmiss := hs.registry ▸ Registry.dispatchAtStart?_eq_none.2 hnone
    simp only [handle, route, body?_eq_some.2 h, hmiss]
    rfl
  | @rejected body r values h hr hop hsender =>
    have hgate : (r.command.operatorOnly && !s.isOperator m.sender) = true := by
      simpa [isOperator, hop] using hsender
    simp only [handle, route, body?_eq_some.2 h, dispatch_of_accepts hs hr]
    rw [if_pos hgate]
    rfl
  | replied h hr hsender ha => rw [handle_of_accepts hs h hr hsender, ha]
  | failed h hr hsender ha => rw [handle_of_accepts hs h hr hsender, ha]

/-- There is an answer to every message. -/
theorem exists_answers (settings : Settings) (rs : List Registration) (m : Message) :
    ∃ a, Answers settings rs m a := by
  by_cases hsigil : ∀ body, m.text ≠ settings.commands.sigil ++ body
  · exact ⟨_, .noSigil hsigil⟩
  simp only [not_forall, not_not] at hsigil
  obtain ⟨body, hbody⟩ := hsigil
  cases hhit : (Registration.registry rs).dispatchAtStart? body with
  | none => exact ⟨_, .noCommand hbody (Registry.dispatchAtStart?_eq_none.1 hhit)⟩
  | some hit =>
    obtain ⟨r, hr, -, -⟩ := Registry.dispatchAtStart?_eq_some.1 hhit
    by_cases hsender : r.command.operatorOnly = true → m.sender ∈ settings.commands.operators
    · cases ha : r.handler.answer (r.invocation settings rs m hit.values) with
      | ok replies => exact ⟨_, .replied hbody hr hsender ha⟩
      | error reason => exact ⟨_, .failed hbody hr hsender ha⟩
    · obtain ⟨hop, hno⟩ := Classical.not_imp.1 hsender
      exact ⟨_, .rejected hbody hr hop hno⟩

theorem handle_iff (hs : Holds s.registry s.handlers rs) :
    s.handle m = a ↔ Answers s.settings rs m a := by
  refine ⟨fun h => ?_, handle_of_answers hs⟩
  obtain ⟨b, hb⟩ := exists_answers s.settings rs m
  rwa [← h, handle_of_answers hs hb]

end Service

/-! ## Services of drafts -/

namespace Draft

/-- The calls that come last in a history: the built-in help command, if the settings want it. -/
def helpCalls (settings : Settings) : List Call :=
  if settings.help.enabled then [.define Help.group Help.definition Help.handler] else []

theorem completed_eq_run {d d' : Draft} {settings : Settings}
    (h : d.completed settings = .ok d') : d' = (d.run (helpCalls settings)).1 := by
  unfold completed at h
  rw [helpCalls]
  split at h
  · rename_i hhelp
    rw [if_pos hhelp, run]
    split at h
    · rename_i e c hc
      obtain rfl := Except.ok.inj h
      have hcall : d.call (.define Help.group Help.definition Help.handler) = (e, .ok c) := hc
      rw [hcall]
      rfl
    · cases h
  · rename_i hhelp
    rw [if_neg hhelp]
    exact (Except.ok.inj h).symm

/-- Calls do not touch the settings. -/
theorem settle_run (d : Draft) (ks : List Call) (sys : Settings.System) :
    (d.run ks).1.settle sys = d.settle sys := by
  induction ks generalizing d with
  | nil => rfl
  | cons k ks ih =>
    cases hk : d.call k with
    | mk d' res =>
      cases res with
      | ok c =>
        rw [run_cons_ok hk]
        obtain ⟨r, -, -, rfl⟩ := register_eq_ok (call_ok hk)
        exact ih _
      | error e =>
        rw [run_cons_error hk]
        exact ih d

/-- A service is made of a draft that has been completed. -/
theorem completed_of_build {d : Draft} {sys : Settings.System} {s : Service}
    (h : d.build sys = .ok s) :
    d.settle sys = .ok s.settings ∧ ∃ d', d.completed s.settings = .ok d' ∧
      s.registry = d'.registry ∧ s.handlers = d'.handlers := by
  unfold build at h
  split at h
  · rename_i hsettle
    simp only [buildWith] at h
    split at h
    · rename_i hd
      obtain rfl := Except.ok.inj h
      exact ⟨hsettle, _, hd, rfl, rfl⟩
    · cases h
  · cases h

theorem build_eq_ok {d : Draft} {sys : Settings.System} {s : Service} (h : d.build sys = .ok s) :
    d.settle sys = .ok s.settings ∧
      s.registry = (d.run (helpCalls s.settings)).1.registry ∧
      s.handlers = (d.run (helpCalls s.settings)).1.handlers := by
  obtain ⟨hsettle, d', hd, hregistry, hhandlers⟩ := completed_of_build h
  obtain rfl := completed_eq_run hd
  exact ⟨hsettle, hregistry, hhandlers⟩

/-- Building a service adds no registration but that of the help command. -/
theorem holds_of_build {d : Draft} {rs : List Registration} (hd : Holds d.registry d.handlers rs)
    {sys : Settings.System} {s : Service} (h : d.build sys = .ok s) :
    Holds s.registry s.handlers (rs ++ (d.run (helpCalls s.settings)).2) := by
  obtain ⟨-, hregistry, hhandlers⟩ := build_eq_ok h
  rw [hregistry, hhandlers]
  exact hd.run (helpCalls s.settings)

/-- A draft before the first call, with the settings it was given or the file to load them from. -/
def start (settings : Option Settings) (file : Option String) : Draft where
  settings := settings
  settingsFile := file

/-- A draft holds what its calls have registered. -/
theorem holds_of_start (settings : Option Settings) (file : Option String) (ks : List Call) :
    Holds ((start settings file).run ks).1.registry ((start settings file).run ks).1.handlers
      ((start settings file).run ks).2 := by
  have h := Holds.empty.run (d := start settings file) ks
  rwa [List.nil_append] at h

/-- So does a service, together with the help command. -/
theorem holds_of_built {settings : Option Settings} {file : Option String} {ks : List Call}
    {sys : Settings.System} {s : Service} (h : ((start settings file).run ks).1.build sys = .ok s) :
    Holds s.registry s.handlers ((start settings file).run (ks ++ helpCalls s.settings)).2 := by
  rw [run_append]
  exact holds_of_build (holds_of_start settings file ks) h

end Draft

namespace Service

variable {settings : Option Settings} {file : Option String} {ks : List Call}
  {sys : Settings.System} {s : Service}

/-- Whatever calls a draft has seen, a service built from it has the settings that the draft was
given and answers every message as the successful calls ask for; no command lacks a handler. -/
theorem handle_iff_answers (h : ((Draft.start settings file).run ks).1.build sys = .ok s) :
    (Draft.start settings file).settle sys = .ok s.settings ∧
      (∀ m a, s.handle m = a ↔
        Answers s.settings
          ((Draft.start settings file).run (ks ++ Draft.helpCalls s.settings)).2 m a) ∧
      ∀ m group name, s.handle m ≠ .error (.handlerMissing group name) := by
  obtain ⟨hsettle, hregistry, hhandlers⟩ := Draft.build_eq_ok h
  have hs : Holds s.registry s.handlers
      ((Draft.start settings file).run (ks ++ Draft.helpCalls s.settings)).2 := by
    have hrun := Holds.empty.run (d := Draft.start settings file)
      (ks ++ Draft.helpCalls s.settings)
    rw [List.nil_append, Draft.run_append] at hrun
    rw [hregistry, hhandlers, Draft.run_append]
    exact hrun
  refine ⟨Draft.settle_run _ ks sys ▸ hsettle, fun m a => handle_iff hs, fun m group name hm => ?_⟩
  cases (handle_iff hs).1 hm

/-- Calls to two groups, one of which comes again; the third call fails, since an alias has the name
that it asks for. -/
def visits : List Call :=
  [.define "chat" { name := "hi", aliases := ["hey"] } (.line fun _ => "from chat"),
    .define "games" { name := "hi" } (.line fun _ => "from games"),
    .define "chat" { name := "hey" } (.line fun _ => "refused"),
    .define "chat" { name := "bye", operatorOnly := true } (.line fun _ => "gone")]

/-- The service that they lead to. -/
def visited : Service :=
  match ((Draft.start (some {}) none).run visits).1.buildWith {} with
  | .ok s => s
  | .error _ => { settings := {}, registry := {}, handlers := {} }

theorem handle_iff_answers_visits :
    ((Draft.start (some {}) none).run visits).1.build
        { disk := { current := [], lookup := fun _ => none }, environment := []
          userDirectory := none } = .ok visited ∧
      (ordered ((Draft.start (some {}) none).run (visits ++ Draft.helpCalls {})).2).map
          (fun r => (r.group, r.command.name)) =
        [("chat", "hi"), ("chat", "bye"), ("games", "hi"), ("builtin.help", "help")] ∧
      Answers {} ((Draft.start (some {}) none).run (visits ++ Draft.helpCalls {})).2
        { sender := "ann", text := "!hey" }
        (.ok [{ delivery := .origin, recipient := "ann", text := "from chat" }]) ∧
      Answers {} ((Draft.start (some {}) none).run (visits ++ Draft.helpCalls {})).2
        { sender := "ann", text := "!bye" } (.ok []) := by
  have hbuild : ((Draft.start (some {}) none).run visits).1.build
      { disk := { current := [], lookup := fun _ => none }, environment := []
        userDirectory := none } = .ok visited := rfl
  obtain ⟨-, hanswers, -⟩ := handle_iff_answers hbuild
  refine ⟨hbuild, by decide +kernel, (hanswers _ _).1 ?_, (hanswers _ _).1 ?_⟩
  · decide +kernel
  · decide +kernel

end Service

end ChatCommand
