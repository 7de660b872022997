import ChatCommand.Proofs.Bot.Dice
import ChatCommand.Proofs.Bot.Registered

/-!
# Rolling dice

The bot answers a message that asks for dice, and what it answers depends on the two numbers alone
(`Service.handle_asks`): they are read first, so a number that is too large is reported even if the
other one is zero; the greatest sum is cut off at the greatest number that can be read. No other
message gets to the command that rolls dice. `Bot.handle_dice` says so of every service of the bot.
-/

namespace ChatCommand

open Registration

/-- What a message was dispatched to, whether its sender may invoke that or not. -/
def Routing.hit? : Routing → Option Hit
  | noSigil | noCommand _ => none
  | rejected _ hit | unhandled _ hit => some hit
  | answered _ i _ => some i.hit

theorem Service.hit?_route (s : Service) (m : Message) :
    (s.route m).hit? = (s.body? m.text).bind s.registry.dispatchAtStart? := by
  unfold route
  cases s.body? m.text with
  | none => rfl
  | some body =>
    dsimp only [Option.bind_some]
    cases s.registry.dispatchAtStart? body with
    | none => rfl
    | some hit =>
      dsimp only
      split
      · rfl
      · split <;> rfl

namespace Bot

/-! ## The commands of the bot -/

/-- The command that rolls dice, as it is registered. -/
def rollEntry : String × Definition × Handler :=
  ("misc", Dice.definition, roll)

variable {e : String × Definition × Handler}

theorem mem_of_allCommands {settings : Settings} (h : e ∈ allCommands settings) :
    e ∈ commands ++ [helpEntry] := by
  unfold allCommands at h
  split at h
  · exact h
  · exact List.mem_append_left _ (by rwa [List.append_nil] at h)

theorem rollEntry_mem (settings : Settings) : rollEntry ∈ allCommands settings :=
  List.mem_append_left _ (List.mem_of_getElem? (i := 2) rfl)

/-- Every other command has another name, and of these only the one that grants a level can fail. -/
theorem eq_rollEntry_or (he : e ∈ commands ++ [helpEntry]) :
    e = rollEntry ∨ e.2.1.name ≠ "roll" ∧
      (e.2.2 = grant ∨ ∀ i, ∃ replies, e.2.2.answer i = .ok replies) := by
  simp only [commands, List.cons_append, List.nil_append, List.mem_cons, List.not_mem_nil,
    or_false] at he
  rcases he with rfl | rfl | rfl | rfl | rfl | rfl | rfl
  case inr.inr.inl => exact .inl rfl
  case inr.inr.inr.inr.inr.inl => exact .inr ⟨by decide, .inl rfl⟩
  all_goals exact .inr ⟨by decide, .inr fun _ => ⟨_, rfl⟩⟩

theorem eq_rollEntry (he : e ∈ commands ++ [helpEntry]) (hname : e.2.1.name = "roll") :
    e = rollEntry :=
  (eq_rollEntry_or he).resolve_right fun h => h.1 hname

theorem reason_of_grant {i : Invocation} {reason : String} (h : grant.answer i = .error reason) :
    ∃ fault : Number.IntegerFault, reason = fault.message := by
  simp only [grant, readGrant, Values.read?, readNumber] at h
  cases hvalue : i.values.value? "level" with
  | none =>
    rw [hvalue] at h
    cases h
  | some level =>
    rw [hvalue] at h
    cases hread : Number.readNatural maxLevel level.toList with
    | ok n =>
      simp only [hread] at h
      cases h
    | error fault =>
      simp only [hread] at h
      exact ⟨fault, (Except.error.inj h).symm⟩

/-! ## Dispatch -/

variable {settings : Settings} {rs : List Registration} {body x y : String}

/-- Of all commands of the bot, only the one that rolls dice takes a text that asks for dice: no
other name is the beginning of the text. -/
theorem entry_of_captures (hrs : rs.map entry = allCommands settings) {r : Registration}
    (hr : r ∈ rs) (h : Dice.Asks body x y) {values : Values}
    (hvalues : r.command.capturesAtStart? body = some values) : r.entry = rollEntry := by
  have he : r.entry ∈ commands ++ [helpEntry] :=
    mem_of_allCommands (hrs ▸ List.mem_map_of_mem hr)
  have hcomment : ∀ e ∈ commands ++ [helpEntry],
      ∀ a ∈ e.2.1.arguments, a.format.leavesComment = false := by
    decide
  -- A name may be longer or shorter than this one: four characters of it are compared.
  have hnames : ∀ e ∈ commands ++ [helpEntry],
      ∀ n ∈ e.2.1.names, n.toList.take 4 <+: "roll".toList → e.2.1.name = "roll" := by
    decide
  obtain ⟨n, vs, ⟨hn, tail, htext, -⟩, -⟩ :=
    Command.capturesAtStart?_parses (hcomment _ he) hvalues
  obtain ⟨front, hfront⟩ : ∃ front, body.toList = "roll".toList ++ front := by
    cases h
    exact ⟨_, by simp only [String.toList_append, List.append_assoc]; rfl⟩
  have hpre : n.toList <+: "roll".toList ++ front := hfront ▸ htext ▸ List.prefix_append _ _
  exact eq_rollEntry he (hnames _ he n hn (hpre.take 4))

/-- A text that asks for dice is dispatched to the command that rolls them. -/
theorem accepts_of_asks (hrs : rs.map entry = allCommands settings) (h : Dice.Asks body x y) :
    ∃ r, Accepts rs body r ⟨[("dice", some (x ++ "d" ++ y))]⟩ ∧ r.entry = rollEntry := by
  obtain ⟨q, hq, hqe⟩ := List.mem_map.1 (hrs ▸ rollEntry_mem settings)
  have hdice : ∀ {r : Registration}, r.entry = rollEntry →
      r.command.capturesAtStart? body = some ⟨[("dice", some (x ++ "d" ++ y))]⟩ := fun hr =>
    Dice.captures_of_asks (congrArg (·.2.1) hr) h
  -- Whichever command takes the text first, it is this one, so their order does not matter.
  cases hhit : (registry rs).dispatchAtStart? body with
  | none =>
    have hnone := Registry.dispatchAtStart?_eq_none.1 hhit q hq
    rw [hdice hqe] at hnone
    cases hnone
  | some hit =>
    obtain ⟨r, hr, -, -⟩ := Registry.dispatchAtStart?_eq_some.1 hhit
    obtain ⟨before, after, hsplit, hbefore, hvalues⟩ := hr
    have hentry := entry_of_captures hrs (Accepts.mem ⟨before, after, hsplit, hbefore, hvalues⟩) h
      hvalues
    exact ⟨r, ⟨before, after, hsplit, hbefore, hdice hentry⟩, hentry⟩

/-- Nothing else is. -/
theorem asks_of_accepts (hrs : rs.map entry = allCommands settings) {r : Registration}
    {values : Values} (hr : Accepts rs body r values) (hname : r.command.name = "roll") :
    r.entry = rollEntry ∧ ∃ x y, Dice.Asks body x y ∧
      values = ⟨[("dice", some (x ++ "d" ++ y))]⟩ := by
  have hentry := eq_rollEntry (mem_of_allCommands (hrs ▸ List.mem_map_of_mem hr.mem)) hname
  obtain ⟨-, -, -, -, hvalues⟩ := hr
  exact ⟨hentry, Dice.asks_of_captures (congrArg (·.2.1) hentry) hvalues⟩

/-! ## Answers -/

variable {s : Service} {m : Message}

/-- A message that asks for dice is answered with a text about them, unless a number is too
large. -/
theorem handle_asks (hs : Holds s.registry s.handlers rs)
    (hrs : rs.map entry = allCommands settings) (hbody : m.text = s.sigil ++ body)
    (h : Dice.Asks body x y) :
    s.handle m =
      if Number.decimal x.toList ≤ maxPoints ∧ Number.decimal y.toList ≤ maxPoints then
        .ok [Reply.toOrigin m (Dice.answer m.sender x y)]
      else .error (.handlerFailed "roll" Number.IntegerFault.tooLarge.message) := by
  obtain ⟨r, hr, hentry⟩ := accepts_of_asks hrs h
  have hdefinition : r.command.toDefinition = Dice.definition := congrArg (·.2.1) hentry
  have hhandler : r.handler = roll := congrArg (·.2.2) hentry
  have hopen : r.command.operatorOnly = false := by
    rw [hdefinition]
    rfl
  have hname : r.command.name = "roll" := by
    rw [hdefinition]
    rfl
  have hnumbers : ValueType.integer.Accepts x.toList ∧ ValueType.integer.Accepts y.toList := by
    cases h with
    | roll _ hx hy => exact ⟨hx, hy⟩
  rw [Service.handle_of_accepts hs hbody hr (by simp [hopen]), hhandler,
    Dice.answer_roll rfl hnumbers.1 hnumbers.2, hname]
  by_cases hfit : Number.decimal x.toList ≤ maxPoints ∧ Number.decimal y.toList ≤ maxPoints
  · simp only [if_pos hfit]
    rfl
  · simp only [if_neg hfit]

/-- Whatever message fails, it is a number that cannot be read. -/
theorem reason_of_handle (hs : Holds s.registry s.handlers rs)
    (hrs : rs.map entry = allCommands settings) {name reason : String}
    (h : s.handle m = .error (.handlerFailed name reason)) :
    ∃ fault : Number.IntegerFault, reason = fault.message := by
  cases (Service.handle_iff hs).1 h with
  | @failed body r values _ hbody hr hsender ha =>
    have he := mem_of_allCommands (hrs ▸ List.mem_map_of_mem hr.mem)
    obtain hdice | ⟨-, hgrant | hnever⟩ := eq_rollEntry_or he
    · have hname : r.command.name = "roll" := congrArg (·.2.1.name) hdice
      obtain ⟨-, x, y, hasks, -⟩ := asks_of_accepts hrs hr hname
      rw [handle_asks hs hrs hbody hasks] at h
      split at h
      · cases h
      · obtain ⟨-, hreason⟩ := ServiceError.handlerFailed.inj (Except.error.inj h)
        exact ⟨.tooLarge, hreason.symm⟩
    · have hhandler : r.handler = grant := hgrant
      rw [hhandler] at ha
      exact reason_of_grant ha
    · obtain ⟨replies, hreplies⟩ := hnever (r.invocation s.settings rs m values)
      have hreplies : r.handler.answer (r.invocation s.settings rs m values) = .ok replies :=
        hreplies
      rw [hreplies] at ha
      cases ha

theorem malformed_ne_message (dice : String) (fault : Number.IntegerFault) :
    "malformed dice " ++ Text.quoted dice ≠ fault.message := by
  intro h
  have hchars := congrArg String.toList h
  rw [String.toList_append] at hchars
  cases fault <;> simp [Number.IntegerFault.message] at hchars

/-! ## The bot -/

variable {given : Option Settings} {file : Option String} {sys : Settings.System}

/-- With every valid configuration, given or loaded, there is a service of the bot. It answers a
message that asks for dice with an error if a number is `2 ^ 64` or above. Otherwise it replies with
one line to where the message came from: it refuses to roll if there are no dice or no sides, and
else gives the least sum and the greatest, cut off below `2 ^ 64`. Dice are never found malformed,
since only messages that ask for dice are dispatched to the command. -/
theorem handle_dice (h : (draft.configured given file).settle sys = .ok settings) :
    ∃ s, (draft.configured given file).build sys = .ok s ∧ s.settings = settings ∧
      (∀ m body x y count sides, m.text = settings.commands.sigil ++ body → Dice.Asks body x y →
        Number.decimal x.toList = count → Number.decimal y.toList = sides →
          ((∃ reason, s.handle m = .error (.handlerFailed "roll" reason)) ↔
            2 ^ 64 ≤ count ∨ 2 ^ 64 ≤ sides) ∧
          (count < 2 ^ 64 → sides < 2 ^ 64 → ∃ text, s.handle m = .ok [Reply.toOrigin m text] ∧
            (text = Dice.refusal m.sender x y ↔ count = 0 ∨ sides = 0) ∧
            (text = Dice.range m.sender x y count (min (count * sides) (2 ^ 64 - 1)) ↔
              count ≠ 0 ∧ sides ≠ 0))) ∧
      (∀ m name dice,
        s.handle m ≠ .error (.handlerFailed name ("malformed dice " ++ Text.quoted dice))) ∧
      ∀ m, (∃ hit, (s.route m).hit? = some hit ∧ hit.command.name = "roll") ↔
        ∃ body x y, m.text = settings.commands.sigil ++ body ∧ Dice.Asks body x y := by
  obtain ⟨s, hbuild, rfl⟩ := exists_service h
  obtain ⟨rs, hs, hrs⟩ := exists_registrations hbuild
  refine ⟨s, hbuild, rfl, ?_, fun m name dice hm => ?_, fun m => ?_⟩
  · rintro m body x y _ _ hbody hasks rfl rfl
    have hhandle := handle_asks hs hrs hbody hasks
    have hlimit : ∀ n, n ≤ maxPoints ↔ n < 2 ^ 64 := fun n => by
      unfold maxPoints
      omega
    simp only [hlimit] at hhandle
    refine ⟨?_, fun hx hy => ⟨_, hhandle.trans (if_pos ⟨hx, hy⟩), ?_, ?_⟩⟩
    · by_cases hfit : Number.decimal x.toList < 2 ^ 64 ∧ Number.decimal y.toList < 2 ^ 64
      · rw [hhandle, if_pos hfit]
        exact iff_of_false (by simp) (by omega)
      · rw [hhandle, if_neg hfit]
        exact iff_of_true ⟨_, rfl⟩ (by omega)
    · exact Dice.answer_eq_refusal
    · exact Dice.answer_eq_range
  · obtain ⟨fault, hfault⟩ := reason_of_handle hs hrs hm
    exact malformed_ne_message dice fault hfault
  · rw [Service.hit?_route]
    constructor
    · rintro ⟨hit, hhit, hname⟩
      obtain ⟨body, hbody, hdispatch⟩ := Option.bind_eq_some_iff.1 hhit
      rw [hs.registry] at hdispatch
      obtain ⟨r, hr, -, hcommand⟩ := Registry.dispatchAtStart?_eq_some.1 hdispatch
      obtain ⟨-, x, y, hasks, -⟩ := asks_of_accepts hrs hr (hcommand ▸ hname)
      exact ⟨body, x, y, Service.body?_eq_some.1 hbody, hasks⟩
    · rintro ⟨body, x, y, hbody, hasks⟩
      obtain ⟨r, hr, hentry⟩ := accepts_of_asks hrs hasks
      rw [Service.body?_eq_some.2 hbody]
      exact ⟨_, Service.dispatch_of_accepts hs hr, congrArg (·.2.1.name) hentry⟩

/-- Zeros at the beginning of a number do not count. With one side more the number is too large. -/
theorem handle_dice_mostSides :
    (draft.configured (some {}) none).settle Draft.bareSystem = .ok {} ∧
      ∃ s, (draft.configured (some {}) none).build Draft.bareSystem = .ok s ∧
        s.handle { sender := "ann", channel := some "#wall",
                   text := "!roll\t003d18446744073709551615" } =
          .ok [{ delivery := .origin, recipient := "#wall",
                 text := "ann rolls 003d18446744073709551615: " ++
                   "somewhere between 3 and 18446744073709551615" }] ∧
        ∃ reason, s.handle { sender := "ann", text := "!roll 0d18446744073709551616" } =
          .error (.handlerFailed "roll" reason) := by
  have hsettle : (draft.configured (some {}) none).settle Draft.bareSystem = .ok {} := rfl
  obtain ⟨s, hbuild, -, hanswers, -, -⟩ := handle_dice hsettle
  have hasks : Dice.Asks
      ("roll" ++ String.singleton '\t' ++ ("003" ++ "d" ++ "18446744073709551615"))
      "003" "18446744073709551615" :=
    .roll (by decide) (by decide) (by decide)
  have hmore : Dice.Asks
      ("roll" ++ String.singleton ' ' ++ ("0" ++ "d" ++ "18446744073709551616"))
      "0" "18446744073709551616" :=
    .roll (by decide) (by decide) (by decide)
  obtain ⟨-, hfits⟩ := hanswers
    { sender := "ann", channel := some "#wall", text := "!roll\t003d18446744073709551615" }
    _ _ _ 3 18446744073709551615 (by decide) hasks (by decide) (by decide)
  obtain ⟨text, hreplies, -, hrange⟩ := hfits (by decide) (by decide)
  obtain ⟨hfails, -⟩ := hanswers { sender := "ann", text := "!roll 0d18446744073709551616" }
    _ _ _ 0 18446744073709551616 (by decide) hmore (by decide) (by decide)
  refine ⟨hsettle, s, hbuild, ?_, hfails.2 (.inr (by decide))⟩
  rw [hreplies, hrange.2 ⟨by decide, by decide⟩]
  decide

end Bot

end ChatCommand
