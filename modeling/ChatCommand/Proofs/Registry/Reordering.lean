import ChatCommand.Proofs.Command.Invocation
import ChatCommand.Proofs.Registry.Namespace
import Mathlib.Data.List.Flatten
import Mathlib.Data.List.Pairwise

/-!
# The order of commands within a group

A text invokes one command of a group at most, if names are words: the name of that command is the
first word of the text (`Command.firstWord_mem`), and within a group a name belongs to one command
only. So the order in which the commands of a group are registered does not matter.
`Registry.run_reorder` says so for whole histories: any other history that is to register the same
commands does register them all, and dispatches every text alike, if the groups are in the same
order.

That all of them are registered is an invariant of the run: what was registered and what is still to
come never share a name within a group (`Holds.run_apart`). What a registry does with a text can be
said of what was registered in it (`Holds.firstHit?_eq`).
-/

namespace ChatCommand

/-! ## The command that a text invokes -/

/-- A command whose names are words is invoked under the first word of the text. -/
theorem Command.firstWord_mem {c : Command}
    (hnames : ∀ n ∈ c.names, n.toList.any Text.isBlank = false)
    (hc : ∀ a ∈ c.arguments, a.format.leavesComment = false) {text : String}
    (h : (c.capturesAtStart? text).isSome) : String.ofList (firstWord text.toList) ∈ c.names := by
  obtain ⟨values, hvalues⟩ := Option.isSome_iff_exists.1 h
  obtain ⟨name, vs, ⟨hname, tail, htext, hsp⟩, -⟩ := Command.capturesAtStart?_parses hc hvalues
  rw [htext, firstWord_append (hnames name hname) hsp.head_blank, String.ofList_toList]
  exact hname

/-- The names of the command are words, and no custom pattern leaves a comment open. -/
structure Definition.Worded (d : Definition) : Prop where
  names_word : ∀ n ∈ d.names, n.toList.any Text.isBlank = false
  no_comment : ∀ a ∈ d.arguments, a.format.leavesComment = false

namespace Group

variable {g : Group} {text : String}

/-- The command of a group that a text invokes is the one that has its first word as a name. -/
theorem find?_firstWord (hg : g.names.Nodup) {c : Command} (hmem : c ∈ g.commands)
    (hc : c.Worded) (h : (c.capturesAtStart? text).isSome) :
    g.find? (String.ofList (firstWord text.toList)) = some c :=
  (find?_eq_some hg).2 ⟨hmem, Command.firstWord_mem hc.names_word hc.no_comment h⟩

/-- A text invokes one command of a group at most. -/
theorem length_invoked_le (hg : g.names.Nodup) (hc : ∀ c ∈ g.commands, c.Worded) :
    (g.commands.filter fun c => (c.capturesAtStart? text).isSome).length ≤ 1 := by
  have hnodup : ((g.commands.filter fun c => (c.capturesAtStart? text).isSome).flatMap
      (·.names)).Nodup := hg.sublist (List.filter_sublist.flatMap _)
  have hword : ∀ c ∈ g.commands.filter fun c => (c.capturesAtStart? text).isSome,
      String.ofList (firstWord text.toList) ∈ c.names := fun c hmem => by
    obtain ⟨hmem, hsome⟩ := List.mem_filter.1 hmem
    exact Command.firstWord_mem (hc c hmem).names_word (hc c hmem).no_comment hsome
  generalize (g.commands.filter fun c => (c.capturesAtStart? text).isSome) = cs at hnodup hword ⊢
  match cs with
  | [] | [_] => simp
  | c :: d :: cs =>
    have hc := hword c List.mem_cons_self
    have hd := hword d (List.mem_cons_of_mem _ List.mem_cons_self)
    rw [List.flatMap_cons, List.flatMap_cons, List.nodup_append] at hnodup
    exact absurd rfl (hnodup.2.2 _ hc _ (List.mem_append_left _ hd))

end Group

/-! ## Histories that are to register commands -/

/-- The command that an operation is to register, with its group. -/
def Operation.entry? : Operation → Option (String × Command)
  | ensure _ => none
  | define group d => d.compile.toOption.map (group, ·)
  | register group c => some (group, c)

/-- Two registrations that do not stand in each other's way. -/
def Apart (e e' : String × Command) : Prop :=
  e.1 = e'.1 → ∀ n ∈ e.2.names, n ∉ e'.2.names

instance (e e' : String × Command) : Decidable (Apart e e') :=
  inferInstanceAs (Decidable (_ → _))

instance : Std.Symm Apart :=
  ⟨fun _ _ h heq n hn hn' => h heq.symm n hn' hn⟩

theorem pairwise_apart {cs : List (String × Command)}
    (h : ∀ group, ((cs.filter (·.1 == group)).flatMap (·.2.names)).Nodup) :
    cs.Pairwise Apart := by
  induction cs with
  | nil => exact .nil
  | cons e cs ih =>
    refine List.pairwise_cons.2 ⟨fun e' he' heq n hn hn' => ?_, ih fun group => ?_⟩
    · have hgroup := h e.1
      rw [List.filter_cons_of_pos (by simp), List.flatMap_cons, List.nodup_append] at hgroup
      refine hgroup.2.2 n hn n (List.mem_flatMap.2 ⟨e', ?_, hn'⟩) rfl
      exact List.mem_filter.2 ⟨he', by simpa using heq.symm⟩
    · exact (h group).sublist (((List.sublist_cons_self e cs).filter _).flatMap _)

namespace Registry

variable {r : Registry} {cs : List (String × Command)}

/-- What was registered in a registry is apart. -/
theorem Holds.apart (h : Holds r cs) : cs.Pairwise Apart := by
  refine pairwise_apart fun group => ?_
  by_cases hg : ∃ g ∈ r.groups, g.name = group
  · obtain ⟨g, hmem, rfl⟩ := hg
    have hnodup := h.names_nodup g hmem
    rwa [Group.names, h.commands_eq g hmem, List.flatMap_map] at hnodup
  · have hnone : cs.filter (·.1 == group) = [] := by
      rw [List.filter_eq_nil_iff]
      intro e he heq
      obtain ⟨g, hmem, hname⟩ := h.group_mem e he
      exact hg ⟨g, hmem, hname.trans (by simpa using heq)⟩
    simp [hnone]

/-- A name belongs to a group if a command with that name was registered there. -/
theorem Holds.owns_iff (h : Holds r cs) (group n : String) :
    r.Owns group n ↔ ∃ e ∈ cs, e.1 = group ∧ n ∈ e.2.names := by
  constructor
  · rintro ⟨g, hg, rfl, c, hc, hn⟩
    rw [h.commands_eq g hg] at hc
    obtain ⟨e, he, rfl⟩ := List.mem_map.1 hc
    obtain ⟨he, hname⟩ := List.mem_filter.1 he
    exact ⟨e, he, by simpa using hname, hn⟩
  · rintro ⟨e, he, rfl, hn⟩
    obtain ⟨g, hg, hname⟩ := h.group_mem e he
    refine ⟨g, hg, hname, e.2, ?_, hn⟩
    rw [h.commands_eq g hg]
    exact List.mem_map_of_mem (List.mem_filter.2 ⟨he, by simpa using hname.symm⟩)

theorem perform_of_entry?_none (r : Registry) {o : Operation} (ho : o.entry? = none) :
    (r.perform o).2 = none := by
  cases o with
  | ensure group => rfl
  | register group c => cases ho
  | define group d =>
    cases hd : d.compile with
    | ok c => simp [Operation.entry?, hd, Except.toOption] at ho
    | error e => simp [perform, define, hd]

/-- A command is registered if it is apart from all that were registered before. -/
theorem Holds.perform_apart (h : Holds r cs) {o : Operation} {e : String × Command}
    (ho : o.entry? = some e) (he : ∀ e' ∈ cs, Apart e' e) :
    (r.perform o).2.map (o.group, ·) = some e := by
  have hok : ∀ {r : Registry} {group : String} {c : Command}, Holds r cs →
      (∀ e' ∈ cs, Apart e' (group, c)) → ∃ r', r.register group c = (r', .ok ()) := by
    intro r group c h he
    refine ⟨(r.register group c).1, Prod.ext rfl ((h.namespaces.register_ok_iff group c).2 ?_)⟩
    intro n hn howns
    obtain ⟨e', hmem, hgroup, hn'⟩ := (h.owns_iff group n).1 howns
    exact he e' hmem hgroup n hn' hn
  cases o with
  | ensure group => cases ho
  | register group c =>
    obtain rfl := Option.some.inj ho
    obtain ⟨r', hr'⟩ := hok h he
    simp [Registry.perform, hr', Operation.group]
  | define group d =>
    cases hd : d.compile with
    | error e => simp [Operation.entry?, hd, Except.toOption] at ho
    | ok c =>
      obtain rfl : (group, c) = e := by
        simpa [Operation.entry?, hd, Except.toOption] using ho
      obtain ⟨r', hr'⟩ := hok (h.ensure group) he
      simp [Registry.perform, define, hd, hr', Operation.group]

/-- If all commands that are to be registered are apart, all of them are registered. -/
theorem Holds.run_apart (h : Holds r cs) {os : List Operation}
    (hos : (cs ++ os.filterMap Operation.entry?).Pairwise Apart) :
    (r.run os).2 = os.filterMap Operation.entry? := by
  induction os generalizing r cs with
  | nil => rfl
  | cons o os ih =>
    have hstep : ((r.perform o).2.map (o.group, ·)) = o.entry? := by
      cases ho : o.entry? with
      | none => rw [perform_of_entry?_none r ho, Option.map_none]
      | some e =>
        rw [List.filterMap_cons_some ho, List.pairwise_append] at hos
        exact h.perform_apart ho fun e' he' => hos.2.2 e' he' e List.mem_cons_self
    have hnext := h.perform o
    rw [hstep] at hnext
    have hall : o.entry?.toList ++ os.filterMap Operation.entry? =
        (o :: os).filterMap Operation.entry? := by
      cases ho : o.entry? with
      | none => rw [List.filterMap_cons_none ho, Option.toList_none, List.nil_append]
      | some e => rw [List.filterMap_cons_some ho, Option.toList_some, List.singleton_append]
    have hrest := ih hnext (by rwa [List.append_assoc, hall])
    change ((r.perform o).2.map (o.group, ·)).toList ++ ((r.perform o).1.run os).2 = _
    rw [hstep, hrest, hall]

/-! ## Dispatch by what was registered -/

/-- The names of the groups that have commands, in order. -/
def occupied (r : Registry) : List String :=
  (r.groups.filter (!·.commands.isEmpty)).map (·.name)

/-- The search for a hit, said of what was registered. -/
theorem Holds.firstHit?_eq (h : Holds r cs) (captures : Command → Option Values) :
    r.firstHit? captures = r.occupied.findSome? fun group =>
      (cs.filter (·.1 == group)).findSome? fun e =>
        (captures e.2).map fun v => ⟨group, e.2, v⟩ := by
  have hcommands := h.commands_eq
  rw [firstHit?, occupied]
  generalize r.groups = gs at hcommands
  induction gs with
  | nil => rfl
  | cons g gs ih =>
    obtain ⟨hg, hgs⟩ := List.forall_mem_cons.1 hcommands
    have hgroup : (g.commands.findSome? fun c => (captures c).map fun v => (⟨g.name, c, v⟩ : Hit)) =
        (cs.filter (·.1 == g.name)).findSome? fun e =>
          (captures e.2).map fun v => ⟨g.name, e.2, v⟩ := by
      rw [hg, List.findSome?_map]
      rfl
    by_cases hempty : g.commands = []
    · rw [List.findSome?_cons, ih hgs, List.filter_cons_of_neg (by simp [hempty]), hempty]
      rfl
    · rw [List.findSome?_cons, ih hgs, hgroup, List.filter_cons_of_pos (by simpa using hempty),
        List.map_cons, List.findSome?_cons]

theorem findSome?_perm {α β : Type} {f : α → Option β} {l l' : List α} (h : l.Perm l')
    (hone : ∀ x ∈ l, ∀ y ∈ l, (f x).isSome → (f y).isSome → x = y) :
    l.findSome? f = l'.findSome? f := by
  by_cases hsome : ∃ x ∈ l, (f x).isSome
  · obtain ⟨x, hx, hfx⟩ := hsome
    have hother : ∀ y ∈ l, y ≠ x → f y = none := fun y hy hne => by
      rw [← Option.not_isSome_iff_eq_none]
      exact fun hfy => hne (hone y hy x hx hfy hfx)
    rw [Command.findSome?_eq_of_mem hx hother,
      Command.findSome?_eq_of_mem (h.mem_iff.1 hx) fun y hy => hother y (h.mem_iff.2 hy)]
  · have hnone : ∀ x ∈ l, f x = none := by simpa using hsome
    rw [List.findSome?_eq_none_iff.2 hnone,
      List.findSome?_eq_none_iff.2 fun x hx => hnone x (h.mem_iff.2 hx)]

/-- Registries with the same commands in their groups dispatch alike, whatever the order within a
group. -/
theorem Holds.dispatchAtStart?_perm {r' : Registry} {cs' : List (String × Command)}
    (h : Holds r cs) (h' : Holds r' cs') (hc : ∀ e ∈ cs, e.2.Worded) (hperm : cs'.Perm cs)
    (hgroups : r'.occupied = r.occupied) (text : String) :
    r'.dispatchAtStart? text = r.dispatchAtStart? text := by
  rw [dispatchAtStart?, dispatchAtStart?, h.firstHit?_eq, h'.firstHit?_eq, hgroups]
  congr 1
  funext group
  refine (findSome?_perm (hperm.symm.filter _) fun x hx y hy hfx hfy => ?_).symm
  obtain ⟨hx, hxg⟩ := List.mem_filter.1 hx
  obtain ⟨hy, hyg⟩ := List.mem_filter.1 hy
  have hword : ∀ {e}, e ∈ cs → ((e.2.capturesAtStart? text).map fun v =>
      (⟨group, e.2, v⟩ : Hit)).isSome → String.ofList (firstWord text.toList) ∈ e.2.names :=
    fun he hsome => Command.firstWord_mem (hc _ he).names_word (hc _ he).no_comment
      (by simpa using hsome)
  by_contra hne
  have hgroup : x.1 = y.1 := (beq_iff_eq.1 hxg).trans (beq_iff_eq.1 hyg).symm
  exact h.apart.forall hx hy hne hgroup _ (hword hx hfx) (hword hy hfy)

/-- Let all names be words, and let no custom pattern leave a comment open. Then a text invokes one
command of a group at most, which is the one that is found under the first word of the text. Any
other history that is to register the same commands in the same groups does so, and if it leaves the
groups in the same order, it leaves a registry that dispatches all texts alike. -/
theorem run_reorder {os : List Operation}
    (hc : ∀ e ∈ (({} : Registry).run os).2, e.2.Worded) :
    (∀ g ∈ (({} : Registry).run os).1.groups, ∀ text,
      (g.commands.filter fun c => (c.capturesAtStart? text).isSome).length ≤ 1 ∧
        ∀ c ∈ g.commands, (c.capturesAtStart? text).isSome →
          g.find? (String.ofList (firstWord text.toList)) = some c) ∧
    ∀ os' : List Operation,
      (os'.filterMap Operation.entry?).Perm (({} : Registry).run os).2 →
        (({} : Registry).run os').2 = os'.filterMap Operation.entry? ∧
          ((({} : Registry).run os').1.occupied = (({} : Registry).run os).1.occupied →
            ∀ text, (({} : Registry).run os').1.dispatchAtStart? text =
              (({} : Registry).run os).1.dispatchAtStart? text) := by
  have h := Holds.empty.run os
  rw [List.nil_append] at h
  constructor
  · intro g hg text
    have hworded : ∀ c ∈ g.commands, c.Worded := by
      intro c hmem
      rw [h.commands_eq g hg] at hmem
      obtain ⟨e, he, rfl⟩ := List.mem_map.1 hmem
      exact hc e (List.mem_filter.1 he).1
    have hnodup := h.names_nodup g hg
    exact ⟨Group.length_invoked_le hnodup hworded, fun c hmem hsome =>
      Group.find?_firstWord hnodup hmem (hworded c hmem) hsome⟩
  · intro os' hperm
    have hall : (({} : Registry).run os').2 = os'.filterMap Operation.entry? :=
      Holds.empty.run_apart ((hperm.pairwise_iff fun h => Std.Symm.symm _ _ h).2 h.apart)
    have h' := Holds.empty.run os'
    rw [List.nil_append, hall] at h'
    exact ⟨hall, fun hgroups text => h.dispatchAtStart?_perm h' hc hperm hgroups text⟩

/-- A command that takes a word. -/
def say : Command where
  name := "say"
  aliases := ["s"]
  arguments := [{ name := "what", format := .type .string }]
  regex := _
  matcher_eq := ⟨Regex.roomLimit, rfl⟩

/-- A command whose name is the beginning of another one. -/
def sayAll : Command where
  name := "sayall"
  arguments := [{ name := "what", format := .type .text, optional := true }]
  regex := _
  matcher_eq := ⟨Regex.roomLimit, rfl⟩

/-- A command of another group that has a name of `say`. -/
def sum : Command where
  name := "sum"
  aliases := ["s"]
  arguments := [{ name := "count", format := .type .integer }]
  regex := _
  matcher_eq := ⟨Regex.roomLimit, rfl⟩

/-- A history in which one registration fails. -/
def sayFirst : List Operation :=
  [.register "chat" say, .register "math" sum, .register "chat" say, .register "chat" sayAll]

/-- A history with the same commands in another order. -/
def sumFirst : List Operation :=
  [.ensure "chat", .register "math" sum, .register "chat" sayAll, .register "chat" say]

theorem run_reorder_sumFirst :
    (∀ e ∈ (({} : Registry).run sayFirst).2, e.2.Worded) ∧
      (sumFirst.filterMap Operation.entry?).Perm (({} : Registry).run sayFirst).2 ∧
      (({} : Registry).run sumFirst).1.occupied = (({} : Registry).run sayFirst).1.occupied ∧
      (({} : Registry).run sumFirst).2 = [("math", sum), ("chat", sayAll), ("chat", say)] ∧
      (({} : Registry).run sumFirst).1.dispatchAtStart? "s 5" =
        (({} : Registry).run sayFirst).1.dispatchAtStart? "s 5" := by
  have hfirst : (({} : Registry).run sayFirst).2 =
      [("chat", say), ("math", sum), ("chat", sayAll)] := rfl
  have hc : ∀ e ∈ (({} : Registry).run sayFirst).2, e.2.Worded := by
    rw [hfirst]
    simp only [List.forall_mem_cons]
    exact ⟨⟨by decide +kernel, by decide⟩, ⟨by decide +kernel, by decide⟩,
      ⟨by decide +kernel, by decide⟩, List.forall_mem_nil _⟩
  have hperm : (sumFirst.filterMap Operation.entry?).Perm (({} : Registry).run sayFirst).2 := by
    rw [hfirst]
    exact @List.perm_append_comm _ [("math", sum), ("chat", sayAll)] [("chat", say)]
  have hgroups : (({} : Registry).run sumFirst).1.occupied =
      (({} : Registry).run sayFirst).1.occupied := by
    decide +kernel
  obtain ⟨hall, hdispatch⟩ := (run_reorder hc).2 sumFirst hperm
  exact ⟨hc, hperm, hgroups, hall, hdispatch hgroups "s 5"⟩

end Registry

end ChatCommand
