import ChatCommand.Proofs.Command.Search
import ChatCommand.Registry

/-!
# Whom a text is dispatched to

A text is offered to the commands of a registry one after another (`Registry.entries`), and the
first one that accepts it is hit (`Registry.firstHit?_eq_some`). What the whole text invokes is
invoked by a part of it as well, so a command that is hit by the whole text is hit by its parts,
unless an earlier command is (`Registry.firstHit?_of_imp`). `Registry.dispatch_scan` says which part
this is.
-/

namespace ChatCommand

namespace Registry

variable {r : Registry}

/-- All commands with their groups, in the order in which texts are offered to them. -/
def entries (r : Registry) : List (String × Command) :=
  r.groups.flatMap fun g => g.commands.map (g.name, ·)

theorem commands_eq_entries (r : Registry) : r.commands = r.entries.map (·.2) := by
  rw [commands, entries, List.map_flatMap]
  simp

/-- The hit of a command, if it finds values. -/
def hitOf? (captures : Command → Option Values) (e : String × Command) : Option Hit :=
  (captures e.2).map fun values => ⟨e.1, e.2, values⟩

theorem hitOf?_eq_none {captures : Command → Option Values} {e : String × Command} :
    hitOf? captures e = none ↔ captures e.2 = none :=
  Option.map_eq_none_iff

theorem firstHit?_eq_entries (r : Registry) (captures : Command → Option Values) :
    r.firstHit? captures = r.entries.findSome? (hitOf? captures) := by
  rw [firstHit?, entries]
  induction r.groups with
  | nil => rfl
  | cons g gs ih =>
    have hgroup : g.commands.findSome? (hitOf? captures ∘ (g.name, ·)) =
        g.commands.findSome? fun c => (captures c).map fun values => ⟨g.name, c, values⟩ :=
      rfl
    rw [List.findSome?_cons, List.flatMap_cons, List.findSome?_append, ← ih, List.findSome?_map,
      hgroup]
    cases g.commands.findSome? _ <;> rfl

theorem firstHit?_eq_some {captures : Command → Option Values} {hit : Hit} :
    r.firstHit? captures = some hit ↔
      ∃ before after, r.entries = before ++ (hit.group, hit.command) :: after ∧
        (∀ e ∈ before, captures e.2 = none) ∧ captures hit.command = some hit.values := by
  rw [firstHit?_eq_entries, List.findSome?_eq_some_iff]
  simp only [hitOf?_eq_none]
  constructor
  · rintro ⟨before, e, after, hsplit, he, hbefore⟩
    obtain ⟨values, hvalues, rfl⟩ := Option.map_eq_some_iff.1 he
    exact ⟨before, after, hsplit, hbefore, hvalues⟩
  · rintro ⟨before, after, hsplit, hbefore, hvalues⟩
    refine ⟨before, _, after, hsplit, ?_, hbefore⟩
    rw [hitOf?, hvalues, Option.map_some]

/-! ## Two ways to dispatch -/

/-- If all that is found in one way is found in another, then the command that is hit in the first
way is hit in the second, or one before it is. -/
theorem firstHit?_of_imp {f g : Command → Option Values}
    (hfg : ∀ c values, f c = some values → g c = some values) {hit : Hit}
    (h : r.firstHit? f = some hit) :
    ∃ hit' before after, r.firstHit? g = some hit' ∧
      r.commands = before ++ hit.command :: after ∧ (∀ d ∈ before, f d = none) ∧
        (hit' = hit ∨ hit'.command ∈ before) := by
  obtain ⟨before, after, hsplit, hbefore, hvalues⟩ := firstHit?_eq_some.1 h
  have hcommands : r.commands = before.map (·.2) ++ hit.command :: after.map (·.2) := by
    rw [commands_eq_entries, hsplit, List.map_append, List.map_cons]
  have hnone : ∀ d ∈ before.map (·.2), f d = none := List.forall_mem_map.2 hbefore
  have hsearch := firstHit?_eq_entries r g
  rw [hsplit, List.findSome?_append] at hsearch
  cases hearlier : before.findSome? (hitOf? g) with
  | none =>
    rw [hearlier, List.findSome?_cons, hitOf?, hfg _ _ hvalues] at hsearch
    exact ⟨hit, _, _, hsearch, hcommands, hnone, .inl rfl⟩
  | some hit' =>
    rw [hearlier] at hsearch
    obtain ⟨e, he, hhit⟩ := List.exists_of_findSome?_eq_some hearlier
    obtain ⟨values, -, rfl⟩ := Option.map_eq_some_iff.1 hhit
    exact ⟨_, _, _, hsearch, hcommands, hnone, .inr (List.mem_map_of_mem he)⟩

/-- A command finds in a text what it makes of the longest end of the text that it accepts, and
nothing if it accepts no end. If any match starts at the beginning, the text as a whole is that end.
So a text that invokes a command as a whole is dispatched by its parts to this command or to one
before it. No custom pattern may leave a comment open for the first two, for it may match in place
of a name then. -/
theorem dispatch_scan :
    (∀ c : Command, (∀ a ∈ c.arguments, a.format.leavesComment = false) → ∀ text,
      (∀ values, c.captures? text = some values ↔ ∃ back, c.LongestEnd text back values) ∧
      (c.captures? text = none ↔
        ∀ back : String, back.toList <:+ text.toList → c.capturesAtStart? back = none) ∧
      (Regex.ways c.regex { rest := text.toList } ≠ [] ↔
        ∃ values, c.capturesAtStart? text = some values ∧ c.captures? text = some values)) ∧
    ∀ (r : Registry) text hit, r.dispatchAtStart? text = some hit →
      ∃ hit' before after, r.dispatch? text = some hit' ∧
        r.commands = before ++ hit.command :: after ∧
          (∀ d ∈ before, d.capturesAtStart? text = none) ∧
            (hit' = hit ∨ hit'.command ∈ before) := by
  constructor
  · intro c hc text
    exact ⟨fun _ => Command.captures?_eq_some hc, Command.captures?_eq_none hc, c.ways_ne_nil text⟩
  · intro r text hit h
    exact firstHit?_of_imp (fun _ _ => Command.captures?_of_capturesAtStart?) h

/-- A command whose alias is the last letter of another command. -/
def granting : Command :=
  ({ name := "grant"
     aliases := ["g"]
     arguments := [{ name := "name", format := .type .string },
       { name := "level", format := .type .integer, optional := true }] } :
    Definition).compile.toOption.get rfl

/-- A command that ends in the alias of another one. -/
def debugging : Command :=
  ({ name := "debug", arguments := [{ name := "who", format := .type .string }] } :
    Definition).compile.toOption.get rfl

/-- The command with the short alias comes first. -/
def grantFirst : Registry where
  groups := [{ name := "admin", commands := [granting] },
    { name := "dev", commands := [debugging] }]

/-- Names may occur several times in a text, and in one another. -/
theorem dispatch_scan_grantFirst :
    (∀ a ∈ granting.arguments, a.format.leavesComment = false) ∧
      (∃ back, granting.LongestEnd "grant g g 3" back
        ⟨[("name", some "g"), ("level", some "3")]⟩) ∧
      (∀ back : String, back.toList <:+ "debug".toList → granting.capturesAtStart? back = none) ∧
      Regex.ways debugging.regex { rest := "debug bob".toList } ≠ [] ∧
      ∃ hit hit' before after, grantFirst.dispatchAtStart? "debug bob" = some hit ∧
        hit.group = "dev" ∧ grantFirst.dispatch? "debug bob" = some hit' ∧ hit'.group = "admin" ∧
          grantFirst.commands = before ++ hit.command :: after ∧ hit'.command ∈ before := by
  obtain ⟨hscan, hdispatch⟩ := dispatch_scan
  have hgranting : ∀ a ∈ granting.arguments, a.format.leavesComment = false := by decide
  have hdebugging : ∀ a ∈ debugging.arguments, a.format.leavesComment = false := by decide
  have hrepeated : granting.captures? "grant g g 3" =
      some ⟨[("name", some "g"), ("level", some "3")]⟩ := by
    decide +kernel
  have hnone : granting.captures? "debug" = none := by decide +kernel
  have hwhole : debugging.capturesAtStart? "debug bob" = some ⟨[("who", some "bob")]⟩ := by
    decide +kernel
  have hhit : (grantFirst.dispatchAtStart? "debug bob").map (·.group) = some "dev" := by
    decide +kernel
  have hhit' : (grantFirst.dispatch? "debug bob").map (·.group) = some "admin" := by
    decide +kernel
  obtain ⟨hit, hstart, hgroup⟩ := Option.map_eq_some_iff.1 hhit
  obtain ⟨first, hfirst, hgroup'⟩ := Option.map_eq_some_iff.1 hhit'
  obtain ⟨hit', before, after, hsearch, hsplit, -, hearlier⟩ := hdispatch _ _ hit hstart
  obtain rfl := Option.some.inj (hfirst.symm.trans hsearch)
  refine ⟨hgranting, ((hscan granting hgranting _).1 _).1 hrepeated,
    (hscan granting hgranting _).2.1.1 hnone,
    (hscan debugging hdebugging _).2.2.2 ⟨_, hwhole, Command.captures?_of_capturesAtStart? hwhole⟩,
    hit, first, before, after, hstart, hgroup, hsearch, hgroup', hsplit, hearlier.resolve_left ?_⟩
  rintro rfl
  exact absurd (hgroup.symm.trans hgroup') (by decide)

end Registry

end ChatCommand
