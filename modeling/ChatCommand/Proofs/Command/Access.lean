import ChatCommand.Proofs.Command.Check
import Mathlib.Data.List.Nodup

/-!
# Values by name and by position

A command reports an entry for each of its arguments, in their order and under their names,
whichever groups of the matcher took part in the match (`Command.names_valuesOf`). No two arguments
of a command have the same name, so asking for a value by the name of an argument comes to the same
as asking by its position (`Values.value?_eq_get?`). `Command.captures?_access` puts the two
together: all ways to get at the values of an invocation agree.
-/

namespace ChatCommand

/-! ## Values under distinct names -/

namespace Values

variable {v : Values} {i : Nat} {name : String}

/-- Where no two entries have the same name, the value under a name is that of its entry. -/
theorem value?_eq_get? (hv : (v.entries.map (·.1)).Nodup)
    (hi : (v.entries.map (·.1))[i]? = some name) : v.value? name = v.get? i := by
  obtain ⟨e, he, rfl⟩ : ∃ e, v.entries[i]? = some e ∧ e.1 = name := by simpa using hi
  have hmem : e ∈ v.entries := List.mem_of_getElem? he
  obtain ⟨f, hf⟩ : ∃ f, v.entries.find? (·.1 == e.1) = some f :=
    Option.isSome_iff_exists.1 (List.find?_isSome.2 ⟨e, hmem, by simp⟩)
  have hname : f.1 = e.1 := by simpa using List.find?_some hf
  obtain rfl := List.inj_on_of_nodup_map hv (List.mem_of_find?_eq_some hf) hmem hname
  rw [value?, get?, hf, he]

/-- An entry is a name with the value at its position. -/
theorem getElem?_entries (hi : (v.entries.map (·.1))[i]? = some name) :
    v.entries[i]? = some (name, v.get? i) := by
  obtain ⟨e, he, rfl⟩ : ∃ e, v.entries[i]? = some e ∧ e.1 = name := by simpa using hi
  rw [get?, he]
  rfl

theorem getElem?_toList (hi : i < v.size) : v.toList[i]? = some (v.get? i) := by
  have hi : i < v.entries.length := hi
  rw [toList, get?, List.getElem?_map, List.getElem?_eq_getElem hi]
  rfl

theorem get?_eq_none (hi : v.size ≤ i) : v.get? i = none := by
  rw [get?, List.getElem?_eq_none hi]
  rfl

theorem value?_eq_none (h : name ∉ v.entries.map (·.1)) : v.value? name = none := by
  have hfind : v.entries.find? (·.1 == name) = none := by
    rw [List.find?_eq_none]
    intro e he hname
    exact h (List.mem_map.2 ⟨e, he, beq_iff_eq.1 hname⟩)
  rw [value?, hfind]
  rfl

end Values

/-! ## What a command reports -/

namespace Command

variable {c : Command} {text : String} {values : Values}

/-- The entries have the names of the arguments, whatever was found. -/
theorem names_valuesOf (c : Command) (text : List Char) (found : Regex.Found) :
    (c.valuesOf text found).entries.map (·.1) = c.arguments.map (·.name) := by
  refine List.ext_getElem (by simp [valuesOf]) fun i _ _ => ?_
  simp [valuesOf]

/-- So they have in all values that a command reports. -/
theorem names_of_captures
    (h : c.captures? text = some values ∨ c.capturesAtStart? text = some values) :
    values.entries.map (·.1) = c.arguments.map (·.name) := by
  obtain ⟨found, rfl⟩ : ∃ found, c.valuesOf text.toList found = values := by
    rcases h with h | h
    · obtain ⟨found, -, hvalues⟩ := Option.map_eq_some_iff.1 h
      exact ⟨found, hvalues⟩
    · unfold capturesAtStart? at h
      split at h
      · rename_i found _
        split at h
        · exact ⟨found, Option.some.inj h⟩
        · cases h
      · cases h
  exact c.names_valuesOf _ found

/-- A command reports one entry for each argument, in order and under the name of the argument.
By that name, by the position of the argument and in the list of all values there is the same value;
there is none behind the last position, and none under a name that is not declared. -/
theorem captures?_access
    (h : c.captures? text = some values ∨ c.capturesAtStart? text = some values) :
    values.size = c.arguments.length ∧
      values.entries.map (·.1) = c.arguments.map (·.name) ∧
      (∀ i a, c.arguments[i]? = some a →
        values.entries[i]? = some (a.name, values.get? i) ∧
          values.toList[i]? = some (values.get? i) ∧
          values.value? a.name = values.get? i ∧
          (values.isPresent a.name = true ↔ ∃ v, values.get? i = some v)) ∧
      (∀ i, c.arguments.length ≤ i → values.get? i = none) ∧
      ∀ name, (∀ a ∈ c.arguments, a.name ≠ name) → values.value? name = none := by
  have hnames := names_of_captures h
  have hsize : values.size = c.arguments.length := by
    simpa [Values.size] using congrArg List.length hnames
  obtain ⟨_, hwell⟩ := c.wellFormed
  refine ⟨hsize, hnames, fun i a ha => ?_, fun i hi => ?_, fun name hname => ?_⟩
  · have hi : (values.entries.map (·.1))[i]? = some a.name := by
      rw [hnames, List.getElem?_map, ha]
      rfl
    have hlt : i < values.size := hsize ▸ (List.getElem?_eq_some_iff.1 ha).1
    have hvalue : values.value? a.name = values.get? i :=
      Values.value?_eq_get? (hnames ▸ hwell.arguments_nodup) hi
    refine ⟨Values.getElem?_entries hi, Values.getElem?_toList hlt, hvalue, ?_⟩
    rw [Values.isPresent, hvalue, Option.isSome_iff_exists]
  · exact Values.get?_eq_none (hsize ▸ hi)
  · refine Values.value?_eq_none fun hmem => ?_
    rw [hnames] at hmem
    obtain ⟨a, ha, he⟩ := List.mem_map.1 hmem
    exact hname a ha he

/-- Custom patterns with groups of their own. The arguments are called like groups of the matcher,
but not each like its own. -/
def swapped : Definition where
  name := "mix"
  arguments := [{ name := "arg1", format := .pattern "(?P<hue>red)|dark(er)?" },
    { name := "arg0", format := .pattern "x(?P<y>y)*", optional := true },
    { name := "hue", format := .type .integer, optional := true }]

/-- An argument that was left out in the middle keeps its entry. -/
theorem captures?_access_swapped :
    ∃ (c : Command) (values : Values), c.toDefinition = swapped ∧
      c.captures? "please mix dark 7" = some values ∧
      values.entries = [("arg1", some "dark"), ("arg0", none), ("hue", some "7")] ∧
      values.value? "arg0" = values.get? 1 ∧ values.value? "hue" = values.get? 2 ∧
      values.get? 3 = none ∧ values.value? "y" = none := by
  have hcaptures : (swapped.command rfl).captures? "please mix dark 7" =
      some ⟨[("arg1", some "dark"), ("arg0", none), ("hue", some "7")]⟩ := by
    decide +kernel
  obtain ⟨-, -, hagree, hbehind, hundeclared⟩ := captures?_access (.inl hcaptures)
  obtain ⟨-, -, hmiddle, -⟩ := hagree 1 _ rfl
  obtain ⟨-, -, hlast, -⟩ := hagree 2 _ rfl
  exact ⟨_, _, rfl, hcaptures, rfl, hmiddle, hlast, hbehind 3 (Nat.le_refl 3),
    hundeclared "y" (by decide)⟩

end Command

end ChatCommand
