import ChatCommand.Proofs.Command.Access
import ChatCommand.Proofs.Command.CustomPattern
import ChatCommand.Proofs.Number.Decimal

/-!
# Values that are numbers

The value of an argument is one of its format, and it is found under the name of the argument
(`Values.value?_eq_get?`), since no two arguments have the same name. So it is known how the value
of an integer or a float is read: `Command.captures?_read` says that an integer is read as the
number that its digits denote, however many they are, unless this number is above the limit of the
type, and that a float is always read. An argument without a value is read as none.
-/

namespace ChatCommand

/-- The values in a way to spell arguments are values of the formats. -/
theorem Spells.accepts {as : List Argument} {vs : List (Option String)} {cs : List Char}
    (h : Spells as vs cs) {i : Nat} {a : Argument} {v : String} (ha : as[i]? = some a)
    (hv : vs[i]? = some (some v)) : a.format.Accepts v := by
  induction h generalizing i with
  | nil => simp at ha
  | absent _ _ ih =>
    cases i with
    | zero => simp at hv
    | succ i => exact ih ha hv
  | present _ hacc _ ih =>
    cases i with
    | zero =>
      obtain rfl := Option.some.inj ha
      obtain rfl := Option.some.inj (Option.some.inj hv)
      exact hacc
    | succ i => exact ih ha hv

namespace Command

variable {c : Command}

/-- A command without custom patterns reports values of the formats, each under the name of its
argument. -/
theorem captures?_value (hc : ∀ a ∈ c.arguments, a.format.isCustom = false) {text : String}
    {values : Values} (h : c.captures? text = some values) {i : Nat} {a : Argument}
    (ha : c.arguments[i]? = some a) :
    values.value? a.name = values.get? i ∧
      ∀ v, values.get? i = some v → a.format.Accepts v := by
  obtain ⟨hnames, -, before, rest, name, vs, -, ⟨-, tail, -, hspells⟩, rfl⟩ :=
    captures?_parses (fun a ha => Format.leavesComment_of_not_custom (hc a ha)) h
  refine ⟨Values.value?_eq_get? ?_ ?_, fun v hv => hspells.accepts ha ?_⟩
  · obtain ⟨_, hwell⟩ := c.wellFormed
    rw [hnames]
    exact hwell.arguments_nodup
  · rw [hnames, List.getElem?_map, ha]
    rfl
  · simp only [Values.get?, Definition.entries, List.getElem?_zipWith, ha] at hv
    cases hvs : vs[i]? with
    | none => simp [hvs] at hv
    | some w =>
      rw [← hv, hvs]
      rfl

/-- Without custom patterns, the value of an integer is read as the number that it denotes in
decimal, up to the limit of the type, and is too large above it; the value of a float is always
read; and an argument without a value is read as none, by any reader. -/
theorem captures?_read (hc : ∀ a ∈ c.arguments, a.format.isCustom = false) {text : String}
    {values : Values} (h : c.captures? text = some values) {i : Nat} {a : Argument}
    (ha : c.arguments[i]? = some a) :
    (∀ v, values.get? i = some v →
      (a.format = .type .integer → ∀ limit,
        values.read? a.name (fun s => Number.readNatural limit s.toList) =
            (if Number.decimal v.toList ≤ limit then .ok (some (Number.decimal v.toList))
              else .error .tooLarge) ∧
          values.read? a.name (fun s => Number.readInteger limit s.toList) =
            (if Number.decimal v.toList ≤ limit then .ok (some (Number.decimal v.toList : Int))
              else .error .tooLarge)) ∧
      (a.format = .type .float → ∃ whole fraction, v.toList = whole ++ '.' :: fraction ∧
        values.read? a.name (fun s => Number.Binary64.read s.toList) =
          .ok (some (.ofDecimal false (Number.decimal (whole ++ fraction))
            (-(fraction.length : Int)))))) ∧
    (values.get? i = none → ∀ {ε α : Type} (read : String → Except ε α),
      values.read? a.name read = .ok none) := by
  obtain ⟨hvalue, haccepts⟩ := captures?_value hc h ha
  refine ⟨fun v hv => ⟨fun hformat limit => ?_, fun hformat => ?_⟩, fun hnone ε α read => ?_⟩
  · have hdigits := haccepts v hv
    rw [hformat] at hdigits
    obtain ⟨hne, hdigits⟩ := hdigits
    simp only [Values.read?, hvalue, hv, Number.readNatural_digits hne hdigits,
      Number.readInteger_digits hne hdigits]
    constructor <;> (split <;> rfl)
  · have hpoint := haccepts v hv
    rw [hformat] at hpoint
    obtain ⟨whole, fraction, hpoint, hwhole, hne, hfraction⟩ := hpoint
    refine ⟨whole, fraction, hpoint, ?_⟩
    simp only [Values.read?, hvalue, hv, hpoint, Number.Binary64.read_point hwhole hne hfraction]
    rfl
  · rw [Values.read?, hvalue, hnone]

/-- A command that takes numbers. -/
def scale : Definition where
  name := "scale"
  arguments := [{ name := "count", format := .type .integer },
    { name := "factor", format := .type .float },
    { name := "times", format := .type .integer, optional := true }]

/-- Three hundred with zeros in front is above the limit of one byte, but not of two. -/
theorem captures?_read_scale :
    ∃ c : Command, c.toDefinition = scale ∧ (∀ a ∈ c.arguments, a.format.isCustom = false) ∧
      ∃ values, c.captures? "scale 00300 .5" = some values ∧
        values.read? "count" (fun s => Number.readNatural 255 s.toList) = .error .tooLarge ∧
        values.read? "count" (fun s => Number.readInteger 65535 s.toList) = .ok (some 300) ∧
        (∃ x, values.read? "factor" (fun s => Number.Binary64.read s.toList) = .ok (some x)) ∧
        values.read? "times" (fun s => Number.readNatural 255 s.toList) = .ok none := by
  have hc : ∀ a ∈ scale.arguments, a.format.isCustom = false := by decide
  have hcaptures : (scale.command rfl).captures? "scale 00300 .5" =
      some ⟨[("count", some "00300"), ("factor", some ".5"), ("times", none)]⟩ := by
    decide +kernel
  have hdecimal : Number.decimal "00300".toList = 300 := by decide
  have hcount := fun limit =>
    ((captures?_read hc hcaptures (i := 0) rfl).1 _ rfl).1 rfl limit
  have hfactor := ((captures?_read hc hcaptures (i := 1) rfl).1 _ rfl).2 rfl
  rw [hdecimal] at hcount
  refine ⟨_, rfl, hc, _, hcaptures, (hcount 255).1, (hcount 65535).2, ?_, ?_⟩
  · obtain ⟨_, _, -, hread⟩ := hfactor
    exact ⟨_, hread⟩
  · exact (captures?_read hc hcaptures (i := 2) rfl).2 rfl _

end Command

end ChatCommand
