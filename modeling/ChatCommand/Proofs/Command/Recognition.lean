import ChatCommand.Proofs.Command.Report

/-!
# Recognition of invocations

`Command.capturesAtStart?_first`: a command without custom patterns takes a text as an invocation
exactly if the text has a parse, and of all parses it reports the first one.
-/

namespace ChatCommand

open Regex

/-- A match that a search finds starts where the search does, or later. -/
theorem start_of_leftmost {f : Cursor → List Cursor} {before : Option Char} {pos : Nat}
    {cs : List Char} {found : Found} (h : leftmost f before pos cs = some found) :
    pos ≤ found.span.start := by
  induction cs generalizing before pos with
  | nil =>
    obtain ⟨q, -, rfl⟩ := Option.map_eq_some_iff.1 h
    exact Nat.le_refl pos
  | cons c cs ih =>
    rw [leftmost, Option.or_eq_some_iff] at h
    rcases h with h | ⟨-, h⟩
    · obtain ⟨q, -, rfl⟩ := Option.map_eq_some_iff.1 h
      exact Nat.le_refl pos
    · exact Nat.le_of_succ_le (ih h)

/-- A match that is found at the start of the text is the preferred one there. -/
theorem filter_leftmost (f : Cursor → List Cursor) (cs : List Char) :
    (leftmost f none 0 cs).filter (·.span.start == 0) =
      (f { rest := cs }).head?.map (·.found 0) := by
  cases cs with
  | nil =>
    rw [leftmost]
    cases (f { rest := [] }).head? <;> rfl
  | cons d ds =>
    rw [leftmost]
    cases (f { rest := d :: ds }).head? with
    | some q => rfl
    | none =>
      rw [Option.map_none, Option.none_or, Option.filter_eq_none_iff]
      intro found hfound
      have := start_of_leftmost hfound
      simp only [beq_iff_eq]
      omega

namespace Command

variable {c : Command}

theorem capturesAtStart?_eq_filter (c : Command) (text : String) :
    c.capturesAtStart? text =
      ((c.regex.find text).filter (·.span.start == 0)).map (c.valuesOf text.toList) := by
  unfold capturesAtStart?
  cases c.regex.find text with
  | none => rfl
  | some found => by_cases h : found.span.start = 0 <;> simp [Option.filter, h]

/-- The values at the start of a text are those of the preferred match of the expression there. -/
theorem capturesAtStart?_eq_ways (c : Command) (text : String) :
    c.capturesAtStart? text =
      (Regex.ways c.regex { rest := text.toList }).head?.map fun q =>
        c.valuesOf text.toList (q.found 0) := by
  rw [capturesAtStart?_eq_filter, find_eq_leftmost, filter_leftmost, Option.map_map]
  rfl

/-- They are those of the preferred match of the tree. -/
theorem capturesAtStart?_eq (h : ∀ a ∈ c.arguments, a.format.leavesComment = false)
    (text : String) :
    c.capturesAtStart? text =
      (c.pattern.ways Pattern.fragment { rest := text.toList }).head?.map fun q =>
        c.valuesOf text.toList (q.found 0) := by
  rw [capturesAtStart?_eq_filter, find_eq h, filter_leftmost, Option.map_map]
  rfl

/-- A text that a command takes as an invocation can be parsed as one, with these values. -/
theorem capturesAtStart?_parses (hc : ∀ a ∈ c.arguments, a.format.leavesComment = false)
    {text : String} {values : Values} (h : c.capturesAtStart? text = some values) :
    ∃ name vs, c.Parses text.toList name vs ∧ values = c.entries vs := by
  rw [capturesAtStart?_eq hc] at h
  obtain ⟨q, hq, rfl⟩ := Option.map_eq_some_iff.1 h
  have hat : Cursor.At { rest := text.toList } text.toList := rfl
  exact parses_of_ways hc hat rfl (List.mem_of_head? hq) 0

/-- Without custom patterns, the preferred match at the start is the run of the first parse. -/
theorem rel_firstParse (hc : ∀ a ∈ c.arguments, a.format.isCustom = false) (cs : List Char) :
    Option.Rel
      (fun p q => ∃ s : Cursor, s.At cs ∧ s.spans = [] ∧
        Run (Definition.captureNames 0 c.arguments) 0 c.arguments s p.2 q)
      (c.firstParse cs) (c.pattern.ways Pattern.fragment { rest := cs }).head? := by
  rw [ways_pattern, List.head?_flatMap, Definition.firstParse]
  refine rel_findSome? fun name _ => ?_
  have hrel := rel_head (Definition.captureNames 0 c.arguments) (i := 0) hc
    (({ rest := cs } : Cursor).skip name.toList.length)
  exact rel_map (fun vs q hrun => ⟨_, by simp [Cursor.At], rfl, hrun⟩) hrel

/-- A command without custom patterns takes a text as an invocation exactly if it can be parsed as
one, and reports the values of the parse that comes before all others. -/
theorem capturesAtStart?_first (hc : ∀ a ∈ c.arguments, a.format.isCustom = false)
    (text : String) :
    (c.capturesAtStart? text = none ↔ ∀ name vs, ¬ c.Parses text.toList name vs) ∧
      ∀ values, c.capturesAtStart? text = some values →
        ∃ name vs, c.Parses text.toList name vs ∧ values = c.entries vs ∧
          ∀ name' ws, c.Parses text.toList name' ws →
            name' = name ∧ ws = vs ∨ c.Precedes name vs name' ws := by
  have hcomment : ∀ a ∈ c.arguments, a.format.leavesComment = false := by
    intro a ha
    have := hc a ha
    cases hf : a.format with
    | pattern source => simp [hf, Format.isCustom] at this
    | _ => rfl
  rw [capturesAtStart?_eq hcomment]
  have hrel := rel_firstParse hc text.toList
  generalize hfirst : c.firstParse text.toList = p,
    (c.pattern.ways Pattern.fragment { rest := text.toList }).head? = q at hrel
  cases hrel with
  | none =>
    refine ⟨⟨fun _ name vs hp => ?_, fun _ => rfl⟩, fun values h => nomatch h⟩
    have := Definition.isSome_firstParse hc hp
    simp [hfirst] at this
  | @some p q hrun =>
    obtain ⟨s, hat, hspans, hrun⟩ := hrun
    obtain ⟨hp, hmin⟩ := Definition.firstParse_first hc hfirst
    refine ⟨⟨(nomatch ·), fun h => absurd hp (h _ _)⟩, fun values h => ?_⟩
    obtain rfl := Option.some.inj h
    exact ⟨p.1, p.2, hp, valuesOf_run hrun hat hspans 0, hmin⟩

/-- Two optional arguments, each of which could take a number. -/
def give : Definition where
  name := "give"
  aliases := ["g"]
  arguments := [{ name := "item", format := .type .string, optional := true },
    { name := "count", format := .type .integer, optional := true }]

theorem capturesAtStart?_first_give :
    ∃ c : Command, c.toDefinition = give ∧ (∀ a ∈ c.arguments, a.format.isCustom = false) ∧
      c.capturesAtStart? "g 5" = some ⟨[("item", some "5"), ("count", none)]⟩ ∧
      ∃ name vs, c.Parses "g 5".toList name vs ∧
        (⟨[("item", some "5"), ("count", none)]⟩ : Values) = c.entries vs ∧
        ∀ name' ws, c.Parses "g 5".toList name' ws →
          name' = name ∧ ws = vs ∨ c.Precedes name vs name' ws := by
  have hc : ∀ a ∈ give.arguments, a.format.isCustom = false := by decide
  have hcaptures : (give.command rfl).capturesAtStart? "g 5" =
      some ⟨[("item", some "5"), ("count", none)]⟩ := by
    decide +kernel
  exact ⟨_, rfl, hc, hcaptures, (capturesAtStart?_first hc "g 5").2 _ hcaptures⟩

end Command

end ChatCommand
