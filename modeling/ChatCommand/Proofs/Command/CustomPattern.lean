import ChatCommand.Proofs.Command.OpenComment

/-!
# Custom patterns stay within their arguments

`Command.captures?_parses_unless_open`: whatever a command reports, some end of the text is an
invocation with these values, and a value of a custom pattern is matched by that pattern alone. This
needs that no custom pattern leaves a comment open. A comment hides the end of the group that the
pattern is put into, and the command goes on reading in the format of a later argument; so it may
report no value for an argument that is not optional (`captures?_lostArgument`).
-/

namespace ChatCommand

open Regex

theorem mem_of_leftmost {f : Cursor → List Cursor} {before : Option Char} {pos : Nat}
    {cs : List Char} {found : Found} (h : leftmost f before pos cs = some found) :
    ∃ pre s q, cs = pre ++ s.rest ∧ s.pos = pos + pre.length ∧ s.spans = [] ∧ q ∈ f s ∧
      found = q.found s.pos := by
  induction cs generalizing before pos with
  | nil =>
    obtain ⟨q, hq, rfl⟩ := Option.map_eq_some_iff.1 h
    exact ⟨[], _, q, rfl, rfl, rfl, List.mem_of_head? hq, rfl⟩
  | cons c cs ih =>
    rw [leftmost, Option.or_eq_some_iff] at h
    rcases h with h | ⟨-, h⟩
    · obtain ⟨q, hq, rfl⟩ := Option.map_eq_some_iff.1 h
      exact ⟨[], _, q, rfl, rfl, rfl, List.mem_of_head? hq, rfl⟩
    · obtain ⟨pre, s, q, hcs, hpos, hrest⟩ := ih h
      refine ⟨c :: pre, s, q, by rw [hcs, List.cons_append], ?_, hrest⟩
      rw [hpos, List.length_cons]
      omega

/-- In a way to spell the arguments, only optional ones have no value. -/
theorem Spells.required {as : List Argument} {vs : List (Option String)} {cs : List Char}
    (h : Spells as vs cs) {i : Nat} {a : Argument} (ha : as[i]? = some a)
    (hreq : a.optional = false) : ∃ v, vs[i]? = some (some v) := by
  induction h generalizing i with
  | nil => simp at ha
  | absent hopt _ ih =>
    cases i with
    | zero =>
      obtain rfl := Option.some.inj ha
      rw [hopt] at hreq
      cases hreq
    | succ i => exact ih ha
  | present _ _ _ ih =>
    cases i with
    | zero => exact ⟨_, rfl⟩
    | succ i => exact ih ha

namespace Command

variable {c : Command}

/-- If no custom pattern leaves a comment open, a command reports one value for each argument, and
one for every argument that is not optional; some end of the text is a name of the command and
behind it the values, each behind one blank; and each value is one of its format. -/
theorem captures?_parses (hc : ∀ a ∈ c.arguments, a.format.leavesComment = false)
    {text : String} {values : Values} (h : c.captures? text = some values) :
    values.entries.map (·.1) = c.arguments.map (·.name) ∧
      (∀ i a, c.arguments[i]? = some a → a.optional = false → (values.get? i).isSome) ∧
      ∃ before rest name vs, text.toList = before ++ rest ∧ c.Parses rest name vs ∧
        values = c.entries vs := by
  unfold captures? at h
  rw [find_eq hc] at h
  obtain ⟨found, hfound, rfl⟩ := Option.map_eq_some_iff.1 h
  obtain ⟨pre, s, q, htext, hpos, hspans, hq, rfl⟩ := mem_of_leftmost hfound
  have hat : s.At text.toList := by
    rw [Cursor.At, htext, hpos, Nat.zero_add, List.drop_left]
  obtain ⟨name, vs, ⟨hmem, tail, hrest, hsp⟩, hvalues⟩ := parses_of_ways hc hat hspans hq s.pos
  rw [hvalues]
  refine ⟨?_, fun i a ha hreq => ?_, pre, s.rest, name, vs, htext, ⟨hmem, tail, hrest, hsp⟩, rfl⟩
  · rw [Definition.entries, List.map_zipWith]
    refine List.ext_getElem (by simp [hsp.length_eq]) fun k _ _ => ?_
    simp
  · obtain ⟨v, hv⟩ := hsp.required ha hreq
    simp [Values.get?, Definition.entries, List.getElem?_zipWith, ha, hv]

/-- The values that a command reports are those of an invocation, unless a custom pattern leaves a
comment open. Then the matcher is the one without the text from the first such comment to the next
line break, and this text closes the group of the pattern and opens that of the next argument. -/
theorem captures?_parses_unless_open (c : Command) :
    ((∀ a ∈ c.arguments, a.format.leavesComment = false) →
      ∀ text values, c.captures? text = some values →
        values.entries.map (·.1) = c.arguments.map (·.name) ∧
          (∀ i a, c.arguments[i]? = some a → a.optional = false → (values.get? i).isSome) ∧
          ∃ before rest name vs, text.toList = before ++ rest ∧ c.Parses rest name vs ∧
            values = c.entries vs) ∧
      ∀ front a back source, c.arguments = front ++ a :: back →
        (∀ b ∈ front, b.format.leavesComment = false) → a.format = .pattern source →
        Regex.leavesComment source.toList = true →
          ∃ next later hidden rest, back = next :: later ∧ '\n' ∉ hidden ∧
            c.source.toList =
              c.before front a ++ source.toList ++ (')' :: Definition.closing a ++
                Definition.opening (front.length + 1) next ++ hidden ++ '\n' :: rest) ∧
            ∃ limit, parseChars (c.before front a ++ source.toList ++ '\n' :: rest) limit =
              .ok c.regex := by
  refine ⟨fun hc text values h => ?_, fun front a back source hargs hfront hsource hopen => ?_⟩
  · exact captures?_parses hc h
  · exact hidden_of_leavesComment hargs hfront hsource hopen

/-- Two custom patterns, of which the first one leaves a comment open. -/
def openComment : Definition where
  name := "n"
  arguments := [{ name := "a", format := .pattern "(?x)a #" },
    { name := "b", format := .pattern "\nb" }]

/-- A custom pattern with alternatives, a property, flags and a comment that it ends itself. -/
def closedComment : Definition where
  name := "pick"
  arguments := [
    { name := "what", format := .pattern "(?x) (?i:BLUE) | \\p{ Cherokee }+ # which one\n" },
    { name := "rest", format := .type .text, optional := true }]

/-- Where a comment is left open, the pattern of the next argument is read as a part of the group
before it: the group of that argument is lost, although the argument is not optional. -/
theorem captures?_lostArgument :
    ∃ c : Command, c.toDefinition = openComment ∧
      c.captures? "n ab" = some ⟨[("a", some "ab"), ("b", none)]⟩ ∧
      ¬ ∃ before rest name vs, "n ab".toList = before ++ rest ∧ c.Parses rest name vs ∧
        (⟨[("a", some "ab"), ("b", none)]⟩ : Values) = c.entries vs := by
  refine ⟨openComment.command rfl, rfl, by decide +kernel, ?_⟩
  rintro ⟨before, rest, name, vs, -, ⟨-, tail, -, hsp⟩, hvs⟩
  obtain ⟨v, hv⟩ := hsp.required (i := 1) rfl rfl
  have hlost := congrArg (·.get? 1) hvs
  simp [Values.get?, Definition.entries, List.getElem?_zipWith, hv, Definition.command,
    openComment] at hlost

theorem captures?_parses_unless_open_closedComment :
    ∃ c : Command, c.toDefinition = closedComment ∧
      (∀ a ∈ c.arguments, a.format.leavesComment = false) ∧
      c.captures? "please pick ᎣᏏᏲ now" = some ⟨[("what", some "ᎣᏏᏲ"), ("rest", some "now")]⟩ ∧
      ∃ before rest name vs, "please pick ᎣᏏᏲ now".toList = before ++ rest ∧
        c.Parses rest name vs ∧
          (⟨[("what", some "ᎣᏏᏲ"), ("rest", some "now")]⟩ : Values) = c.entries vs := by
  have hc : ∀ a ∈ closedComment.arguments, a.format.leavesComment = false := by
    decide +kernel
  have hmatcher : closedComment.matcher = .ok closedComment.pattern.item.regex := by
    decide +kernel
  have hcaptures : (closedComment.command hmatcher).captures? "please pick ᎣᏏᏲ now" =
      some ⟨[("what", some "ᎣᏏᏲ"), ("rest", some "now")]⟩ := by
    decide +kernel +revert
  exact ⟨_, rfl, hc, hcaptures, ((captures?_parses_unless_open _).1 hc _ _ hcaptures).2.2⟩

end Command

end ChatCommand
