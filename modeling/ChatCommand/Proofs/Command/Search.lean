import ChatCommand.Proofs.Command.Invocation
import Mathlib.Data.List.Infix

/-!
# Search for an invocation

A search looks for an invocation at one place of a text after another. What is found at a place does
not depend on the text in front of it (`Command.values_ways`), so a search comes to the longest end
of the text that is an invocation by itself and reports its values (`Command.captures?_eq_some`). If
any match starts at the beginning of the text, this is the text as a whole (`Command.ways_ne_nil`).
-/

namespace ChatCommand

open Regex

/-! ## The longest end of a text -/

/-- The first of all ends of a list at which there is something is the longest one. -/
theorem findSome?_tails_eq_some {α β : Type} {f : List α → Option β} {cs : List α} {v : β} :
    cs.tails.findSome? f = some v ↔
      ∃ back, back <:+ cs ∧ f back = some v ∧
        ∀ longer, longer <:+ cs → back.length < longer.length → f longer = none := by
  induction cs with
  | nil =>
    rw [List.tails, List.findSome?_singleton]
    constructor
    · intro h
      refine ⟨[], List.suffix_rfl, h, fun longer hl hlt => ?_⟩
      obtain rfl := List.suffix_nil.1 hl
      exact absurd hlt (Nat.lt_irrefl _)
    · rintro ⟨back, hback, h, -⟩
      obtain rfl := List.suffix_nil.1 hback
      exact h
  | cons c cs ih =>
    rw [List.tails_cons, List.findSome?_cons]
    cases hf : f (c :: cs) with
    | some w =>
      constructor
      · rintro ⟨⟩
        refine ⟨c :: cs, List.suffix_rfl, hf, fun longer hl hlt => ?_⟩
        exact absurd hl.length_le (Nat.not_le_of_lt hlt)
      · rintro ⟨back, hback, h, hlongest⟩
        rcases List.suffix_cons_iff.1 hback with rfl | hback
        · exact hf.symm.trans h
        · have hnone := hlongest (c :: cs) List.suffix_rfl (Nat.lt_succ_of_le hback.length_le)
          cases hf.symm.trans hnone
    | none =>
      refine ih.trans (exists_congr fun back => ?_)
      constructor
      · rintro ⟨hback, h, hlongest⟩
        refine ⟨hback.trans (List.suffix_cons c cs), h, fun longer hl hlt => ?_⟩
        rcases List.suffix_cons_iff.1 hl with rfl | hl
        · exact hf
        · exact hlongest longer hl hlt
      · rintro ⟨hback, h, hlongest⟩
        refine ⟨?_, h, fun longer hl => hlongest longer (hl.trans (List.suffix_cons c cs))⟩
        rcases List.suffix_cons_iff.1 hback with rfl | hback
        · cases hf.symm.trans h
        · exact hback

namespace Command

variable {c : Command}

/-! ## One place after another -/

/-- What a command makes of a match at a place of a text is what it makes of the text from there. -/
theorem values_ways (hc : ∀ a ∈ c.arguments, a.format.leavesComment = false) (front cs : List Char)
    (before : Option Char) :
    (c.pattern.ways Pattern.fragment
        { before, pos := front.length, rest := cs }).head?.map
        (fun q => c.valuesOf (front ++ cs) (q.found front.length)) =
      c.capturesAtStart? (String.ofList cs) := by
  rw [capturesAtStart?_eq hc, String.toList_ofList, ways_pattern, ways_pattern, List.head?_flatMap,
    List.head?_flatMap, List.map_findSome?, List.map_findSome?]
  congr 1
  funext name
  have hskip : ({ before, pos := front.length, rest := cs } : Cursor).skip name.toList.length =
      { (({ rest := cs } : Cursor).skip name.toList.length).shift front.length with
        before := (cs.take name.toList.length).getLast?.or before } := by
    simp [Cursor.skip, Cursor.shift, Nat.add_comm]
  rw [Function.comp_apply, hskip]
  exact values_shift front cs _ _ front.length

/-- A search goes through the ends of the text, longer ones first. -/
theorem captures?_eq_findSome?_tails (hc : ∀ a ∈ c.arguments, a.format.leavesComment = false)
    (text : String) :
    c.captures? text =
      text.toList.tails.findSome? fun cs => c.capturesAtStart? (String.ofList cs) := by
  -- The induction is on the text behind a place; `front` is what the search has passed.
  have hgo : ∀ (cs front : List Char) (before : Option Char),
      (leftmost (c.pattern.ways Pattern.fragment) before front.length cs).map
          (c.valuesOf (front ++ cs)) =
        cs.tails.findSome? fun cs => c.capturesAtStart? (String.ofList cs) := by
    intro cs
    induction cs with
    | nil =>
      intro front before
      rw [leftmost, Option.map_map, List.tails, List.findSome?_singleton]
      exact values_ways hc front [] before
    | cons d cs ih =>
      intro front before
      have hnext := ih (front ++ [d]) (some d)
      rw [List.length_append, List.length_singleton, List.append_assoc,
        List.singleton_append] at hnext
      rw [leftmost, Option.map_or, Option.map_map, hnext, List.tails_cons, List.findSome?_cons,
        ← values_ways hc front (d :: cs) before]
      cases (c.pattern.ways Pattern.fragment _).head? <;> rfl
  rw [captures?, find_eq hc]
  exact hgo text.toList [] none

/-! ## What a search finds -/

/-- `back` is the longest end of the text that the command takes as an invocation, and these are its
values. -/
structure LongestEnd (c : Command) (text back : String) (values : Values) : Prop where
  suffix : back.toList <:+ text.toList
  accepts : c.capturesAtStart? back = some values
  longest : ∀ longer : String, longer.toList <:+ text.toList →
    back.toList.length < longer.toList.length → c.capturesAtStart? longer = none

theorem captures?_eq_some (hc : ∀ a ∈ c.arguments, a.format.leavesComment = false) {text : String}
    {values : Values} :
    c.captures? text = some values ↔ ∃ back, c.LongestEnd text back values := by
  rw [captures?_eq_findSome?_tails hc, findSome?_tails_eq_some]
  constructor
  · rintro ⟨back, hback, h, hlongest⟩
    refine ⟨String.ofList back, by rwa [String.toList_ofList], h, fun longer hl hlt => ?_⟩
    rw [String.toList_ofList] at hlt
    simpa using hlongest longer.toList hl hlt
  · rintro ⟨back, hback, h, hlongest⟩
    refine ⟨back.toList, hback, by simpa using h, fun longer hl hlt => ?_⟩
    exact hlongest (String.ofList longer) (by simpa using hl) (by simpa using hlt)

theorem captures?_eq_none (hc : ∀ a ∈ c.arguments, a.format.leavesComment = false) {text : String} :
    c.captures? text = none ↔
      ∀ back : String, back.toList <:+ text.toList → c.capturesAtStart? back = none := by
  rw [captures?_eq_findSome?_tails hc, List.findSome?_eq_none_iff]
  constructor
  · intro h back hback
    simpa using h back.toList ((List.mem_tails _ _).2 hback)
  · intro h back hback
    exact h (String.ofList back) (by simpa using (List.mem_tails _ _).1 hback)

/-- If any match starts at the beginning of the text, then a search does not look any further. -/
theorem ways_ne_nil (c : Command) (text : String) :
    Regex.ways c.regex { rest := text.toList } ≠ [] ↔
      ∃ values, c.capturesAtStart? text = some values ∧ c.captures? text = some values := by
  rw [ne_eq, ← List.head?_eq_none_iff, ← ne_eq, Option.ne_none_iff_exists']
  have hstart := capturesAtStart?_eq_ways c text
  constructor
  · rintro ⟨q, hq⟩
    rw [hq, Option.map_some] at hstart
    exact ⟨_, hstart, captures?_of_capturesAtStart? hstart⟩
  · rintro ⟨values, hvalues, -⟩
    obtain ⟨q, hq, -⟩ := Option.map_eq_some_iff.1 (hstart.symm.trans hvalues)
    exact ⟨q, hq⟩

end Command

end ChatCommand
