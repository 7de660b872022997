import ChatCommand.Bot.Commands
import ChatCommand.Proofs.Command.Recognition
import ChatCommand.Proofs.Number.Decimal

/-!
# Dice

Dice are two numbers with a letter between them, the number of dice and that of their sides. A text
asks for dice (`Dice.Asks`) exactly if the command that rolls them takes it as an invocation, and
what stands for the dice in the text is then the value of its argument (`Dice.captures_of_asks`,
`Dice.asks_of_captures`). So the letter is never missing where the handler looks for it, and the
only fault that it can meet is a number above the limit (`Dice.answer_roll`).
-/

namespace ChatCommand

/-! ## Matches and what they leave -/

namespace Regex

variable {s : Cursor} {tail : List Char}

theorem exists_ways_single {c : Char} :
    (∃ q ∈ ways (.char (.single c)) s, q.rest = tail) ↔ s.rest = c :: tail := by
  cases hs : s.rest with
  | nil => simp [ways_char_nil hs]
  | cons d ds =>
    rw [ways_char_cons hs, single_mem]
    by_cases hd : d = c
    · simp [hd]
    · simp [hd]

theorem exists_ways_digits :
    (∃ q ∈ ways (.plus true (.char .asciiDigit)) s, q.rest = tail) ↔
      ∃ v, ValueType.integer.Accepts v ∧ s.rest = v ++ tail := by
  simp only [ways_plusChar, Cursor.takes, asciiDigit_mem, List.mem_map, List.mem_filter,
    List.mem_reverse, List.mem_range, Bool.and_eq_true, List.all_eq_true, Bool.not_eq_true',
    List.isEmpty_eq_false_iff]
  constructor
  · rintro ⟨q, ⟨n, ⟨-, hne, hv⟩, rfl⟩, rfl⟩
    exact ⟨s.rest.take n, ⟨hne, hv⟩, (List.take_append_drop n s.rest).symm⟩
  · rintro ⟨v, ⟨hne, hv⟩, hs⟩
    have htake : s.rest.take v.length = v := by rw [hs, List.take_left]
    refine ⟨s.skip v.length, ⟨v.length, ⟨?_, ?_, ?_⟩, rfl⟩, ?_⟩
    · rw [hs, List.length_append]
      omega
    · rwa [htake]
    · rwa [htake]
    · rw [Cursor.skip_rest, hs, List.drop_left]

end Regex

open Regex

/-- A command with one value takes a text where a name, a blank and a match of the value make up the
whole text. -/
theorem Command.isSome_capturesAtStart? {c : Command}
    (hc : ∀ a ∈ c.arguments, a.format.leavesComment = false) {a : Argument}
    (ha : c.arguments = [a]) {name : String} (hname : name ∈ c.names) {b : Char}
    (hb : Text.isBlank b = true) {cs : List Char} {text : String}
    (htext : text.toList = name.toList ++ b :: cs)
    (hcs : ∀ s : Cursor, s.rest = cs →
      ∃ q ∈ a.format.toPattern.ways Pattern.fragment s, q.rest = []) :
    (c.capturesAtStart? text).isSome := by
  have hpre : name.toList <+: text.toList := htext ▸ List.prefix_append _ _
  let s : Cursor := ({ rest := text.toList } : Cursor).skip name.toList.length
  have hs : s.rest = b :: cs := by
    rw [Cursor.skip_rest, htext, List.drop_left]
  have hskip : (s.skip 1).rest = cs := by
    rw [Cursor.skip_rest, hs, List.drop_one, List.tail_cons]
  obtain ⟨q, hq, hend⟩ := hcs (s.skip 1) hskip
  have hvalue : q.note (Definition.captureName 0) (s.pos + 1) ∈ a.ways 0 s := by
    rw [Argument.ways, if_pos (by simp [hs, hb])]
    exact List.mem_map_of_mem hq
  have hways : c.pattern.ways Pattern.fragment { rest := text.toList } ≠ [] := by
    refine List.ne_nil_of_mem (a := q.note (Definition.captureName 0) (s.pos + 1)) ?_
    rw [ways_pattern]
    refine List.mem_flatMap.2 ⟨name, List.mem_filter.2 ⟨hname, decide_eq_true hpre⟩, ?_⟩
    rw [ha, Definition.argumentPatterns, List.append_assoc, waysAll_argumentPattern]
    refine List.mem_append_left _ (List.mem_flatMap.2 ⟨_, hvalue, ?_⟩)
    rw [Definition.argumentPatterns, List.nil_append, Pattern.waysAll_singleton, Pattern.ways,
      if_pos (by rw [Cursor.note_rest, hend])]
    exact List.mem_singleton_self _
  rw [capturesAtStart?_eq hc, Option.isSome_map, List.isSome_head?]
  simpa using hways

namespace Bot.Dice

/-! ## Recognition -/

/-- How dice are written. -/
def source : String := "[0-9]+d[0-9]+"

/-- The definition of the command that rolls dice. -/
def definition : Definition where
  name := "roll"
  arguments := [{ name := "dice", format := .pattern source }]
  summary := some "Rolls dice written as 2d6"

/-- The text asks for `x` dice with `y` sides. -/
inductive Asks : String → String → String → Prop
  | roll {w : Char} {x y : String} (hw : Text.isBlank w = true)
      (hx : ValueType.integer.Accepts x.toList) (hy : ValueType.integer.Accepts y.toList) :
      Asks ("roll" ++ String.singleton w ++ (x ++ "d" ++ y)) x y

theorem itemOf_source :
    (itemOf source.toList).regex =
      .seqAll [.plus true (.char .asciiDigit), .char (.single 'd'),
        .plus true (.char .asciiDigit)] :=
  rfl

theorem exists_fragment {s : Cursor} {tail : List Char} :
    (∃ q ∈ Pattern.fragment source s, q.rest = tail) ↔
      ∃ x y, ValueType.integer.Accepts x ∧ ValueType.integer.Accepts y ∧
        s.rest = x ++ 'd' :: (y ++ tail) := by
  simp only [Pattern.fragment, itemOf_source, ways_seqAll, waysAll_cons, waysAll_nil,
    List.mem_flatMap, List.mem_singleton, exists_eq_right']
  constructor
  · rintro ⟨q, ⟨u, hu, t, ht, hq⟩, hrest⟩
    obtain ⟨x, hx, hs⟩ := exists_ways_digits.1 ⟨u, hu, rfl⟩
    have hletter := exists_ways_single.1 ⟨t, ht, rfl⟩
    obtain ⟨y, hy, htrest⟩ := exists_ways_digits.1 ⟨q, hq, hrest⟩
    exact ⟨x, y, hx, hy, by rw [hs, hletter, htrest]⟩
  · rintro ⟨x, y, hx, hy, hs⟩
    obtain ⟨u, hu, hurest⟩ := exists_ways_digits.2 ⟨x, hx, hs⟩
    obtain ⟨t, ht, htrest⟩ := exists_ways_single.2 hurest
    obtain ⟨q, hq, hrest⟩ := exists_ways_digits.2 ⟨y, hy, htrest⟩
    exact ⟨q, ⟨u, hu, t, ht, hq⟩, hrest⟩

/-- The values of the pattern are numbers with the letter between them. -/
theorem accepts_pattern {v : String} :
    (Format.pattern source).Accepts v ↔
      ∃ x y : String, ValueType.integer.Accepts x.toList ∧ ValueType.integer.Accepts y.toList ∧
        v = x ++ "d" ++ y := by
  have hmatch : (Format.pattern source).Accepts v ↔
      ∃ q ∈ Pattern.fragment source { rest := v.toList }, q.rest = [] := by
    rw [Format.Accepts, Pattern.fragment, ← matchesAll_iff]
    constructor
    · rintro ⟨_, r, hr, h⟩
      rwa [itemOf_of_parse hr]
    · exact fun h => ⟨roomLimit, _, rfl, h⟩
  rw [hmatch, exists_fragment]
  constructor
  · rintro ⟨x, y, hx, hy, hv⟩
    refine ⟨String.ofList x, String.ofList y, by rwa [String.toList_ofList],
      by rwa [String.toList_ofList], ?_⟩
    have hv : v.toList = x ++ 'd' :: (y ++ []) := hv
    rw [← String.toList_inj, hv]
    simp [String.toList_append]
  · rintro ⟨x, y, hx, hy, rfl⟩
    exact ⟨x.toList, y.toList, hx, hy, by simp [String.toList_append]⟩

/-- The dice are all that is behind the blank. -/
theorem Asks.unique {text x y x' y' : String} (h : Asks text x y) (h' : Asks text x' y') :
    x ++ "d" ++ y = x' ++ "d" ++ y' := by
  generalize htext : text = text' at h'
  cases h
  cases h'
  have hchars := congrArg String.toList htext
  simp only [String.toList_append, String.toList_singleton, List.append_assoc,
    List.append_cancel_left_eq, List.singleton_append, List.cons.injEq] at hchars
  rw [← String.toList_inj]
  simpa [String.toList_append] using hchars.2

variable {c : Command} {text x y : String}

theorem leavesComment_arguments (hc : c.toDefinition = definition) :
    ∀ a ∈ c.arguments, a.format.leavesComment = false := by
  rw [hc]
  decide

/-- A text that the command takes asks for dice. -/
theorem asks_of_captures (hc : c.toDefinition = definition) {values : Values}
    (h : c.capturesAtStart? text = some values) :
    ∃ x y, Asks text x y ∧ values = ⟨[("dice", some (x ++ "d" ++ y))]⟩ := by
  obtain ⟨name, vs, ⟨hname, tail, htext, hspells⟩, rfl⟩ :=
    Command.capturesAtStart?_parses (leavesComment_arguments hc) h
  rw [hc] at hname hspells ⊢
  obtain rfl : name = "roll" := by simpa [definition, Definition.names] using hname
  cases hspells with
  | absent hopt _ => cases hopt
  | @present _ _ b v _ _ hb hv hrest =>
    cases hrest
    obtain ⟨x, y, hx, hy, rfl⟩ := accepts_pattern.1 hv
    have hwhole : text = "roll" ++ String.singleton b ++ (x ++ "d" ++ y) := by
      rw [← String.toList_inj, htext]
      simp [String.toList_append]
    exact ⟨x, y, hwhole ▸ .roll hb hx hy, rfl⟩

/-- A text that asks for dice is taken by the command, with the dice for their value. -/
theorem captures_of_asks (hc : c.toDefinition = definition) (h : Asks text x y) :
    c.capturesAtStart? text = some ⟨[("dice", some (x ++ "d" ++ y))]⟩ := by
  have hsome : (c.capturesAtStart? text).isSome := by
    cases h with
    | @roll w x y hw hx hy =>
      have hname : "roll" ∈ c.names := by
        rw [hc]
        exact List.mem_cons_self
      have htext : ("roll" ++ String.singleton w ++ (x ++ "d" ++ y)).toList =
          "roll".toList ++ w :: (x.toList ++ 'd' :: y.toList) := by
        simp [String.toList_append]
      refine Command.isSome_capturesAtStart? (leavesComment_arguments hc)
        (congrArg (·.arguments) hc) hname hw htext fun s hs => ?_
      exact exists_fragment.2 ⟨x.toList, y.toList, hx, hy, by rw [hs, List.append_nil]⟩
  obtain ⟨values, hvalues⟩ := Option.isSome_iff_exists.1 hsome
  obtain ⟨x', y', h', rfl⟩ := asks_of_captures hc hvalues
  rw [hvalues, h.unique h']

/-! ## Answers -/

/-- What is said where there are no dice or no sides. -/
def refusal (sender x y : String) : String :=
  sender ++ " can't roll " ++ (x ++ "d" ++ y)

/-- What is said where the sum of the dice is between `low` and `high`. -/
def range (sender x y : String) (low high : Nat) : String :=
  sender ++ " rolls " ++ (x ++ "d" ++ y) ++ ": somewhere between " ++ toString low ++ " and " ++
    toString high

theorem refusal_ne_range (sender x y : String) (low high : Nat) :
    refusal sender x y ≠ range sender x y low high := by
  intro h
  have hchars := congrArg String.toList h
  simp [refusal, range, String.toList_append] at hchars

/-- The text about the dice. -/
def answer (sender x y : String) : String :=
  if Number.decimal x.toList = 0 ∨ Number.decimal y.toList = 0 then refusal sender x y
  else
    range sender x y (Number.decimal x.toList)
      (min (Number.decimal x.toList * Number.decimal y.toList) maxPoints)

theorem answer_eq_refusal {sender x y : String} :
    answer sender x y = refusal sender x y ↔
      Number.decimal x.toList = 0 ∨ Number.decimal y.toList = 0 := by
  unfold answer
  split
  · exact iff_of_true rfl ‹_›
  · exact iff_of_false (refusal_ne_range sender x y _ _).symm ‹_›

theorem answer_eq_range {sender x y : String} :
    answer sender x y =
        range sender x y (Number.decimal x.toList)
          (min (Number.decimal x.toList * Number.decimal y.toList) maxPoints) ↔
      Number.decimal x.toList ≠ 0 ∧ Number.decimal y.toList ≠ 0 := by
  rw [← not_or]
  unfold answer
  split
  · exact iff_of_false (refusal_ne_range sender x y _ _) (not_not_intro ‹_›)
  · exact iff_of_true rfl ‹_›

theorem readNumber_digits {limit : Nat} (hx : ValueType.integer.Accepts x.toList) :
    readNumber limit x =
      if Number.decimal x.toList ≤ limit then .ok (Number.decimal x.toList)
      else .error Number.IntegerFault.tooLarge.message := by
  rw [readNumber, Number.readNatural_digits hx.1 hx.2]
  split <;> rfl

/-- Dice are read as their two numbers, unless one of them is too large. -/
theorem readDice_eq (hx : ValueType.integer.Accepts x.toList)
    (hy : ValueType.integer.Accepts y.toList) :
    readDice (x ++ "d" ++ y) =
      if Number.decimal x.toList ≤ maxPoints ∧ Number.decimal y.toList ≤ maxPoints then
        .ok (Number.decimal x.toList, Number.decimal y.toList)
      else .error Number.IntegerFault.tooLarge.message := by
  have hletter : ∀ c ∈ x.toList, (c != 'd') = true := by
    intro c hc
    rw [bne_iff_ne]
    rintro rfl
    exact absurd (hx.2 _ hc) (by decide)
  have hchars : (x ++ "d" ++ y).toList = x.toList ++ 'd' :: y.toList := by
    simp [String.toList_append]
  have htake : (x.toList ++ 'd' :: y.toList).takeWhile (· != 'd') = x.toList := by
    rw [List.takeWhile_append_of_pos hletter, List.takeWhile_cons_of_neg (by decide),
      List.append_nil]
  have hdrop : (x.toList ++ 'd' :: y.toList).dropWhile (· != 'd') = 'd' :: y.toList := by
    rw [List.dropWhile_append_of_pos hletter, List.dropWhile_cons_of_neg (by decide)]
  simp only [readDice, hchars, htake, hdrop, String.ofList_toList, readNumber_digits hx,
    readNumber_digits hy]
  by_cases hcount : Number.decimal x.toList ≤ maxPoints
  · by_cases hsides : Number.decimal y.toList ≤ maxPoints
    · simp [hcount, hsides, bind, Except.bind, pure, Except.pure]
    · simp [hcount, hsides, bind, Except.bind]
  · simp [hcount, bind, Except.bind]

/-- The handler answers with one line, unless a number is too large. -/
theorem answer_roll {i : Invocation} (hdice : i.values.value? "dice" = some (x ++ "d" ++ y))
    (hx : ValueType.integer.Accepts x.toList) (hy : ValueType.integer.Accepts y.toList) :
    roll.answer i =
      if Number.decimal x.toList ≤ maxPoints ∧ Number.decimal y.toList ≤ maxPoints then
        .ok [i.reply (answer i.sender x y)]
      else .error Number.IntegerFault.tooLarge.message := by
  simp only [roll, Handler.line?, hdice, Option.getD_some, readDice_eq hx hy]
  split
  · rw [answer]
    by_cases hzero : Number.decimal x.toList = 0 ∨ Number.decimal y.toList = 0
    · simp only [bind, Except.bind, hzero, if_true]
      rfl
    · simp only [bind, Except.bind, hzero, if_false]
      rfl
  · rfl

end Bot.Dice

end ChatCommand
