import ChatCommand.Proofs.Command.Recognition
import Mathlib.Algebra.GroupWithZero.Nat
import Mathlib.Algebra.Order.BigOperators.Group.List
import Mathlib.Algebra.Order.Group.Nat

/-!
# The names of a command stand for each other

A command may have several names. Behind any of them, a text that is empty or begins with a blank
should give the arguments the same values. `Command.capturesAtStart?_names_iff` says when this is
so: exactly if no name is another one with a blank and more text behind it, or if the command takes
no text at all. Otherwise the shorter name is found in front of the longer one, whose tail is read
as the text of arguments (`capturesAtStart?_names_differ`).

The reason is `Command.capturesAtStart?_append`: where the names are apart, what a command reports
behind one of its names can be said without the name.
-/

namespace ChatCommand

open Regex

namespace Definition

/-- No name is another one with a blank and more text behind it. -/
def NamesApart (d : Definition) : Prop :=
  ∀ n ∈ d.names, ∀ m ∈ d.names, ∀ b tail, Text.isBlank b = true → m.toList ≠ n.toList ++ b :: tail

variable {d : Definition}

/-- Names without blanks are apart. -/
theorem namesApart_of_no_blank (h : ∀ n ∈ d.names, n.toList.any Text.isBlank = false) :
    d.NamesApart := by
  intro n _ m hm b tail hb heq
  have hno := List.any_eq_false.1 (h m hm) b (by rw [heq]; simp)
  exact hno hb

/-- Where names are apart, a text is read behind one of them only. -/
theorem NamesApart.eq (hd : d.NamesApart) {n m : String} (hn : n ∈ d.names) (hm : m ∈ d.names)
    {cs ds : List Char} (hcs : ∀ b ∈ cs.head?, Text.isBlank b = true)
    (hds : ∀ b ∈ ds.head?, Text.isBlank b = true) (h : n.toList ++ cs = m.toList ++ ds) :
    n = m := by
  rcases List.append_eq_append_iff.1 h with ⟨as, hm', rfl⟩ | ⟨as, hn', rfl⟩
  · cases as with
    | nil => exact (String.toList_inj.1 (by simpa using hm')).symm
    | cons b as => exact absurd hm' (hd n hn m hm b as (hcs b rfl))
  · cases as with
    | nil => exact String.toList_inj.1 (by simpa using hn')
    | cons b as => exact absurd hn' (hd m hm n hn b as (hds b rfl))

end Definition

/-! ## Matches of the arguments -/

/-- The cursors at the end of the text at which matches of the arguments can end. -/
def Definition.argumentWays (d : Definition) (s : Cursor) : List Cursor :=
  Pattern.waysAll Pattern.fragment (Definition.argumentPatterns 0 d.arguments ++ [.textEnd]) s

/-- The first thing that the arguments match is a blank or the end of the text, so the character
before it does not count. -/
theorem spans_argumentPatterns (as : List Argument) (i : Nat) (s : Cursor) (b : Option Char) :
    (Pattern.waysAll Pattern.fragment (Definition.argumentPatterns i as ++ [.textEnd])
        { s with before := b }).map (·.spans) =
      (Pattern.waysAll Pattern.fragment
        (Definition.argumentPatterns i as ++ [.textEnd]) s).map (·.spans) := by
  induction as generalizing i with
  | nil =>
    rw [Definition.argumentPatterns, List.nil_append, Pattern.waysAll_singleton,
      Pattern.waysAll_singleton, Pattern.ways, Pattern.ways]
    split <;> rfl
  | cons a as ih =>
    have hpresent : a.ways i { s with before := b } = a.ways i s := by
      unfold Argument.ways
      cases hs : s.rest with
      | nil => rfl
      | cons c cs => simp [Cursor.skip, hs]
    rw [Definition.argumentPatterns, List.append_assoc, waysAll_argumentPattern,
      waysAll_argumentPattern, hpresent, List.map_append, List.map_append]
    congr 1
    split
    · exact ih (i + 1)
    · rfl

theorem argumentWays_shift (d : Definition) (n : Nat) (s : Cursor) :
    d.argumentWays (s.shift n) = (d.argumentWays s).map (Cursor.shift n) :=
  Pattern.waysAll_map (Cursor.uniform_shift n)
    (fun source s => ways_map (Cursor.uniform_shift n) (itemOf source.toList).regex s) _ s

theorem Regex.lookup_shift (n : Nat) (name : String) (spans : List (String × Span)) :
    (spans.map fun e => (e.1, (⟨e.2.start + n, e.2.stop + n⟩ : Span))).lookup name =
      (spans.lookup name).map fun l => ⟨l.start + n, l.stop + n⟩ := by
  induction spans with
  | nil => rfl
  | cons e spans ih =>
    rw [List.map_cons, List.lookup_cons, List.lookup_cons, ih]
    cases name == e.1 <;> rfl

theorem Regex.Span.chars_shift (l : Span) (front text : List Char) :
    Span.chars ⟨l.start + front.length, l.stop + front.length⟩ (front ++ text) = l.chars text := by
  have hdrop : (front ++ text).drop (l.start + front.length) = text.drop l.start := by
    rw [Nat.add_comm, ← List.drop_drop, List.drop_left]
  simp only [Span.chars, hdrop, Nat.add_sub_add_right]

namespace Command

variable {c : Command}

theorem valuesOf_shift (front text : List Char) (q : Cursor) (start : Nat) :
    c.valuesOf (front ++ text) ((q.shift front.length).found start) =
      c.valuesOf text (q.found start) := by
  unfold valuesOf
  congr 1
  refine List.ext_getElem (by simp) fun k hk _ => ?_
  simp only [List.getElem_mapIdx, Found.capture?, Cursor.found, Cursor.shift, lookup_shift,
    Option.map_map]
  congr 2
  funext l
  exact congrArg String.ofList (l.chars_shift front text)

/-- Text in front of the arguments has no influence on the values that they get. -/
theorem values_shift (front text : List Char) (s : Cursor) (before : Option Char) (start : Nat) :
    (c.argumentWays { s.shift front.length with before }).head?.map
        (fun q => c.valuesOf (front ++ text) (q.found start)) =
      (c.argumentWays s).head?.map fun q => c.valuesOf text (q.found 0) := by
  have hspans := spans_argumentPatterns c.arguments 0 (s.shift front.length) before
  change (c.argumentWays _).map _ = (c.argumentWays _).map _ at hspans
  rw [argumentWays_shift, List.map_map] at hspans
  have hhead := congrArg (fun l => l.head?.map fun spans =>
    c.valuesOf (front ++ text) ⟨⟨start, 0⟩, spans⟩) hspans
  simp only [List.head?_map, Option.map_map] at hhead
  refine hhead.trans (congrArg (Option.map · _) (funext fun q => ?_))
  exact valuesOf_shift front text q start

/-- The arguments are not matched behind a name that is not meant. -/
theorem argumentWays_eq_nil (hc : ∀ a ∈ c.arguments, a.format.leavesComment = false)
    (hd : c.NamesApart) {n m : String} (hn : n ∈ c.names) (hm : m ∈ c.names) (hne : n ≠ m)
    {cs : List Char} (hcs : ∀ b ∈ cs.head?, Text.isBlank b = true)
    (hpre : n.toList <+: m.toList ++ cs) :
    c.argumentWays (({ rest := m.toList ++ cs } : Cursor).skip n.toList.length) = [] := by
  obtain ⟨tail, htail⟩ := hpre
  rw [List.eq_nil_iff_forall_not_mem]
  intro q hq
  obtain ⟨vs, hrun⟩ := run_of_mem (closed hc) (apart hc) hq
  have hblank := hrun.spells.head_blank
  rw [Cursor.skip_rest, ← htail, List.drop_left] at hblank
  exact hne (hd.eq hn hm hblank hcs htail)

theorem findSome?_eq_of_mem {α β : Type} {f : α → Option β} {l : List α} {a : α} (ha : a ∈ l)
    (h : ∀ x ∈ l, x ≠ a → f x = none) : l.findSome? f = f a := by
  induction l with
  | nil => cases ha
  | cons x l ih =>
    rw [List.findSome?_cons]
    by_cases hx : x = a
    · subst hx
      cases hf : f x with
      | some y => rfl
      | none =>
        refine List.findSome?_eq_none_iff.2 fun y hy => ?_
        by_cases hyx : y = x
        · rw [hyx, hf]
        · exact h y (List.mem_cons_of_mem _ hy) hyx
    · rw [h x List.mem_cons_self hx]
      exact ih ((List.mem_cons.1 ha).resolve_left (Ne.symm hx)) fun y hy =>
        h y (List.mem_cons_of_mem _ hy)

/-- Where the names are apart, what a command reports behind a name is what it makes of the text
behind the name. -/
theorem capturesAtStart?_append (hc : ∀ a ∈ c.arguments, a.format.leavesComment = false)
    (hd : c.NamesApart) {name : String} (hname : name ∈ c.names) {rest : String}
    (hrest : ∀ b ∈ rest.toList.head?, Text.isBlank b = true) :
    c.capturesAtStart? (name ++ rest) =
      (c.argumentWays { rest := rest.toList }).head?.map fun q =>
        c.valuesOf rest.toList (q.found 0) := by
  rw [capturesAtStart?_eq hc, ways_pattern, List.head?_flatMap, String.toList_append]
  have hmem : name ∈ c.names.filter fun n => n.toList <+: name.toList ++ rest.toList :=
    List.mem_filter.2 ⟨hname, decide_eq_true (List.prefix_append _ _)⟩
  rw [findSome?_eq_of_mem hmem]
  · -- The cursor behind the name is that in front of `rest`, moved, up to the last character.
    have hskip : ({ rest := name.toList ++ rest.toList } : Cursor).skip name.toList.length =
        { ({ rest := rest.toList } : Cursor).shift name.toList.length with
          before := name.toList.getLast? } := by
      simp [Cursor.skip, Cursor.shift]
    rw [hskip]
    exact values_shift name.toList rest.toList _ _ 0
  · intro n hn hne
    obtain ⟨hn, hpre⟩ := List.mem_filter.1 hn
    exact congrArg List.head?
      (argumentWays_eq_nil hc hd hn hname hne hrest (of_decide_eq_true hpre))

end Command

/-! ## Texts of one length -/

/-- The number of characters that the values take in a text, each with the blank before it. -/
def Values.extent (v : Values) : Nat :=
  (v.toList.map fun w => w.elim 0 (·.toList.length + 1)).sum

theorem Spells.length_text {as : List Argument} {vs : List (Option String)} {cs : List Char}
    (h : Spells as vs cs) : cs.length = (vs.map fun w => w.elim 0 (·.toList.length + 1)).sum := by
  induction h with
  | nil => rfl
  | absent _ _ ih => simpa using ih
  | present _ _ _ ih =>
    simp only [List.length_cons, List.length_append, List.map_cons, List.sum_cons, Option.elim, ih]
    omega

namespace Definition

variable {d : Definition}

theorem toList_entries {vs : List (Option String)} (h : vs.length = d.arguments.length) :
    (d.entries vs).toList = vs := by
  rw [Values.toList, entries, List.map_zipWith]
  exact List.ext_getElem (by simp [h]) fun k _ _ => by simp

/-- The values fix the length of an invocation up to the name in front of it. -/
theorem Parses.length_eq {cs : List Char} {name : String} {vs : List (Option String)}
    (h : d.Parses cs name vs) : cs.length = name.toList.length + (d.entries vs).extent := by
  obtain ⟨-, tail, rfl, hsp⟩ := h
  rw [List.length_append, hsp.length_text, Values.extent, toList_entries hsp.length_eq]

end Definition

namespace Command

variable {c : Command}

/-- Any two names of the command give the same values, with the same text behind them. -/
def NamesAgree (c : Command) : Prop :=
  ∀ n ∈ c.names, ∀ m ∈ c.names, ∀ rest : String,
    (∀ b ∈ rest.toList.head?, Text.isBlank b = true) →
      c.capturesAtStart? (n ++ rest) = c.capturesAtStart? (m ++ rest)

/-- If a name is another one with more text behind it and both give the same values, then this text
may be repeated at will. -/
theorem capturesAtStart?_repeat (h : c.NamesAgree) {n m : String} (hn : n ∈ c.names)
    (hm : m ∈ c.names) {b : Char} {tail : List Char} (hb : Text.isBlank b = true)
    (hnm : m.toList = n.toList ++ b :: tail) {rest : List Char}
    (hrest : ∀ b ∈ rest.head?, Text.isBlank b = true) (k : Nat) :
    c.capturesAtStart? (n ++ String.ofList ((List.replicate k (b :: tail)).flatten ++ rest)) =
      c.capturesAtStart? (n ++ String.ofList rest) := by
  induction k with
  | zero => rfl
  | succ k ih =>
    have htext : n ++ String.ofList ((List.replicate (k + 1) (b :: tail)).flatten ++ rest) =
        m ++ String.ofList ((List.replicate k (b :: tail)).flatten ++ rest) := by
      rw [← String.toList_inj]
      simp [hnm, List.replicate_succ]
    rw [htext, ← ih]
    refine h m hm n hn _ ?_
    rw [String.toList_ofList]
    cases k with
    | zero => exact hrest
    | succ k =>
      rintro _ ⟨⟩
      exact hb

/-- Names that agree are apart, or else there would be invocations of any length with the same
values. -/
theorem namesApart_of_namesAgree (hc : ∀ a ∈ c.arguments, a.format.leavesComment = false)
    (h : c.NamesAgree) {text : String} {values : Values}
    (htext : c.capturesAtStart? text = some values) : c.NamesApart := by
  intro n hn m hm b tail hb hnm
  obtain ⟨name, vs, ⟨hname, rest, hrest, hsp⟩, -⟩ := capturesAtStart?_parses hc htext
  have hblank : ∀ b ∈ (String.ofList rest).toList.head?, Text.isBlank b = true := by
    rw [String.toList_ofList]
    exact hsp.head_blank
  have hshort : c.capturesAtStart? (n ++ String.ofList rest) = some values := by
    have : text = name ++ String.ofList rest := by
      rw [← String.toList_inj, hrest, String.toList_append, String.toList_ofList]
    rw [h n hn name hname _ hblank, ← this, htext]
  -- Longer than any name with the values.
  have hlong := capturesAtStart?_repeat h hn hm hb hnm hsp.head_blank
    ((c.names.map (·.toList.length)).sum + values.extent + 1)
  rw [hshort] at hlong
  obtain ⟨name', vs', hparses, rfl⟩ := capturesAtStart?_parses hc hlong
  have hlength := hparses.length_eq
  have hname' : name'.toList.length ≤ (c.names.map (·.toList.length)).sum :=
    List.le_sum_of_mem (List.mem_map_of_mem hparses.1)
  simp only [String.toList_append, String.toList_ofList, List.length_append, List.length_flatten,
    List.map_replicate, List.sum_replicate_nat, List.length_cons, Nat.mul_succ] at hlength
  omega

/-- The names of a command stand for each other exactly if no name is another one with a blank and
more text behind it, or if the command takes no text at all. No custom pattern may leave a comment
open, for then the pattern may match text in place of a name. -/
theorem capturesAtStart?_names_iff (hc : ∀ a ∈ c.arguments, a.format.leavesComment = false) :
    c.NamesAgree ↔ c.NamesApart ∨ ∀ text, c.capturesAtStart? text = none := by
  constructor
  · intro h
    by_cases hnone : ∀ text, c.capturesAtStart? text = none
    · exact .inr hnone
    · obtain ⟨text, htext⟩ := not_forall.1 hnone
      obtain ⟨values, hvalues⟩ := Option.ne_none_iff_exists'.1 htext
      exact .inl (namesApart_of_namesAgree hc h hvalues)
  · rintro (hd | hnone) n hn m hm rest hrest
    · rw [capturesAtStart?_append hc hd hn hrest, capturesAtStart?_append hc hd hm hrest]
    · rw [hnone, hnone]

/-- A short name, a custom pattern and a number that may be left out. -/
def grant : Definition where
  name := "grant"
  aliases := ["g"]
  arguments := [{ name := "who", format := .pattern "#?[a-z]+|(?x) @ [a-z]+ " },
    { name := "level", format := .type .integer, optional := true }]

theorem capturesAtStart?_names_iff_grant :
    ∃ c : Command, c.toDefinition = grant ∧
      (∀ a ∈ c.arguments, a.format.leavesComment = false) ∧ c.NamesAgree ∧
      c.capturesAtStart? ("g" ++ " @bob 2") = some ⟨[("who", some "@bob"), ("level", some "2")]⟩ ∧
      c.capturesAtStart? ("grant" ++ " @bob 2") = c.capturesAtStart? ("g" ++ " @bob 2") := by
  have hc : ∀ a ∈ grant.arguments, a.format.leavesComment = false := by decide
  have hapart : grant.NamesApart := Definition.namesApart_of_no_blank (by decide +kernel)
  have hagree : (grant.command rfl).NamesAgree :=
    (capturesAtStart?_names_iff hc).2 (.inl hapart)
  have hrest : ∀ b ∈ " @bob 2".toList.head?, Text.isBlank b = true := by
    rintro b ⟨⟩
    decide
  refine ⟨_, rfl, hc, hagree, by decide +kernel, ?_⟩
  exact hagree "grant" List.mem_cons_self "g" (List.mem_cons_of_mem _ List.mem_cons_self) _ hrest

/-- An alias that is the name with a word behind it. -/
def multiword : Definition where
  name := "give"
  aliases := ["give all"]
  arguments := [{ name := "item", format := .type .string, optional := true }]

/-- A comment that is left open, and a pattern that has other groups in it than alone: the last
branch stands beside the names. -/
def brokenOut : Definition where
  name := "n"
  aliases := ["m"]
  arguments := [{ name := "a", format := .pattern "(?x)a #", optional := true },
    { name := "b", format := .pattern "\n#((?x)(((\n)))|n\n#(((\n)" }]

/-- Not all names stand for each other. An alias may be the name with a word behind it, and then the
word is taken for a value; or a pattern that a comment lets out of its group may match one of the
names only. -/
theorem capturesAtStart?_names_differ :
    (∃ c : Command, c.toDefinition = multiword ∧
      c.capturesAtStart? ("give" ++ "") = some ⟨[("item", none)]⟩ ∧
      c.capturesAtStart? ("give all" ++ "") = some ⟨[("item", some "all")]⟩ ∧ ¬ c.NamesAgree) ∧
    ∃ c : Command, c.toDefinition = brokenOut ∧ c.NamesApart ∧
      c.capturesAtStart? ("n" ++ "\n#\n") = some ⟨[("a", none), ("b", none)]⟩ ∧
      c.capturesAtStart? ("m" ++ "\n#\n") = none ∧ ¬ c.NamesAgree := by
  constructor
  · have hshort : (multiword.command rfl).capturesAtStart? ("give" ++ "") =
        some ⟨[("item", none)]⟩ := by
      decide +kernel
    have hlong : (multiword.command rfl).capturesAtStart? ("give all" ++ "") =
        some ⟨[("item", some "all")]⟩ := by
      decide +kernel
    refine ⟨_, rfl, hshort, hlong, fun h => ?_⟩
    have heq := h "give" List.mem_cons_self "give all" (List.mem_cons_of_mem _ List.mem_cons_self)
      "" nofun
    simpa using hshort.symm.trans (heq.trans hlong)
  · have hfirst : (brokenOut.command rfl).capturesAtStart? ("n" ++ "\n#\n") =
        some ⟨[("a", none), ("b", none)]⟩ := by
      decide +kernel
    have hsecond : (brokenOut.command rfl).capturesAtStart? ("m" ++ "\n#\n") = none := by
      decide +kernel
    have hapart : brokenOut.NamesApart := Definition.namesApart_of_no_blank (by decide +kernel)
    have hrest : ∀ b ∈ "\n#\n".toList.head?, Text.isBlank b = true := by
      rintro b ⟨⟩
      decide
    refine ⟨_, rfl, hapart, hfirst, hsecond, fun h => ?_⟩
    have heq := h "n" List.mem_cons_self "m" (List.mem_cons_of_mem _ List.mem_cons_self) _ hrest
    cases hfirst.symm.trans (heq.trans hsecond)

end Command

end ChatCommand
