import ChatCommand.Proofs.Command.Grammar

/-!
# From matches to parses

The tree of a command is one of names followed by the trees of its arguments. `Run` describes how a
match passes the arguments: the values it gives them and what it captures. A match of the trees is a
run (`run_of_mem`), and without custom patterns the preferred match is the run of `firstValues`
(`rel_head`). What a run has captured is what the command reports (`Run.value`).
-/

namespace ChatCommand

open Regex

/-! ## Trees of arguments -/

namespace Definition

/-- The trees of arguments of which the first is at position `i`. -/
def argumentPatterns : Nat → List Argument → List Pattern
  | _, [] => []
  | i, a :: as => argumentPattern i a ++ argumentPatterns (i + 1) as

theorem flatten_mapIdx_argumentPattern (i : Nat) (as : List Argument) :
    (as.mapIdx fun k a => argumentPattern (i + k) a).flatten = argumentPatterns i as := by
  induction as generalizing i with
  | nil => rfl
  | cons a as ih =>
    rw [List.mapIdx_cons, List.flatten_cons, argumentPatterns, ← ih (i + 1)]
    simp only [Nat.add_zero, Nat.add_assoc, Nat.add_comm 1]

theorem pattern_eq (d : Definition) :
    d.pattern = .sequence (.choice (d.names.map .literal) ::
      (argumentPatterns 0 d.arguments ++ [.textEnd])) := by
  rw [pattern, ← flatten_mapIdx_argumentPattern]
  simp only [Nat.zero_add, List.cons_append]

end Definition

namespace Pattern

theorem waysAll_append (meaning : String → Cursor → List Cursor) (ps qs : List Pattern)
    (s : Cursor) :
    waysAll meaning (ps ++ qs) s = (waysAll meaning ps s).flatMap (waysAll meaning qs) := by
  induction ps generalizing s with
  | nil => simp [waysAll]
  | cons p ps ih =>
    simp only [List.cons_append, waysAll, List.flatMap_assoc]
    exact List.flatMap_congr fun q _ => ih q

theorem waysAll_singleton (meaning : String → Cursor → List Cursor) (p : Pattern) (s : Cursor) :
    waysAll meaning [p] s = p.ways meaning s := by
  rw [waysAll, show waysAll meaning [] = fun q => [q] from rfl, List.flatMap_singleton']

theorem waysAny_eq (meaning : String → Cursor → List Cursor) (ps : List Pattern) (s : Cursor) :
    waysAny meaning ps s = ps.flatMap fun p => p.ways meaning s := by
  induction ps with
  | nil => rfl
  | cons p ps ih => rw [waysAny, ih, List.flatMap_cons]

end Pattern

/-- The cursors behind a blank and a value of `a`, where `a` is at position `i`. -/
def Argument.ways (a : Argument) (i : Nat) (s : Cursor) : List Cursor :=
  if s.rest.head?.any Text.isBlank then
    (a.format.toPattern.ways Pattern.fragment (s.skip 1)).map
      (·.note (Definition.captureName i) (s.pos + 1))
  else []

theorem waysAll_argumentPattern (a : Argument) (i : Nat) (ps : List Pattern) (s : Cursor) :
    Pattern.waysAll Pattern.fragment (Definition.argumentPattern i a ++ ps) s =
      (a.ways i s).flatMap (Pattern.waysAll Pattern.fragment ps) ++
        if a.optional then Pattern.waysAll Pattern.fragment ps s else [] := by
  have hpresent : Pattern.waysAll Pattern.fragment
      [.blank, .capture (Definition.captureName i) a.format.toPattern] s = a.ways i s := by
    rw [Pattern.waysAll, Pattern.ways, Argument.ways]
    split
    · simp [Pattern.waysAll_singleton, Pattern.ways]
    · rfl
  rw [Pattern.waysAll_append, Definition.argumentPattern]
  split
  · rw [Pattern.waysAll_singleton, Pattern.ways, Pattern.ways, hpresent]
    simp
  · rw [hpresent, List.append_nil]

/-! ## Values -/

theorem skip_behind {s : Cursor} {v : List Char} (h : v <+: s.rest) :
    (s.skip v.length).Behind s v := by
  obtain ⟨tail, htail⟩ := h
  refine ⟨?_, rfl, ?_⟩
  · rw [Cursor.skip_rest, ← htail, List.drop_left]
  · simp only [Cursor.skip, ← htail, List.take_left]

/-- Where the format is no custom pattern, its tree matches its values, preferred ones first. -/
theorem ways_values {f : Format} (hf : f.isCustom = false) (s : Cursor) :
    f.toPattern.ways Pattern.fragment s =
      (f.values s.rest).map fun v => s.skip v.toList.length := by
  cases f with
  | type t =>
    rw [Format.toPattern, Pattern.ways, ValueType.ways_source, ValueType.takes, Cursor.takes,
      Format.values, List.map_map]
    refine List.map_congr_left fun n hn => ?_
    have hle : n ≤ s.rest.length := by
      simp only [List.mem_filter, List.mem_reverse, List.mem_range] at hn
      omega
    simp [Nat.min_eq_left hle]
  | pattern source => cases hf
  | choices texts =>
    rw [Format.toPattern, Pattern.ways, Pattern.waysAny_eq, Format.values, List.flatMap_map]
    clear hf
    induction texts with
    | nil => rfl
    | cons text texts ih =>
      rw [List.flatMap_cons, ih, Pattern.ways, List.filter_cons]
      by_cases h : text.toList <+: s.rest <;> simp [h]
  | literal text =>
    rw [Format.toPattern, Pattern.ways, Format.values, List.filter_singleton]
    by_cases h : text.toList <+: s.rest <;> simp [h]

/-- A custom pattern compiles, and it leaves no comment open. -/
def Format.Closed (f : Format) : Prop :=
  ∀ source, f = .pattern source →
    (∃ limit r, Regex.parse source limit = .ok r) ∧ Regex.leavesComment source.toList = false

theorem itemOf_of_parse {source : String} {limit : Nat} {r : Regex}
    (h : Regex.parse source limit = .ok r) : (itemOf source.toList).regex = r := by
  obtain ⟨i, hi, -, -, rfl⟩ := parseChars_eq_ok.1 h
  simp only [itemOf, hi]

theorem Format.Closed.fragment {source : String} (h : (Format.pattern source).Closed) :
    Fragment source.toList := by
  obtain ⟨⟨_, r, hr⟩, hc⟩ := h source rfl
  obtain ⟨i, hi, -⟩ := parseChars_eq_ok.1 hr
  exact ⟨⟨i, hi⟩, hc⟩

/-- `u` is behind a value `v` of the argument at position `i`, and names of `names` have only been
captured for it. -/
structure Took (names : List String) (a : Argument) (i : Nat) (v : String) (s u : Cursor) :
    Prop where
  accepts : a.format.Accepts v
  rest : ∃ b, Text.isBlank b = true ∧ s.rest = b :: (v.toList ++ u.rest)
  pos : u.pos = s.pos + 1 + v.toList.length
  spans : ∃ inner, u.spans = (Definition.captureName i, ⟨s.pos + 1, u.pos⟩) :: (inner ++ s.spans) ∧
    ∀ e ∈ inner, e.1 ∉ names

theorem took_of_values {names : List String} {a : Argument} (ha : a.format.isCustom = false)
    {i : Nat} {v : String} {b : Char} {cs : List Char} {s : Cursor} (hb : Text.isBlank b = true)
    (hs : s.rest = b :: cs) (hv : v ∈ a.format.values cs) :
    Took names a i v s
      (((s.skip 1).skip v.toList.length).note (Definition.captureName i) (s.pos + 1)) := by
  obtain ⟨hacc, hpre⟩ := (Format.mem_values ha).1 hv
  have hskip := skip_behind (s := s.skip 1) (v := v.toList) (by simpa [hs] using hpre)
  refine ⟨hacc, ⟨b, hb, ?_⟩, hskip.pos, ⟨[], rfl, List.forall_mem_nil _⟩⟩
  rw [hs, Cursor.note_rest, ← hskip.rest, Cursor.skip_rest, hs]
  rfl

theorem took_of_fragment {names : List String} {a : Argument} {source : String}
    (ha : a.format = .pattern source) (hclosed : a.format.Closed)
    (hnames : ∀ n ∈ namesOf source.toList, n ∉ names) {i : Nat} {s u : Cursor} {b : Char}
    {cs : List Char} (hb : Text.isBlank b = true) (hs : s.rest = b :: cs)
    (hu : u ∈ Pattern.fragment source (s.skip 1))
    (hafter : ∀ c ∈ u.rest.head?, Text.isBlank c = true) :
    ∃ v, Took names a i v s (u.note (Definition.captureName i) (s.pos + 1)) := by
  rw [ha] at hclosed
  have hfits := hclosed.fragment.fits
  obtain ⟨⟨limit, r, hr⟩, -⟩ := hclosed source rfl
  obtain ⟨v, hv, -⟩ := ways_behind hu
  obtain ⟨inner, hinner, hin⟩ := ways_spans hfits hu
  have hbefore : ∀ c ∈ (s.skip 1).before, Text.isBlank c = true := by
    simpa [Cursor.skip, hs] using hb
  have hall := matchesAll_of_ways (v := String.ofList v) hfits hu
    (by rw [String.toList_ofList]; exact hv.rest) hbefore hafter
  refine ⟨String.ofList v, ?_, ⟨b, hb, ?_⟩, ?_, ⟨inner, ?_, fun e he => hnames _ (hin e he)⟩⟩
  · rw [ha]
    exact ⟨limit, r, hr, by rwa [itemOf_of_parse hr] at hall⟩
  · rw [String.toList_ofList, Cursor.note_rest, ← hv.rest, Cursor.skip_rest, hs]
    rfl
  · rw [String.toList_ofList]
    exact hv.pos
  · rw [Cursor.note_spans, hinner]
    rfl

theorem took_of_mem {names : List String} {a : Argument} (hclosed : a.format.Closed)
    (hnames : ∀ n ∈ a.format.toPattern.groupNames, n ∉ names) {i : Nat} {s u : Cursor}
    (hu : u ∈ a.ways i s) (hafter : ∀ c ∈ u.rest.head?, Text.isBlank c = true) :
    ∃ v, Took names a i v s u := by
  unfold Argument.ways at hu
  split at hu
  · rename_i hblank
    obtain ⟨b, hhead, hb⟩ := (Option.any_eq_true _ _).1 hblank
    obtain ⟨cs, hs⟩ := List.head?_eq_some_iff.1 hhead
    obtain ⟨u', hu', rfl⟩ := List.mem_map.1 hu
    cases hf : a.format with
    | pattern source =>
      rw [hf] at hu' hnames
      exact took_of_fragment hf hclosed hnames hb hs hu' hafter
    | _ =>
      have hcustom : a.format.isCustom = false := by rw [hf]; rfl
      rw [ways_values hcustom] at hu'
      obtain ⟨v, hv, rfl⟩ := List.mem_map.1 hu'
      rw [Cursor.skip_rest, hs] at hv
      exact ⟨v, took_of_values hcustom hb hs hv⟩
  · cases hu

/-! ## Runs -/

/-- The trees of the arguments `as`, the first one at position `i`, match from `s` to `q`, which is
the end of the text, and give the arguments these values. -/
inductive Run (names : List String) :
    Nat → List Argument → Cursor → List (Option String) → Cursor → Prop
  | nil {i : Nat} {s : Cursor} : s.rest = [] → Run names i [] s [] s
  | absent {i : Nat} {a : Argument} {as : List Argument} {s q : Cursor}
      {vs : List (Option String)} :
      a.optional = true → Run names (i + 1) as s vs q → Run names i (a :: as) s (none :: vs) q
  | present {i : Nat} {a : Argument} {as : List Argument} {s u q : Cursor} {v : String}
      {vs : List (Option String)} :
      Took names a i v s u → Run names (i + 1) as u vs q → Run names i (a :: as) s (some v :: vs) q

theorem Run.spells {names : List String} {i : Nat} {as : List Argument} {s q : Cursor}
    {vs : List (Option String)} (h : Run names i as s vs q) : Spells as vs s.rest := by
  induction h with
  | nil hs =>
    rw [hs]
    exact .nil
  | absent hopt _ ih => exact .absent hopt ih
  | present htook _ ih =>
    obtain ⟨b, hb, hs⟩ := htook.rest
    rw [hs]
    exact .present hb htook.accepts ih

/-- Every match of the trees is a run. -/
theorem run_of_mem {names : List String} {i : Nat} {as : List Argument}
    (hclosed : ∀ a ∈ as, a.format.Closed)
    (hnames : ∀ a ∈ as, ∀ n ∈ a.format.toPattern.groupNames, n ∉ names) {s q : Cursor}
    (h : q ∈ Pattern.waysAll Pattern.fragment (Definition.argumentPatterns i as ++ [.textEnd]) s) :
    ∃ vs, Run names i as s vs q := by
  induction as generalizing i s with
  | nil =>
    rw [Definition.argumentPatterns, List.nil_append, Pattern.waysAll_singleton,
      Pattern.ways] at h
    split at h
    · obtain rfl := List.mem_singleton.1 h
      exact ⟨[], .nil ‹_›⟩
    · cases h
  | cons a as ih =>
    obtain ⟨hca, hcas⟩ := List.forall_mem_cons.1 hclosed
    obtain ⟨hna, hnas⟩ := List.forall_mem_cons.1 hnames
    rw [Definition.argumentPatterns, List.append_assoc, waysAll_argumentPattern,
      List.mem_append] at h
    rcases h with h | h
    · obtain ⟨u, hu, hq⟩ := List.mem_flatMap.1 h
      obtain ⟨vs, hrun⟩ := ih hcas hnas hq
      obtain ⟨v, htook⟩ := took_of_mem hca hna hu hrun.spells.head_blank
      exact ⟨some v :: vs, .present htook hrun⟩
    · split at h
      · obtain ⟨vs, hrun⟩ := ih hcas hnas h
        exact ⟨none :: vs, .absent ‹_› hrun⟩
      · cases h

/-! ## The preferred run -/

theorem rel_findSome? {α β γ : Type} {R : β → γ → Prop} {f : α → Option β} {g : α → Option γ}
    {l : List α} (h : ∀ x ∈ l, Option.Rel R (f x) (g x)) :
    Option.Rel R (l.findSome? f) (l.findSome? g) := by
  induction l with
  | nil => exact .none
  | cons x l ih =>
    obtain ⟨hx, hl⟩ := List.forall_mem_cons.1 h
    rw [List.findSome?_cons, List.findSome?_cons]
    generalize f x = y, g x = z at hx
    cases hx with
    | none => exact ih hl
    | some hr => exact .some hr

theorem rel_or {α β : Type} {R : α → β → Prop} {x x' : Option α} {y y' : Option β}
    (h : Option.Rel R x y) (h' : Option.Rel R x' y') : Option.Rel R (x.or x') (y.or y') := by
  cases h with
  | none => simpa using h'
  | some hr => exact .some hr

theorem rel_map {α β γ : Type} {R : α → γ → Prop} {S : β → γ → Prop} {f : α → β}
    (hf : ∀ x y, R x y → S (f x) y) {x : Option α} {y : Option γ} (h : Option.Rel R x y) :
    Option.Rel S (x.map f) y := by
  cases h with
  | none => exact .none
  | some hr => exact .some (hf _ _ hr)

/-- Without custom patterns, the preferred match is the run of the first values, and there is none
if there are no values. -/
theorem rel_head (names : List String) {i : Nat} {as : List Argument}
    (has : ∀ a ∈ as, a.format.isCustom = false) (s : Cursor) :
    Option.Rel (Run names i as s) (firstValues as s.rest)
      (Pattern.waysAll Pattern.fragment
        (Definition.argumentPatterns i as ++ [.textEnd]) s).head? := by
  induction as generalizing i s with
  | nil =>
    rw [firstValues, Definition.argumentPatterns, List.nil_append, Pattern.waysAll_singleton,
      Pattern.ways]
    split
    · exact .some (.nil ‹_›)
    · exact .none
  | cons a as ih =>
    obtain ⟨ha, has⟩ := List.forall_mem_cons.1 has
    rw [firstValues, Definition.argumentPatterns, List.append_assoc, waysAll_argumentPattern,
      List.head?_append]
    refine rel_or ?_ ?_
    · unfold Argument.ways Argument.firstPresent
      cases hs : s.rest with
      | nil => exact .none
      | cons b cs =>
        by_cases hb : Text.isBlank b = true
        · simp only [List.head?_cons, Option.any_some, hb, ↓reduceIte, ways_values ha,
            List.head?_flatMap, List.findSome?_map, Cursor.skip_rest, hs, List.drop_succ_cons,
            List.drop_zero]
          refine rel_findSome? fun v hv => ?_
          have htook : Took names a i v s _ := took_of_values ha hb hs hv
          refine rel_map (fun vs q hrun => .present htook hrun) ?_
          have hrec := ih (i := i + 1) has
            (((s.skip 1).skip v.toList.length).note (Definition.captureName i) (s.pos + 1))
          simpa [hs] using hrec
        · simp [hb]
    · split
      · exact rel_map (fun vs q hrun => .absent ‹_› hrun) (ih has s)
      · exact .none

/-! ## What a run has captured -/

theorem captureName_inj {i j : Nat} (h : Definition.captureName i = Definition.captureName j) :
    i = j := by
  have hrepr : i.repr = j.repr := String.append_right_inj _ |>.1 h
  have hdigits := congrArg String.toList hrepr
  rw [Nat.toList_repr, Nat.toList_repr] at hdigits
  rw [← Nat.ofDigitChars_ten_toDigits (n := i), hdigits, Nat.ofDigitChars_ten_toDigits]

/-- The cursor is at its place in the text. -/
def Regex.Cursor.At (s : Cursor) (text : List Char) : Prop :=
  s.rest = text.drop s.pos

namespace Took

variable {names : List String} {a : Argument} {i : Nat} {v : String} {s u : Cursor}

theorem drop_eq (h : Took names a i v s u) {text : List Char} (hs : s.At text) :
    text.drop (s.pos + 1) = v.toList ++ u.rest := by
  obtain ⟨b, -, hrest⟩ := h.rest
  rw [← List.drop_drop, ← hs, hrest]
  rfl

theorem at_text (h : Took names a i v s u) {text : List Char} (hs : s.At text) : u.At text := by
  rw [Cursor.At, h.pos, ← List.drop_drop, h.drop_eq hs, List.drop_left]

theorem chars (h : Took names a i v s u) {text : List Char} (hs : s.At text) :
    Span.chars ⟨s.pos + 1, u.pos⟩ text = v.toList := by
  have hlen : u.pos - (s.pos + 1) = v.toList.length := by
    rw [h.pos]
    omega
  simp only [Span.chars, h.drop_eq hs, hlen, List.take_left]

theorem lookup_self (h : Took names a i v s u) :
    u.spans.lookup (Definition.captureName i) = some ⟨s.pos + 1, u.pos⟩ := by
  obtain ⟨inner, hspans, -⟩ := h.spans
  rw [hspans, List.lookup_cons_self]

theorem lookup_of_ne (h : Took names a i v s u) {m : Nat} (hne : m ≠ i)
    (hmem : Definition.captureName m ∈ names) :
    u.spans.lookup (Definition.captureName m) = s.spans.lookup (Definition.captureName m) := by
  obtain ⟨inner, hspans, hinner⟩ := h.spans
  have hname : (Definition.captureName m == Definition.captureName i) = false :=
    beq_eq_false_iff_ne.2 fun he => hne (captureName_inj he)
  have hnone : inner.lookup (Definition.captureName m) = none := by
    rw [List.lookup_eq_none_iff]
    intro e he
    rw [bne_iff_ne]
    exact fun heq => hinner e he (heq ▸ hmem)
  rw [hspans, List.lookup_cons, hname]
  simp only [List.lookup_append, hnone, Option.none_or]

end Took

/-- A run captures nothing under the names of earlier arguments. -/
theorem Run.lookup_of_lt {names : List String} {i : Nat} {as : List Argument} {s q : Cursor}
    {vs : List (Option String)} (h : Run names i as s vs q) {m : Nat} (hm : m < i)
    (hmem : Definition.captureName m ∈ names) :
    q.spans.lookup (Definition.captureName m) = s.spans.lookup (Definition.captureName m) := by
  induction h with
  | nil _ => rfl
  | absent _ _ ih => exact ih (by omega)
  | present htook _ ih => rw [ih (by omega), htook.lookup_of_ne (by omega) hmem]

/-- A run has captured the values of its arguments, and nothing for an argument without one. -/
theorem Run.value {names : List String} {i : Nat} {as : List Argument} {s q : Cursor}
    {vs : List (Option String)} (h : Run names i as s vs q) {text : List Char} (hs : s.At text)
    (hnames : ∀ k < as.length, Definition.captureName (i + k) ∈ names)
    (hfree : ∀ k < as.length, s.spans.lookup (Definition.captureName (i + k)) = none) {k : Nat}
    (hk : k < as.length) :
    (q.spans.lookup (Definition.captureName (i + k))).map (fun l => String.ofList (l.chars text)) =
      vs[k]?.join := by
  induction h generalizing k with
  | nil _ => cases hk
  | @absent i a as s q vs _ hrun ih =>
    have hnext : ∀ j, i + 1 + j = i + (j + 1) := fun j => by omega
    cases k with
    | zero =>
      rw [hrun.lookup_of_lt (m := i + 0) (Nat.lt_succ_self i) (hnames 0 hk), hfree 0 hk]
      rfl
    | succ k =>
      rw [← hnext]
      refine ih hs (fun j hj => ?_) (fun j hj => ?_) (Nat.lt_of_succ_lt_succ hk)
      · rw [hnext]
        exact hnames _ (Nat.succ_lt_succ hj)
      · rw [hnext]
        exact hfree _ (Nat.succ_lt_succ hj)
  | @present i a as s u q v vs htook hrun ih =>
    have hnext : ∀ j, i + 1 + j = i + (j + 1) := fun j => by omega
    cases k with
    | zero =>
      rw [Nat.add_zero, hrun.lookup_of_lt (Nat.lt_succ_self i) (hnames 0 hk), htook.lookup_self,
        Option.map_some, htook.chars hs, String.ofList_toList]
      rfl
    | succ k =>
      rw [← hnext]
      refine ih (htook.at_text hs) (fun j hj => ?_) (fun j hj => ?_) (Nat.lt_of_succ_lt_succ hk)
      · rw [hnext]
        exact hnames _ (Nat.succ_lt_succ hj)
      · rw [hnext, htook.lookup_of_ne (by omega) (hnames _ (Nat.succ_lt_succ hj))]
        exact hfree _ (Nat.succ_lt_succ hj)

end ChatCommand
