import ChatCommand.Proofs.Pattern.Typed
import ChatCommand.Proofs.Regex.Alone

/-!
# The grammar of invocations

What it means that a text invokes a command, without patterns: `Definition.Parses d cs name values`
says that `cs` is the name and behind it, for every argument that has a value, one blank and the
value. A text can be parsed in several ways; `Definition.Precedes` orders them.

`firstValues` is the search for the first way, argument by argument. Where no format is a custom
pattern, it finds one if there is one (`isSome_firstValues`), and no other comes before it
(`firstValues_first`).
-/

namespace ChatCommand

/-- The values of a format. A custom pattern, whatever room it takes, has to match a value alone and
as a whole. -/
def Format.Accepts : Format → String → Prop
  | type t, v => t.Accepts v.toList
  | pattern source, v => ∃ limit r, Regex.parse source limit = .ok r ∧ r.matchesAll v = true
  | choices texts, v => v ∈ texts
  | literal text, v => v = text

/-- The arguments, the values they have, and the text that gives them these values. -/
inductive Spells : List Argument → List (Option String) → List Char → Prop
  | nil : Spells [] [] []
  | absent {a : Argument} {as : List Argument} {vs : List (Option String)} {cs : List Char} :
      a.optional = true → Spells as vs cs → Spells (a :: as) (none :: vs) cs
  | present {a : Argument} {as : List Argument} {b : Char} {v : String}
      {vs : List (Option String)} {cs : List Char} :
      Text.isBlank b = true → a.format.Accepts v → Spells as vs cs →
        Spells (a :: as) (some v :: vs) (b :: (v.toList ++ cs))

/-- The text is an invocation by `name` that gives the arguments these values. -/
def Definition.Parses (d : Definition) (cs : List Char) (name : String)
    (values : List (Option String)) : Prop :=
  name ∈ d.names ∧ ∃ tail, cs = name.toList ++ tail ∧ Spells d.arguments values tail

/-- The values under the names of the arguments. -/
def Definition.entries (d : Definition) (values : List (Option String)) : Values where
  entries := d.arguments.zipWith (fun a v => (a.name, v)) values

/-! ## Preference -/

/-- The value `v` is preferred to `w`: it is longer, or declared earlier. -/
def Format.Prefers : Format → String → String → Prop
  | type _, v, w => w.toList.length < v.toList.length
  | choices texts, v, w => texts.idxOf v < texts.idxOf w
  | pattern _, _, _ | literal _, _, _ => False

/-- A value is preferred to none. -/
def Argument.Prefers (a : Argument) : Option String → Option String → Prop
  | some v, some w => a.format.Prefers v w
  | some _, none => True
  | none, _ => False

/-- At the first argument whose values differ, `vs` has the preferred one. -/
def Precedes : List Argument → List (Option String) → List (Option String) → Prop
  | a :: as, v :: vs, w :: ws => a.Prefers v w ∨ v = w ∧ Precedes as vs ws
  | _, _, _ => False

/-- One parse comes before another: by an earlier name, or else by its values. -/
def Definition.Precedes (d : Definition) (name : String) (vs : List (Option String))
    (name' : String) (ws : List (Option String)) : Prop :=
  d.names.idxOf name < d.names.idxOf name' ∨
    name = name' ∧ ChatCommand.Precedes d.arguments vs ws

/-! ## The search -/

namespace Format

/-- The format is a pattern that is given by the command. -/
def isCustom : Format → Bool
  | pattern _ => true
  | _ => false

/-- The values that the text begins with, the preferred one first. -/
def values : Format → List Char → List String
  | type t, cs =>
    ((List.range (cs.length + 1)).reverse.filter fun n => t.Accepts (cs.take n)).map fun n =>
      String.ofList (cs.take n)
  | choices texts, cs => texts.filter fun text => text.toList <+: cs
  | literal text, cs => [text].filter fun text => text.toList <+: cs
  | pattern _, _ => []

end Format

/-- The first way to give `a` a value and the arguments behind it what `next` finds. -/
def Argument.firstPresent (a : Argument) (next : List Char → Option (List (Option String))) :
    List Char → Option (List (Option String))
  | [] => none
  | b :: cs =>
    if Text.isBlank b then
      (a.format.values cs).findSome? fun v =>
        (next (cs.drop v.toList.length)).map (some v :: ·)
    else none

/-- The first way in which the text gives the arguments values. -/
def firstValues : List Argument → List Char → Option (List (Option String))
  | [], cs => if cs = [] then some [] else none
  | a :: as, cs =>
    (a.firstPresent (firstValues as) cs).or
      (if a.optional then (firstValues as cs).map (none :: ·) else none)

/-- The first way in which the text invokes the command. -/
def Definition.firstParse (d : Definition) (cs : List Char) :
    Option (String × List (Option String)) :=
  (d.names.filter fun name => name.toList <+: cs).findSome? fun name =>
    (firstValues d.arguments (cs.drop name.toList.length)).map (name, ·)

/-! ## Values of a format -/

theorem findSome?_pairwise {α β : Type} {R : α → α → Prop} {l : List α} (hl : l.Pairwise R)
    {g : α → Option β} {y : β} (h : l.findSome? g = some y) :
    ∃ v ∈ l, g v = some y ∧ ∀ w ∈ l, (g w).isSome → w = v ∨ R v w := by
  induction l with
  | nil => cases h
  | cons x l ih =>
    obtain ⟨hx, hl⟩ := List.pairwise_cons.1 hl
    cases hg : g x with
    | some z =>
      rw [List.findSome?_cons_of_isSome (by simp [hg])] at h
      refine ⟨x, List.mem_cons_self, h, fun w hw _ => ?_⟩
      exact (List.mem_cons.1 hw).imp_right (hx w)
    | none =>
      rw [List.findSome?_cons_of_isNone (by simp [hg])] at h
      obtain ⟨v, hv, hgv, hfirst⟩ := ih hl h
      refine ⟨v, List.mem_cons_of_mem _ hv, hgv, fun w hw hgw => ?_⟩
      rcases List.mem_cons.1 hw with rfl | hw
      · simp [hg] at hgw
      · exact hfirst w hw hgw

theorem findSome?_filter_idxOf {β : Type} {texts : List String} {p : String → Bool}
    {g : String → Option β} {y : β} (h : (texts.filter p).findSome? g = some y) :
    ∃ v ∈ texts.filter p, g v = some y ∧
      ∀ w ∈ texts.filter p, (g w).isSome → w = v ∨ texts.idxOf v < texts.idxOf w := by
  induction texts with
  | nil => cases h
  | cons x texts ih =>
    by_cases hx : p x = true ∧ (g x).isSome = true
    · rw [List.filter_cons_of_pos hx.1, List.findSome?_cons_of_isSome hx.2] at h
      refine ⟨x, List.mem_filter.2 ⟨List.mem_cons_self, hx.1⟩, h, fun w _ _ => ?_⟩
      by_cases hw : w = x
      · exact .inl hw
      · exact .inr (by rw [List.idxOf_cons_self, List.idxOf_cons_ne _ (Ne.symm hw)]; omega)
    · have hrest : (texts.filter p).findSome? g = some y := by
        rw [← h, List.filter_cons]
        split
        · rw [List.findSome?_cons_of_isNone]
          simpa [*] using hx
        · rfl
      have hne : ∀ v ∈ (x :: texts).filter p, (g v).isSome → v ∈ texts.filter p ∧ x ≠ v := by
        intro v hv hgv
        obtain ⟨hv, hpv⟩ := List.mem_filter.1 hv
        have hxv : x ≠ v := by
          rintro rfl
          exact hx ⟨hpv, hgv⟩
        exact ⟨List.mem_filter.2 ⟨(List.mem_cons.1 hv).resolve_left (Ne.symm hxv), hpv⟩, hxv⟩
      obtain ⟨v, hv, hgv, hfirst⟩ := ih hrest
      have hv' : v ∈ (x :: texts).filter p :=
        List.mem_filter.2 ⟨List.mem_cons_of_mem _ (List.mem_filter.1 hv).1,
          (List.mem_filter.1 hv).2⟩
      refine ⟨v, hv', hgv, fun w hw hgw => ?_⟩
      rw [List.idxOf_cons_ne _ (hne v hv' (by simp [hgv])).2,
        List.idxOf_cons_ne _ (hne w hw hgw).2]
      exact (hfirst w (hne w hw hgw).1 hgw).imp_right (by omega)

namespace Format

theorem mem_values {f : Format} (hf : f.isCustom = false) {cs : List Char} {v : String} :
    v ∈ f.values cs ↔ f.Accepts v ∧ v.toList <+: cs := by
  cases f with
  | type t =>
    simp only [values, Accepts, List.mem_map, List.mem_filter, List.mem_reverse, List.mem_range,
      decide_eq_true_eq]
    constructor
    · rintro ⟨n, ⟨-, hn⟩, rfl⟩
      rw [String.toList_ofList]
      exact ⟨hn, List.take_prefix n cs⟩
    · rintro ⟨hv, hpre⟩
      have htake := List.prefix_iff_eq_take.1 hpre
      refine ⟨v.toList.length, ⟨Nat.lt_succ_of_le hpre.length_le, ?_⟩, ?_⟩
      · rwa [← htake]
      · rw [← htake, String.ofList_toList]
  | pattern source => cases hf
  | choices texts => simp [values, Accepts]
  | literal text =>
    simp only [values, Accepts, List.mem_filter, List.mem_singleton, decide_eq_true_eq]

/-- Of the values for which a search goes on to succeed, the one that it takes is preferred. -/
theorem values_first {β : Type} {f : Format} {cs : List Char} {g : String → Option β} {y : β}
    (h : (f.values cs).findSome? g = some y) :
    ∃ v ∈ f.values cs, g v = some y ∧
      ∀ w ∈ f.values cs, (g w).isSome → w = v ∨ f.Prefers v w := by
  cases f with
  | type t =>
    refine findSome?_pairwise ?_ h
    rw [values, List.pairwise_map]
    have hdesc : (List.range (cs.length + 1)).reverse.Pairwise
        fun m n => n < m ∧ m ≤ cs.length := by
      rw [List.pairwise_reverse]
      refine List.pairwise_lt_range.imp_of_mem fun _ hn hlt => ⟨hlt, ?_⟩
      exact Nat.le_of_lt_succ (List.mem_range.1 hn)
    refine (hdesc.filter _).imp fun h => ?_
    simp only [Prefers, String.toList_ofList, List.length_take]
    omega
  | pattern source => cases h
  | choices texts => exact findSome?_filter_idxOf h
  | literal text =>
    have hone : [text].Pairwise (literal text).Prefers := List.pairwise_singleton _ text
    simp only [values] at h ⊢
    exact findSome?_pairwise (hone.filter _) h

end Format

/-! ## The first way -/

theorem Spells.head_blank {as : List Argument} {vs : List (Option String)} {cs : List Char}
    (h : Spells as vs cs) : ∀ c ∈ cs.head?, Text.isBlank c = true := by
  induction h with
  | nil => rintro _ ⟨⟩
  | absent _ _ ih => exact ih
  | present hb _ _ _ =>
    rintro _ ⟨⟩
    exact hb

theorem Spells.length_eq {as : List Argument} {vs : List (Option String)} {cs : List Char}
    (h : Spells as vs cs) : vs.length = as.length := by
  induction h with
  | nil => rfl
  | absent _ _ ih => simp [ih]
  | present _ _ _ ih => simp [ih]

theorem firstPresent_none {a : Argument} (ha : a.format.isCustom = false)
    {next : List Char → Option (List (Option String))} {b : Char} {v : String} {cs : List Char}
    (hb : Text.isBlank b = true) (hv : a.format.Accepts v)
    (h : a.firstPresent next (b :: (v.toList ++ cs)) = none) : next cs = none := by
  rw [Argument.firstPresent, if_pos hb, List.findSome?_eq_none_iff] at h
  have := h v ((Format.mem_values ha).2 ⟨hv, List.prefix_append _ _⟩)
  rw [List.drop_left] at this
  simpa using this

theorem firstPresent_some {a : Argument} (ha : a.format.isCustom = false)
    {next : List Char → Option (List (Option String))} {cs : List Char}
    {vs : List (Option String)} (h : a.firstPresent next cs = some vs) :
    ∃ b v tail vs', cs = b :: (v.toList ++ tail) ∧ Text.isBlank b = true ∧ a.format.Accepts v ∧
      next tail = some vs' ∧ vs = some v :: vs' ∧
      ∀ w tail', cs = b :: (w.toList ++ tail') → a.format.Accepts w → (next tail').isSome →
        w = v ∨ a.format.Prefers v w := by
  cases cs with
  | nil => cases h
  | cons b cs =>
    rw [Argument.firstPresent] at h
    split at h
    · rename_i hb
      obtain ⟨v, hv, hnext, hfirst⟩ := Format.values_first h
      obtain ⟨hacc, tail, rfl⟩ := (Format.mem_values ha).1 hv
      rw [List.drop_left, Option.map_eq_some_iff] at hnext
      obtain ⟨vs', hnext, rfl⟩ := hnext
      refine ⟨b, v, tail, vs', rfl, hb, hacc, hnext, rfl, fun w tail' hw haw hsome => ?_⟩
      rw [List.cons.injEq] at hw
      refine hfirst w ((Format.mem_values ha).2 ⟨haw, ?_⟩) ?_
      · rw [hw.2]
        exact List.prefix_append _ _
      · rw [hw.2, List.drop_left]
        simpa using hsome
    · cases h

theorem isSome_firstValues {as : List Argument} (has : ∀ a ∈ as, a.format.isCustom = false)
    {vs : List (Option String)} {cs : List Char} (h : Spells as vs cs) :
    (firstValues as cs).isSome := by
  induction h with
  | nil => rfl
  | absent hopt _ ih =>
    have := ih fun a ha => has a (List.mem_cons_of_mem _ ha)
    simp [firstValues, hopt, this]
  | @present a as b v vs cs hb hv _ ih =>
    have hsome := ih fun a ha => has a (List.mem_cons_of_mem _ ha)
    have hne : a.firstPresent (firstValues as) (b :: (v.toList ++ cs)) ≠ none := fun hnone => by
      rw [firstPresent_none (has a List.mem_cons_self) hb hv hnone] at hsome
      cases hsome
    simp [firstValues, Option.isSome_iff_ne_none, hne]

/-- The search finds a way, and every other way comes after it. -/
theorem firstValues_first {as : List Argument} (has : ∀ a ∈ as, a.format.isCustom = false)
    {vs : List (Option String)} {cs : List Char} (h : firstValues as cs = some vs) :
    Spells as vs cs ∧ ∀ ws, Spells as ws cs → ws = vs ∨ Precedes as vs ws := by
  induction as generalizing cs vs with
  | nil =>
    rw [firstValues] at h
    split at h
    · subst cs
      obtain rfl := Option.some.inj h
      exact ⟨.nil, fun ws hws => by cases hws; exact .inl rfl⟩
    · cases h
  | cons a as ih =>
    have ha := has a List.mem_cons_self
    have has' : ∀ a ∈ as, a.format.isCustom = false := fun a h => has a (List.mem_cons_of_mem _ h)
    rw [firstValues, Option.or_eq_some_iff] at h
    rcases h with h | ⟨hnone, h⟩
    · obtain ⟨b, v, tail, vs', rfl, hb, hv, hnext, rfl, hfirst⟩ := firstPresent_some ha h
      obtain ⟨hsp, hmin⟩ := ih has' hnext
      refine ⟨.present hb hv hsp, fun ws hws => ?_⟩
      generalize hcs : b :: (v.toList ++ tail) = cs at hws
      cases hws with
      | absent _ _ => exact .inr (.inl trivial)
      | @present _ _ b' w ws tail' _ hw hws =>
        obtain ⟨rfl, heq⟩ := List.cons.inj hcs
        rcases hfirst w tail' hcs hw (isSome_firstValues has' hws) with rfl | hpref
        · obtain rfl := List.append_cancel_left heq
          rcases hmin ws hws with rfl | hlt
          · exact .inl rfl
          · exact .inr (.inr ⟨rfl, hlt⟩)
        · exact .inr (.inl hpref)
    · split at h
      · rename_i hopt
        obtain ⟨vs', hnext, rfl⟩ := Option.map_eq_some_iff.1 h
        obtain ⟨hsp, hmin⟩ := ih has' hnext
        refine ⟨.absent hopt hsp, fun ws hws => ?_⟩
        cases hws with
        | absent _ hws =>
          rcases hmin _ hws with rfl | hlt
          · exact .inl rfl
          · exact .inr (.inr ⟨rfl, hlt⟩)
        | present hb hw hws =>
          have hsome := isSome_firstValues has' hws
          rw [firstPresent_none ha hb hw hnone] at hsome
          cases hsome
      · cases h

namespace Definition

variable {d : Definition}

theorem isSome_firstParse (hd : ∀ a ∈ d.arguments, a.format.isCustom = false) {cs : List Char}
    {name : String} {vs : List (Option String)} (h : d.Parses cs name vs) :
    (d.firstParse cs).isSome := by
  obtain ⟨hname, tail, rfl, hsp⟩ := h
  rw [firstParse, List.isSome_findSome?, List.any_eq_true]
  refine ⟨name, List.mem_filter.2 ⟨hname, ?_⟩, ?_⟩
  · exact decide_eq_true (List.prefix_append _ _)
  · rw [Option.isSome_map, List.drop_left]
    exact isSome_firstValues hd hsp

/-- The search finds a parse, and every other parse comes after it. -/
theorem firstParse_first (hd : ∀ a ∈ d.arguments, a.format.isCustom = false) {cs : List Char}
    {name : String} {vs : List (Option String)} (h : d.firstParse cs = some (name, vs)) :
    d.Parses cs name vs ∧ ∀ name' ws, d.Parses cs name' ws →
      name' = name ∧ ws = vs ∨ d.Precedes name vs name' ws := by
  obtain ⟨n, hn, hmap, hfirst⟩ := findSome?_filter_idxOf h
  obtain ⟨vs', hvs, he⟩ := Option.map_eq_some_iff.1 hmap
  obtain ⟨rfl, rfl⟩ := Prod.mk.inj he
  obtain ⟨hmem, hpre⟩ := List.mem_filter.1 hn
  obtain ⟨tail, rfl⟩ := of_decide_eq_true hpre
  rw [List.drop_left] at hvs
  obtain ⟨hsp, hmin⟩ := firstValues_first hd hvs
  refine ⟨⟨hmem, tail, rfl, hsp⟩, fun name' ws hp => ?_⟩
  obtain ⟨hmem', tail', heq, hws⟩ := hp
  have hpre' : name'.toList <+: n.toList ++ tail := heq ▸ List.prefix_append _ _
  rcases hfirst name' (List.mem_filter.2 ⟨hmem', decide_eq_true hpre'⟩) (by
    rw [heq, List.drop_left, Option.isSome_map]
    exact isSome_firstValues hd hws) with rfl | hlt
  · obtain rfl := List.append_cancel_left heq
    rcases hmin ws hws with rfl | hlt
    · exact .inl ⟨rfl, rfl⟩
    · exact .inr (.inr ⟨rfl, hlt⟩)
  · exact .inr (.inl hlt)

end Definition

end ChatCommand
