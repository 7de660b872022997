import ChatCommand.Proofs.Pattern.Reading
import ChatCommand.Proofs.Regex.Lockstep

/-!
# What a tree matches

`Pattern.ways`: the structural meaning of a tree, as ordered lists of cursors (`Regex.ways` is the
same for expressions). It is given by recursion on the tree and does not mention pattern syntax;
what a fragment matches is a parameter.

`ways_item` says that the elements a tree is written as match what the tree means, and
`find_of_compile` draws the conclusion for a compiled tree: the search reports the leftmost of the
preferred ways, with its captures.
-/

namespace ChatCommand

open Regex

namespace Regex.Cursor

/-- The cursor `n` characters further on. -/
def skip (s : Cursor) (n : Nat) : Cursor :=
  { s with
    before := (s.rest.take n).getLast?.or s.before
    pos := s.pos + n
    rest := s.rest.drop n }

@[simp] theorem skip_rest (s : Cursor) (n : Nat) : (s.skip n).rest = s.rest.drop n := rfl

@[simp] theorem skip_pos (s : Cursor) (n : Nat) : (s.skip n).pos = s.pos + n := rfl

@[simp] theorem skip_spans (s : Cursor) (n : Nat) : (s.skip n).spans = s.spans := rfl

@[simp] theorem skip_zero (s : Cursor) : s.skip 0 = s := by
  simp [skip]

theorem skip_next {s : Cursor} {c : Char} {cs : List Char} (h : s.rest = c :: cs) (n : Nat) :
    (s.next c cs).skip n = s.skip (n + 1) := by
  simp only [skip, next, h, List.take_succ_cons, List.drop_succ_cons, List.getLast?_cons]
  congr 1
  · cases (cs.take n).getLast? <;> rfl
  · omega

theorem Uniform.skip {φ : Cursor → Cursor} (hφ : Uniform φ) {n : Nat} {s : Cursor}
    (hn : n ≤ s.rest.length) : (φ s).skip n = φ (s.skip n) := by
  induction n generalizing s with
  | zero => rw [skip_zero, skip_zero]
  | succ n ih =>
    cases hs : s.rest with
    | nil => simp [hs] at hn
    | cons c cs =>
      have hn' : n ≤ cs.length := by simpa [hs] using hn
      rw [← skip_next ((hφ.rest s).trans hs), ← skip_next hs, hφ.next]
      exact ih hn'

end Regex.Cursor

namespace Pattern

variable (meaning : String → Cursor → List Cursor)

mutual

/-- The cursors at which a match of the tree that starts at a cursor can end, the preferred one
first, where `meaning` says so of fragments. -/
def ways : Pattern → Cursor → List Cursor
  | literal text, s => if text.toList <+: s.rest then [s.skip text.toList.length] else []
  | raw source, s => meaning source s
  | blank, s => if s.rest.head?.any Text.isBlank then [s.skip 1] else []
  | capture name inner, s => (ways inner s).map (·.note name s.pos)
  | optional inner, s => ways inner s ++ [s]
  | choice parts, s => waysAny parts s
  | sequence parts, s => waysAll parts s
  | textEnd, s => if s.rest = [] then [s] else []

/-- The same for one of some trees, earlier ones preferred. -/
def waysAny : List Pattern → Cursor → List Cursor
  | [], _ => []
  | p :: ps, s => ways p s ++ waysAny ps s

/-- The same for trees one after another. -/
def waysAll : List Pattern → Cursor → List Cursor
  | [], s => [s]
  | p :: ps, s => (ways p s).flatMap (waysAll ps)

end

/-- What the expression of a fragment matches. -/
def fragment (source : String) (s : Cursor) : List Cursor :=
  Regex.ways (itemOf source.toList).regex s

end Pattern

/-! ## The meaning of fragments -/

namespace Pattern

section
variable {m₁ m₂ : String → Cursor → List Cursor}

mutual

/-- Only the fragments in a tree take part in what it means. -/
theorem ways_congr (p : Pattern) (h : ∀ source ∈ p.raws, m₁ source = m₂ source) :
    p.ways m₁ = p.ways m₂ :=
  match p with
  | literal _ => rfl
  | blank => rfl
  | textEnd => rfl
  | raw source => h source List.mem_cons_self
  | capture name inner => by
    funext s
    rw [ways, ways, ways_congr inner h]
  | optional inner => by
    funext s
    rw [ways, ways, ways_congr inner h]
  | choice parts => by
    funext s
    exact congrFun (waysAny_congr parts h) s
  | sequence parts => by
    funext s
    exact congrFun (waysAll_congr parts h) s

theorem waysAny_congr (ps : List Pattern) (h : ∀ source ∈ rawsAll ps, m₁ source = m₂ source) :
    waysAny m₁ ps = waysAny m₂ ps :=
  match ps with
  | [] => rfl
  | p :: ps => by
    funext s
    rw [waysAny, waysAny, ways_congr p fun source hs => h source (List.mem_append_left _ hs),
      waysAny_congr ps fun source hs => h source (List.mem_append_right _ hs)]

theorem waysAll_congr (ps : List Pattern) (h : ∀ source ∈ rawsAll ps, m₁ source = m₂ source) :
    waysAll m₁ ps = waysAll m₂ ps :=
  match ps with
  | [] => rfl
  | p :: ps => by
    funext s
    rw [waysAll, waysAll, ways_congr p fun source hs => h source (List.mem_append_left _ hs),
      waysAll_congr ps fun source hs => h source (List.mem_append_right _ hs)]

end

end

section
variable {φ : Cursor → Cursor} {m : String → Cursor → List Cursor}

mutual

/-- A tree looks at no more of a cursor than its fragments do. -/
theorem ways_map (hφ : Cursor.Uniform φ) (hm : ∀ source s, m source (φ s) = (m source s).map φ)
    (p : Pattern) (s : Cursor) : p.ways m (φ s) = (p.ways m s).map φ :=
  match p with
  | literal text => by
    rw [ways, ways, hφ.rest]
    split
    · rw [hφ.skip (List.IsPrefix.length_le ‹_›)]
      rfl
    · rfl
  | raw source => hm source s
  | blank => by
    rw [ways, ways, hφ.rest]
    cases hs : s.rest with
    | nil => rfl
    | cons c cs =>
      rw [hφ.skip (by simp [hs])]
      split <;> rfl
  | textEnd => by
    rw [ways, ways, hφ.rest]
    split <;> rfl
  | capture name inner => by
    rw [ways, ways, ways_map hφ hm inner, List.map_map, List.map_map]
    exact List.map_congr_left fun q _ => hφ.note s q name
  | optional inner => by
    rw [ways, ways, ways_map hφ hm inner, List.map_append]
    rfl
  | choice parts => waysAny_map hφ hm parts s
  | sequence parts => waysAll_map hφ hm parts s

theorem waysAny_map (hφ : Cursor.Uniform φ)
    (hm : ∀ source s, m source (φ s) = (m source s).map φ) (ps : List Pattern) (s : Cursor) :
    waysAny m ps (φ s) = (waysAny m ps s).map φ :=
  match ps with
  | [] => rfl
  | p :: ps => by
    rw [waysAny, waysAny, ways_map hφ hm p, waysAny_map hφ hm ps, List.map_append]

theorem waysAll_map (hφ : Cursor.Uniform φ)
    (hm : ∀ source s, m source (φ s) = (m source s).map φ) (ps : List Pattern) (s : Cursor) :
    waysAll m ps (φ s) = (waysAll m ps s).map φ :=
  match ps with
  | [] => rfl
  | p :: ps => by
    rw [waysAll, waysAll, ways_map hφ hm p, List.flatMap_map, List.map_flatMap]
    exact List.flatMap_congr fun q _ => waysAll_map hφ hm ps q

end

end

end Pattern

/-! ## Elements -/

namespace Regex

theorem Item.regex_sequence {items : List Item} (h : 2 ≤ items.length) :
    (Item.sequence items).regex = seqAll (items.reverse.map (·.regex)) := by
  match items, h with
  | _ :: _ :: _, _ => rfl

theorem Item.regex_choice {items : List Item} (h : 2 ≤ items.length) :
    (Item.choice items).regex = altAll (items.reverse.map (·.regex)) := by
  match items, h with
  | _ :: _ :: _, _ => rfl

theorem ways_inOrder (items : List Item) (s : Cursor) :
    ways (Item.inOrder items).regex s = waysAll (items.map (·.regex)) s := by
  match items with
  | [] => rfl
  | [i] => exact (waysAll_singleton i.regex s).symm
  | i :: j :: items =>
    rw [← ways_seqAll, Item.inOrder, Item.regex_sequence (by simp), List.reverse_reverse]

theorem ways_oneOf {items : List Item} (h : items ≠ []) (s : Cursor) :
    ways (Item.oneOf items).regex s = items.flatMap fun i => ways i.regex s := by
  match items with
  | [i] => simp [Item.oneOf, Item.choice]
  | i :: j :: items =>
    rw [Item.oneOf, Item.regex_choice (by simp), List.reverse_reverse, ways_altAll,
      List.flatMap_map]

/-- An element that may be left out matches as it does alone, or else nothing. -/
theorem ways_repeated_opt (i : Item) (s : Cursor) :
    ways (i.repeated ⟨0, some 1⟩ true).regex s = ways i.regex s ++ [s] := by
  have hb : (if i.emptyOnly then
      ({ low := min 0 1, high? := some ((some 1 : Option Nat).elim 1 (min · 1)) } : Bounds)
      else ⟨0, some 1⟩) = ⟨0, some 1⟩ := by
    split <;> rfl
  simp only [Item.repeated, Item.regex, hb]
  exact ways_opt true i.regex s

end Regex

/-! ## Trees -/

namespace Pattern

theorem waysAll_chars (cs : List Char) (s : Cursor) :
    Regex.waysAll (cs.map fun c => .char (.single c)) s =
      if cs <+: s.rest then [s.skip cs.length] else [] := by
  induction cs generalizing s with
  | nil => simp
  | cons c cs ih =>
    rw [List.map_cons, waysAll_cons, Regex.ways]
    cases h : s.rest with
    | nil => simp
    | cons d ds =>
      by_cases hcd : c = d
      · subst hcd
        have hmem : (CharSet.single c).mem c = true := by simp [CharSet.single, CharSet.mem]
        simp only [hmem, ↓reduceIte, List.flatMap_cons, List.flatMap_nil, List.append_nil, ih,
          Cursor.next_rest, List.cons_prefix_cons, true_and, Cursor.skip_next h, List.length_cons]
      · have hmem : (CharSet.single c).mem d = false := by
          simp only [CharSet.single, CharSet.mem, Bool.and_eq_false_iff, decide_eq_false_iff_not]
          exact Classical.not_and_iff_not_or_not.1 fun hle => hcd (Char.le_antisymm hle.1 hle.2)
        simp [hmem, hcd]

theorem ways_charBlank (s : Cursor) :
    Regex.ways (.char .blank) s = if s.rest.head?.any Text.isBlank then [s.skip 1] else [] := by
  cases h : s.rest with
  | nil => simp [Regex.ways, h]
  | cons c cs =>
    rw [← Cursor.skip_next h 0, Cursor.skip_zero]
    by_cases hc : Text.isBlank c = true <;> simp [Regex.ways, h, CharSet.mem, hc]

theorem ways_lookTextEnd (s : Cursor) :
    Regex.ways (.look .textEnd) s = if s.rest = [] then [s] else [] := by
  cases h : s.rest <;> simp [Regex.ways, h, Anchor.holds]

theorem waysAll_nowhere (s : Cursor) :
    Regex.waysAll [.look (.edge .either .word), .look (.edge .neither .word)] s = [] := by
  by_cases h : s.before.any (CharSet.word.mem ·) = s.rest.head?.any (CharSet.word.mem ·) <;>
    simp [Regex.waysAll, Regex.ways, Anchor.holds, WordEdge.holds, h]

mutual

/-- The elements of a tree match what the tree means. -/
theorem waysAll_items (p : Pattern) (s : Cursor) :
    Regex.waysAll (p.items.map (·.regex)) s = p.ways fragment s :=
  match p with
  | literal text => by
    rw [items, List.map_map, ways]
    exact waysAll_chars text.toList s
  | raw source => waysAll_singleton _ s
  | blank => (waysAll_singleton _ s).trans (ways_charBlank s)
  | textEnd => (waysAll_singleton _ s).trans (ways_lookTextEnd s)
  | capture name inner => by
    rw [items, List.map_singleton, waysAll_singleton, ways, ← waysAll_items inner,
      ← ways_inOrder]
    rfl
  | optional inner => by
    rw [items, List.map_singleton, waysAll_singleton, ways, ways_repeated_opt,
      ← waysAll_items inner, ← ways_inOrder]
    rfl
  | choice [] => waysAll_nowhere s
  | choice (p :: ps) => by
    rw [items, List.map_singleton, waysAll_singleton, ways, waysAny, ← waysAll_items p,
      ← waysAny_branches ps, ← ways_inOrder]
    exact ways_oneOf (by simp) s
  | sequence parts => waysAll_branches parts s

theorem waysAny_branches (ps : List Pattern) (s : Cursor) :
    ((branches ps).map Item.inOrder).flatMap (fun i => Regex.ways i.regex s) =
      waysAny fragment ps s :=
  match ps with
  | [] => rfl
  | p :: ps => by
    rw [branches, List.map_cons, List.flatMap_cons, ways_inOrder, waysAll_items p,
      waysAny_branches ps, waysAny]

theorem waysAll_branches (ps : List Pattern) (s : Cursor) :
    Regex.waysAll ((branches ps).flatten.map (·.regex)) s = waysAll fragment ps s :=
  match ps with
  | [] => rfl
  | p :: ps => by
    rw [branches, List.flatten_cons, List.map_append, Regex.waysAll_append, waysAll,
      waysAll_items p]
    exact List.flatMap_congr fun q _ => waysAll_branches ps q

end

theorem ways_item (p : Pattern) (s : Cursor) :
    Regex.ways p.item.regex s = p.ways fragment s := by
  rw [item, ways_inOrder]
  exact waysAll_items p s

/-- A compiled tree finds the leftmost place where the tree matches, and there the way that the tree
prefers. -/
theorem find_of_compile {p : Pattern} {limit : Nat} {r : Regex}
    (hw : Writable p.raws p.captures) (h : p.compile limit = .ok r) (text : String) :
    r.find text = leftmost (p.ways fragment) none 0 text.toList := by
  obtain ⟨-, -, -, rfl⟩ := item_of_compile hw h
  rw [find_eq_leftmost]
  exact congrArg (leftmost · none 0 text.toList) (funext (ways_item p))

end Pattern

end ChatCommand
