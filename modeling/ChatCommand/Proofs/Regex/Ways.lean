import ChatCommand.Regex.Match
import Mathlib.Data.List.Forall2

/-!
# The ways in which an expression matches

`Regex.ways r s`: the cursors at which a match of `r` that starts at the cursor `s` can end, the
preferred one first, each with what was captured on the way. This is the backtracking reading of an
expression: every constructor is one combination of lists, and no state is shared between
alternatives. `leftmost` is the search it stands for. `Proofs/Regex/Lockstep.lean` proves that
`Regex.find` computes exactly this.

`iterate` is the loop of `plus` behind its first iteration. An iteration that consumes nothing is no
further iteration, so the loop ends with the text.
-/

namespace ChatCommand.Regex

/-- A place in a text, with what was captured on the way to it. -/
structure Cursor where
  /-- The character before the place. -/
  before : Option Char := none
  /-- The number of characters before the place. -/
  pos : Nat := 0
  /-- The text behind the place. -/
  rest : List Char
  /-- The captures that are complete, latest first. -/
  spans : List (String × Span) := []
deriving DecidableEq, Repr

namespace Cursor

/-- The cursor behind the next character `c`, in front of `cs`. -/
def next (s : Cursor) (c : Char) (cs : List Char) : Cursor :=
  { s with before := some c, pos := s.pos + 1, rest := cs }

/-- The cursor with a capture that starts at `start` and ends here. -/
def note (s : Cursor) (name : String) (start : Nat) : Cursor :=
  { s with spans := (name, ⟨start, s.pos⟩) :: s.spans }

/-- The cursor with earlier captures behind its own. -/
def carry (s : Cursor) (old : List (String × Span)) : Cursor :=
  { s with spans := s.spans ++ old }

/-- The text between `s` and `q` is not empty. -/
def movedFrom (q s : Cursor) : Bool :=
  decide (q.rest.length < s.rest.length)

/-- The match that starts at `start` and ends at the cursor. -/
def found (q : Cursor) (start : Nat) : Found where
  span := ⟨start, q.pos⟩
  spans := q.spans

/-- `q` is behind `w` in the text that `s` is in front of. -/
structure Behind (q s : Cursor) (w : List Char) : Prop where
  rest : s.rest = w ++ q.rest
  pos : q.pos = s.pos + w.length
  before : q.before = w.getLast?.or s.before

end Cursor

/-- The cursors at which a loop over `f` can stop that has come to `s`. -/
def iterate (greedy : Bool) (f : Cursor → List Cursor) (s : Cursor) : List Cursor :=
  let further := (f s).flatMap fun q =>
    if q.rest.length < s.rest.length then iterate greedy f q else []
  if greedy then further ++ [s] else s :: further
termination_by s.rest.length

/-- The cursors at which a match from `s` can end, the preferred one first. -/
def ways : Regex → Cursor → List Cursor
  | empty, s => [s]
  | char set, s =>
    match s.rest with
    | [] => []
    | c :: cs => if set.mem c then [s.next c cs] else []
  | look a, s => if a.holds s.before s.rest.head? then [s] else []
  | capture name r, s => (ways r s).map (·.note name s.pos)
  | seq _ r t, s => (ways r s).flatMap (ways t)
  | alt r t, s => ways r s ++ ways t s
  | plus greedy r, s =>
    (ways r s).flatMap fun q => if q.movedFrom s then iterate greedy (ways r) q else [q]

/-- The preferred match at the first place where there is one. -/
def leftmost (f : Cursor → List Cursor) (before : Option Char) (pos : Nat) :
    List Char → Option Found
  | [] => (f { before, pos, rest := [] }).head?.map (·.found pos)
  | c :: cs =>
    ((f { before, pos, rest := c :: cs }).head?.map (·.found pos)).or
      (leftmost f (some c) (pos + 1) cs)

/-! ## Cursors -/

namespace Cursor

@[simp] theorem next_rest (s : Cursor) (c : Char) (cs : List Char) : (s.next c cs).rest = cs := rfl

@[simp] theorem next_pos (s : Cursor) (c : Char) (cs : List Char) :
    (s.next c cs).pos = s.pos + 1 := rfl

@[simp] theorem next_before (s : Cursor) (c : Char) (cs : List Char) :
    (s.next c cs).before = some c := rfl

@[simp] theorem next_spans (s : Cursor) (c : Char) (cs : List Char) :
    (s.next c cs).spans = s.spans := rfl

@[simp] theorem note_rest (s : Cursor) (n : String) (i : Nat) : (s.note n i).rest = s.rest := rfl

@[simp] theorem note_pos (s : Cursor) (n : String) (i : Nat) : (s.note n i).pos = s.pos := rfl

@[simp] theorem note_before (s : Cursor) (n : String) (i : Nat) :
    (s.note n i).before = s.before := rfl

@[simp] theorem note_spans (s : Cursor) (n : String) (i : Nat) :
    (s.note n i).spans = (n, ⟨i, s.pos⟩) :: s.spans := rfl

@[simp] theorem carry_rest (s : Cursor) (old : List (String × Span)) :
    (s.carry old).rest = s.rest := rfl

@[simp] theorem carry_pos (s : Cursor) (old : List (String × Span)) :
    (s.carry old).pos = s.pos := rfl

@[simp] theorem carry_before (s : Cursor) (old : List (String × Span)) :
    (s.carry old).before = s.before := rfl

@[simp] theorem carry_spans (s : Cursor) (old : List (String × Span)) :
    (s.carry old).spans = s.spans ++ old := rfl

@[simp] theorem movedFrom_self (s : Cursor) : s.movedFrom s = false := by simp [movedFrom]

theorem Behind.refl (s : Cursor) : s.Behind s [] := ⟨rfl, rfl, by simp⟩

theorem Behind.trans {s q u : Cursor} {v w : List Char} (h₁ : q.Behind s v) (h₂ : u.Behind q w) :
    u.Behind s (v ++ w) where
  rest := by rw [h₁.rest, h₂.rest, List.append_assoc]
  pos := by rw [h₂.pos, h₁.pos, List.length_append]; omega
  before := by
    rw [h₂.before, h₁.before, List.getLast?_append, Option.or_assoc]

theorem Behind.next {s : Cursor} {c : Char} {cs : List Char} (h : s.rest = c :: cs) :
    (s.next c cs).Behind s [c] := ⟨h, rfl, rfl⟩

theorem Behind.note {s q : Cursor} {w : List Char} (h : q.Behind s w) (n : String) (i : Nat) :
    (q.note n i).Behind s w := ⟨h.rest, h.pos, h.before⟩

theorem Behind.movedFrom {s q : Cursor} {w : List Char} (h : q.Behind s w) :
    q.movedFrom s = !w.isEmpty := by
  cases w with
  | nil => simp [Cursor.movedFrom, h.rest]
  | cons c w =>
    refine decide_eq_true ?_
    rw [h.rest, List.length_append, List.length_cons]
    omega

end Cursor

/-! ## The text that a match takes -/

theorem iterate_eq (greedy : Bool) (f : Cursor → List Cursor) (s : Cursor) :
    iterate greedy f s =
      if greedy then
        ((f s).flatMap fun q => if q.movedFrom s then iterate greedy f q else []) ++ [s]
      else s :: (f s).flatMap fun q => if q.movedFrom s then iterate greedy f q else [] := by
  rw [iterate]
  simp only [Cursor.movedFrom, decide_eq_true_eq]

theorem mem_iterate {greedy : Bool} {f : Cursor → List Cursor} {s u : Cursor} :
    u ∈ iterate greedy f s ↔
      u = s ∨ ∃ q ∈ f s, q.movedFrom s = true ∧ u ∈ iterate greedy f q := by
  rw [iterate_eq]
  have hloop : u ∈ ((f s).flatMap fun q => if q.movedFrom s then iterate greedy f q else []) ↔
      ∃ q ∈ f s, q.movedFrom s = true ∧ u ∈ iterate greedy f q := by
    simp only [List.mem_flatMap]
    refine exists_congr fun q => and_congr_right fun _ => ?_
    cases q.movedFrom s <;> simp
  cases greedy
  · simp only [Bool.false_eq_true, ↓reduceIte, List.mem_cons, hloop]
  · simp only [↓reduceIte, List.mem_append, List.mem_singleton, hloop]
    exact or_comm

theorem iterate_behind {greedy : Bool} {f : Cursor → List Cursor}
    (hf : ∀ s q, q ∈ f s → ∃ w, q.Behind s w) (s u : Cursor) (h : u ∈ iterate greedy f s) :
    ∃ w, u.Behind s w := by
  rcases mem_iterate.1 h with rfl | ⟨q, hq, hlt, hu⟩
  · exact ⟨[], .refl _⟩
  · obtain ⟨v, hv⟩ := hf s q hq
    obtain ⟨w, hw⟩ := iterate_behind hf q u hu
    exact ⟨v ++ w, hv.trans hw⟩
termination_by s.rest.length
decreasing_by simpa [Cursor.movedFrom] using hlt

/-- A match takes a part of the text, and not less than the expression needs. -/
theorem ways_behind {r : Regex} {s q : Cursor} (h : q ∈ ways r s) :
    ∃ w, q.Behind s w ∧ r.minLength ≤ w.length := by
  induction r generalizing s q with
  | empty =>
    obtain rfl : q = s := by simpa [ways] using h
    exact ⟨[], .refl _, Nat.le_refl _⟩
  | char set =>
    simp only [ways] at h
    split at h
    · simp at h
    · rename_i c cs hs
      split at h
      · obtain rfl : q = s.next c cs := by simpa using h
        exact ⟨[c], .next hs, Nat.le_refl _⟩
      · simp at h
  | look a =>
    simp only [ways] at h
    split at h
    · obtain rfl : q = s := by simpa using h
      exact ⟨[], .refl _, Nat.le_refl _⟩
    · simp at h
  | capture name r ih =>
    simp only [ways, List.mem_map] at h
    obtain ⟨u, hu, rfl⟩ := h
    obtain ⟨w, hw, hl⟩ := ih hu
    exact ⟨w, hw.note _ _, hl⟩
  | seq _ r t ihr iht =>
    simp only [ways, List.mem_flatMap] at h
    obtain ⟨u, hu, hq⟩ := h
    obtain ⟨v, hv, hlv⟩ := ihr hu
    obtain ⟨w, hw, hlw⟩ := iht hq
    exact ⟨v ++ w, hv.trans hw, by simp only [minLength, List.length_append]; omega⟩
  | alt r t ihr iht =>
    simp only [ways, List.mem_append] at h
    rcases h with h | h
    · obtain ⟨w, hw, hl⟩ := ihr h
      exact ⟨w, hw, by simp only [minLength]; omega⟩
    · obtain ⟨w, hw, hl⟩ := iht h
      exact ⟨w, hw, by simp only [minLength]; omega⟩
  | plus greedy r ih =>
    simp only [ways, List.mem_flatMap] at h
    obtain ⟨u, hu, hq⟩ := h
    obtain ⟨v, hv, hl⟩ := ih hu
    split at hq
    · obtain ⟨w, hw⟩ := iterate_behind (fun _ _ h => (ih h).imp fun _ h => h.1) u q hq
      exact ⟨v ++ w, hv.trans hw, by simp only [minLength, List.length_append]; omega⟩
    · obtain rfl : q = u := by simpa using hq
      exact ⟨v, hv, hl⟩

theorem ways_eq_nil_of_short {r : Regex} {s : Cursor} (h : s.rest.length < r.minLength) :
    ways r s = [] := by
  rw [List.eq_nil_iff_forall_not_mem]
  intro q hq
  obtain ⟨w, hw, hl⟩ := ways_behind hq
  have := congrArg List.length hw.rest
  simp only [List.length_append] at this
  omega

/-! ## What has no influence on a match -/

/-- `φ` changes cursors in what a match does not look at, and all of them alike. -/
structure Cursor.Uniform (φ : Cursor → Cursor) : Prop where
  before (s : Cursor) : (φ s).before = s.before
  rest (s : Cursor) : (φ s).rest = s.rest
  next (s : Cursor) (c : Char) (cs : List Char) : (φ s).next c cs = φ (s.next c cs)
  note (s q : Cursor) (name : String) : (φ q).note name (φ s).pos = φ (q.note name s.pos)

theorem Cursor.Uniform.movedFrom {φ : Cursor → Cursor} (hφ : Uniform φ) (q s : Cursor) :
    (φ q).movedFrom (φ s) = q.movedFrom s := by
  rw [Cursor.movedFrom, hφ.rest, hφ.rest]
  rfl

theorem iterate_map {φ : Cursor → Cursor} (hφ : Cursor.Uniform φ) {greedy : Bool}
    {f : Cursor → List Cursor} (hf : ∀ s, f (φ s) = (f s).map φ) (s : Cursor) :
    iterate greedy f (φ s) = (iterate greedy f s).map φ := by
  have hloop : (((f s).map φ).flatMap fun q =>
        if q.movedFrom (φ s) then iterate greedy f q else []) =
      ((f s).flatMap fun q => if q.movedFrom s then iterate greedy f q else []).map φ := by
    rw [List.flatMap_map, List.map_flatMap]
    refine List.flatMap_congr fun q _ => ?_
    rw [hφ.movedFrom]
    by_cases hlt : q.movedFrom s = true
    · rw [if_pos hlt, if_pos hlt]
      exact iterate_map hφ hf q
    · rw [if_neg hlt, if_neg hlt]
      rfl
  rw [iterate_eq, iterate_eq, hf, hloop]
  cases greedy <;> simp
termination_by s.rest.length
decreasing_by simpa [Cursor.movedFrom] using hlt

theorem ways_map {φ : Cursor → Cursor} (hφ : Cursor.Uniform φ) (r : Regex) (s : Cursor) :
    ways r (φ s) = (ways r s).map φ := by
  induction r generalizing s with
  | empty => rfl
  | char set =>
    simp only [ways, hφ.rest]
    split
    · rfl
    · split
      · rw [hφ.next]
        rfl
      · rfl
  | look a =>
    simp only [ways, hφ.before, hφ.rest]
    by_cases h : a.holds s.before s.rest.head? = true <;> simp [h]
  | capture name r ih =>
    simp only [ways, ih, List.map_map]
    exact List.map_congr_left fun q _ => hφ.note s q name
  | seq _ r t ihr iht =>
    simp only [ways, ihr, List.flatMap_map, List.map_flatMap, iht]
  | alt r t ihr iht => simp only [ways, ihr, iht, List.map_append]
  | plus greedy r ih =>
    simp only [ways, ih, List.flatMap_map, List.map_flatMap, hφ.movedFrom]
    refine List.flatMap_congr fun q _ => ?_
    by_cases hlt : q.movedFrom s = true
    · rw [if_pos hlt, if_pos hlt]
      exact iterate_map hφ ih q
    · rw [if_neg hlt, if_neg hlt]
      rfl

theorem Cursor.uniform_carry (old : List (String × Span)) : Uniform (·.carry old) where
  before _ := rfl
  rest _ := rfl
  next _ _ _ := rfl
  note _ _ _ := rfl

theorem iterate_carry {greedy : Bool} {f : Cursor → List Cursor} {old : List (String × Span)}
    (hf : ∀ s, f (s.carry old) = (f s).map (·.carry old)) (s : Cursor) :
    iterate greedy f (s.carry old) = (iterate greedy f s).map (·.carry old) :=
  iterate_map (Cursor.uniform_carry old) hf s

/-- What was captured before a match has no influence on it. -/
theorem ways_carry (r : Regex) (s : Cursor) (old : List (String × Span)) :
    ways r (s.carry old) = (ways r s).map (·.carry old) :=
  ways_map (Cursor.uniform_carry old) r s

/-- The cursor in a text with `n` more characters in front. -/
def Cursor.shift (n : Nat) (s : Cursor) : Cursor :=
  { s with
    pos := s.pos + n
    spans := s.spans.map fun e => (e.1, ⟨e.2.start + n, e.2.stop + n⟩) }

/-- Nor has the number of characters in front of it. -/
theorem Cursor.uniform_shift (n : Nat) : Uniform (shift n) where
  before _ := rfl
  rest _ := rfl
  next s c cs := by
    simp only [Cursor.next, shift]
    congr 1
    omega
  note _ _ _ := rfl

/-! ## Sequences and alternatives -/

/-- The cursors at which matches of all of `rs`, one after another, can end. -/
def waysAll : List Regex → Cursor → List Cursor
  | [], s => [s]
  | r :: rs, s => (ways r s).flatMap (waysAll rs)

@[simp] theorem waysAll_nil (s : Cursor) : waysAll [] s = [s] := rfl

theorem waysAll_cons (r : Regex) (rs : List Regex) (s : Cursor) :
    waysAll (r :: rs) s = (ways r s).flatMap (waysAll rs) := rfl

theorem waysAll_append (rs ts : List Regex) (s : Cursor) :
    waysAll (rs ++ ts) s = (waysAll rs s).flatMap (waysAll ts) := by
  induction rs generalizing s with
  | nil => simp
  | cons r rs ih =>
    simp only [List.cons_append, waysAll_cons, List.flatMap_assoc]
    exact List.flatMap_congr fun q _ => ih q

theorem waysAll_singleton (r : Regex) (s : Cursor) : waysAll [r] s = ways r s := by
  rw [waysAll_cons, show waysAll [] = fun q => [q] from rfl, List.flatMap_singleton']

theorem ways_seqAll (rs : List Regex) (s : Cursor) : ways (seqAll rs) s = waysAll rs s := by
  induction rs generalizing s with
  | nil => rfl
  | cons r rs ih =>
    cases rs with
    | nil => exact (waysAll_singleton r s).symm
    | cons t ts =>
      simp only [seqAll, ways, waysAll_cons r]
      exact List.flatMap_congr fun q _ => ih q

theorem ways_altAll (rs : List Regex) (s : Cursor) :
    ways (altAll rs) s = rs.flatMap (ways · s) := by
  induction rs with
  | nil =>
    simp only [altAll, ways, List.flatMap_nil]
    split
    · rfl
    · simp [CharSet.mem]
  | cons r rs ih =>
    cases rs with
    | nil => simp [altAll]
    | cons t ts =>
      rw [altAll, ways, ih]
      · rfl
      · simp

theorem ways_opt (greedy : Bool) (r : Regex) (s : Cursor) :
    ways (opt greedy r) s = if greedy then ways r s ++ [s] else s :: ways r s := by
  cases greedy <;> rfl

end ChatCommand.Regex
