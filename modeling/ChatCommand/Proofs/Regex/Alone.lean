import ChatCommand.Proofs.Pattern.Reading
import ChatCommand.Proofs.Regex.Lockstep
import ChatCommand.Proofs.Regex.Parts

/-!
# Matches in a text and matches alone

`Regex.matchesAll r v`: the expression, anchored at both ends, finds a match in `v`. Inside of a
text an expression sees more than what it matches, through its assertions. `matchesAll_of_ways` says
that this gains nothing where blanks stand around the match, or the ends of the text: what is
matched there is also matched alone.

`ways_spans` bounds what a match can capture: only names of the expression.
-/

namespace ChatCommand

/-- The blanks, by code point. -/
def blankCodes : List Nat :=
  [9, 10, 11, 12, 13, 0x20, 0x85, 0xA0, 0x1680, 0x2000, 0x2001, 0x2002, 0x2003, 0x2004, 0x2005,
    0x2006, 0x2007, 0x2008, 0x2009, 0x200A, 0x2028, 0x2029, 0x202F, 0x205F, 0x3000]

theorem mem_blankCodes {c : Char} (h : Text.isBlank c = true) : c.toNat ∈ blankCodes := by
  simp only [Text.isBlank, Bool.or_eq_true, Bool.and_eq_true, decide_eq_true_eq, beq_iff_eq] at h
  simp only [blankCodes, List.mem_cons, List.not_mem_nil, or_false]
  omega

theorem not_word_of_blank {c : Char} (h : Text.isBlank c = true) :
    CharSet.word.mem c = false ∧ CharSet.asciiWord.mem c = false := by
  have hcodes : ∀ n ∈ blankCodes, CharSet.word.mem (Char.ofNat n) = false ∧
      CharSet.asciiWord.mem (Char.ofNat n) = false := by
    decide +kernel
  have := hcodes c.toNat (mem_blankCodes h)
  rwa [Char.ofNat_toNat] at this

namespace Regex

/-- The expression matches the text from its start to its end. -/
def matchesAll (r : Regex) (text : String) : Bool :=
  ((seqAll [.look .textStart, r, .look .textEnd]).find text).isSome

theorem ways_anchored (r : Regex) (s : Cursor) :
    ways (seqAll [.look .textStart, r, .look .textEnd]) s =
      if s.before = none then (ways r s).filter (·.rest.isEmpty) else [] := by
  have hend : ∀ l : List Cursor,
      l.flatMap (ways (.look .textEnd)) = l.filter (·.rest.isEmpty) := by
    intro l
    induction l with
    | nil => rfl
    | cons q l ih =>
      rw [List.flatMap_cons, List.filter_cons, ih]
      cases h : q.rest <;> simp [ways, Anchor.holds, h]
  rw [ways_seqAll, waysAll_cons, show waysAll [r, .look .textEnd] =
    fun q => (ways r q).flatMap (ways (.look .textEnd)) from funext fun q =>
      List.flatMap_congr fun u _ => waysAll_singleton _ u]
  simp only [hend]
  cases hb : s.before <;> simp [ways, Anchor.holds, hb]

/-- A search that can only succeed at the start of the text. -/
theorem leftmost_eq_start {f : Cursor → List Cursor}
    (h : ∀ s : Cursor, s.before ≠ none → f s = []) (cs : List Char) :
    leftmost f none 0 cs = (f { rest := cs }).head?.map (·.found 0) := by
  have hlate : ∀ c pos ds, leftmost f (some c) pos ds = none := by
    intro c pos ds
    induction ds generalizing c pos with
    | nil => simp [leftmost, h]
    | cons d ds ih => simp [leftmost, h, ih]
  cases cs <;> simp [leftmost, hlate]

theorem matchesAll_iff (r : Regex) (text : String) :
    r.matchesAll text = true ↔ ∃ q ∈ ways r { rest := text.toList }, q.rest = [] := by
  rw [matchesAll, find_eq_leftmost,
    leftmost_eq_start fun s hs => by rw [ways_anchored, if_neg hs], ways_anchored, if_pos rfl]
  simp

/-! ## Parts of a text -/

/-- The cursors are before the same text, but behind that of `s` there is also `tail`; and `t` may
be at the start of its text where `s` is behind a blank. -/
structure Cursor.Cut (tail : List Char) (s t : Cursor) : Prop where
  rest : s.rest = t.rest ++ tail
  before : t.before = s.before ∨ t.before = none ∧ ∀ c ∈ s.before, Text.isBlank c = true

theorem any_word_eq {x y : Option Char} {set : CharSet} (hset : set = .word ∨ set = .asciiWord)
    (h : x = y ∨ x = none ∧ ∀ c ∈ y, Text.isBlank c = true) :
    x.any (set.mem ·) = y.any (set.mem ·) := by
  rcases h with rfl | ⟨rfl, h⟩
  · rfl
  · cases y with
    | none => rfl
    | some c =>
      have := not_word_of_blank (h c rfl)
      rcases hset with rfl | rfl
      · simp [this.1]
      · simp [this.2]

/-- An assertion that holds in the text also holds where the text is cut at blanks. -/
theorem holds_of_cut {a : Anchor} (ha : a.Usual) {tail : List Char}
    (htail : ∀ c ∈ tail.head?, Text.isBlank c = true) {s t : Cursor} (hc : s.Cut tail t)
    (h : a.holds s.before s.rest.head? = true) : a.holds t.before t.rest.head? = true := by
  have hafter : t.rest.head? = s.rest.head? ∨
      t.rest.head? = none ∧ ∀ c ∈ s.rest.head?, Text.isBlank c = true := by
    rw [hc.rest]
    cases t.rest with
    | nil => exact .inr ⟨rfl, htail⟩
    | cons c cs => exact .inl rfl
  have hbefore := hc.before
  revert hafter hbefore h
  generalize t.before = x, s.before = x', t.rest.head? = y, s.rest.head? = y'
  intro h hafter hbefore
  cases a with
  | edge kind set =>
    simp only [Anchor.holds] at h ⊢
    rwa [any_word_eq ha hbefore, any_word_eq ha hafter]
  | returnLineStart | returnLineEnd =>
    rcases hbefore with rfl | ⟨rfl, -⟩ <;> rcases hafter with rfl | ⟨rfl, -⟩ <;>
      simp_all [Anchor.holds]
    exact h.imp_right And.left
  | _ =>
    rcases hbefore with rfl | ⟨rfl, -⟩ <;> rcases hafter with rfl | ⟨rfl, -⟩ <;>
      simp_all [Anchor.holds]

theorem Cursor.Cut.movedFrom {tail : List Char} {s t q u : Cursor} (hs : s.Cut tail t)
    (hq : q.Cut tail u) : u.movedFrom t = q.movedFrom s := by
  simp only [Cursor.movedFrom, hs.rest, hq.rest, List.length_append, Nat.add_lt_add_iff_right]

theorem suffix_of_ways {r : Regex} {s q : Cursor} {tail : List Char} (h : q ∈ ways r s)
    (hq : tail <:+ q.rest) : tail <:+ s.rest := by
  obtain ⟨w, hw, -⟩ := ways_behind h
  rw [hw.rest]
  exact hq.trans (List.suffix_append w _)

theorem suffix_of_iterate {greedy : Bool} {r : Regex} {s q : Cursor} {tail : List Char}
    (h : q ∈ iterate greedy (ways r) s) (hq : tail <:+ q.rest) : tail <:+ s.rest := by
  obtain ⟨w, hw⟩ := iterate_behind (fun _ _ hu => (ways_behind hu).imp fun _ hw => hw.1) s q h
  rw [hw.rest]
  exact hq.trans (List.suffix_append w _)

/-- What a match in the text does in front of `tail`, a match in the cut text does too. -/
def Cuts (tail : List Char) (f : Cursor → List Cursor) : Prop :=
  ∀ s t q, s.Cut tail t → q ∈ f s → tail <:+ q.rest → ∃ u ∈ f t, q.Cut tail u

theorem Cuts.iterate {tail : List Char} {r : Regex} (h : Cuts tail (ways r)) (greedy : Bool) :
    Cuts tail (iterate greedy (ways r)) := by
  intro s t q hc hq hsuf
  rcases mem_iterate.1 hq with rfl | ⟨q', hq', hmoved, hit⟩
  · exact ⟨t, mem_iterate.2 (.inl rfl), hc⟩
  · obtain ⟨u', hu', hc'⟩ := h s t q' hc hq' (suffix_of_iterate hit hsuf)
    obtain ⟨u, hu, hcu⟩ := Cuts.iterate h greedy q' u' q hc' hit hsuf
    refine ⟨u, mem_iterate.2 (.inr ⟨u', hu', ?_, hu⟩), hcu⟩
    rw [hc.movedFrom hc', hmoved]
termination_by s => s.rest.length
decreasing_by simpa [Cursor.movedFrom] using hmoved

theorem ways_cuts {names : List String} {r : Regex} (hr : r.Fits names) {tail : List Char}
    (htail : ∀ c ∈ tail.head?, Text.isBlank c = true) : Cuts tail (ways r) := by
  induction r with
  | empty =>
    intro s t q hc hq _
    obtain rfl : q = s := by simpa [ways] using hq
    exact ⟨t, by simp [ways], hc⟩
  | char set =>
    intro s t q hc hq hsuf
    have hrest := hc.rest
    simp only [ways] at hq ⊢
    cases hs : s.rest with
    | nil => simp [hs] at hq
    | cons c cs =>
      simp only [hs] at hq
      split at hq
      · obtain rfl : q = s.next c cs := by simpa using hq
        cases ht : t.rest with
        | nil =>
          -- The character would be the first one of `tail`, which is still to come.
          rw [hs, ht, List.nil_append] at hrest
          have hlen := hsuf.length_le
          rw [← hrest, Cursor.next_rest, List.length_cons] at hlen
          omega
        | cons d ds =>
          rw [hs, ht, List.cons_append, List.cons.injEq] at hrest
          obtain ⟨rfl, hrest⟩ := hrest
          exact ⟨t.next c ds, by simp [*], hrest, .inl rfl⟩
      · simp at hq
  | look a =>
    intro s t q hc hq _
    simp only [ways] at hq
    split at hq
    · obtain rfl : q = s := by simpa using hq
      exact ⟨t, by simp [ways, holds_of_cut hr htail hc ‹_›], hc⟩
    · simp at hq
  | capture name r ih =>
    intro s t q hc hq hsuf
    simp only [ways, List.mem_map] at hq
    obtain ⟨q', hq', rfl⟩ := hq
    obtain ⟨u, hu, hcu⟩ := ih hr.2 s t q' hc hq' hsuf
    exact ⟨u.note name t.pos, List.mem_map_of_mem hu, hcu.rest, hcu.before⟩
  | seq _ r₁ r₂ ih₁ ih₂ =>
    intro s t q hc hq hsuf
    simp only [ways, List.mem_flatMap] at hq ⊢
    obtain ⟨q', hq', hq⟩ := hq
    obtain ⟨u', hu', hc'⟩ := ih₁ hr.1 s t q' hc hq' (suffix_of_ways hq hsuf)
    obtain ⟨u, hu, hcu⟩ := ih₂ hr.2 q' u' q hc' hq hsuf
    exact ⟨u, ⟨u', hu', hu⟩, hcu⟩
  | alt r₁ r₂ ih₁ ih₂ =>
    intro s t q hc hq hsuf
    simp only [ways, List.mem_append] at hq ⊢
    rcases hq with hq | hq
    · obtain ⟨u, hu, hcu⟩ := ih₁ hr.1 s t q hc hq hsuf
      exact ⟨u, .inl hu, hcu⟩
    · obtain ⟨u, hu, hcu⟩ := ih₂ hr.2 s t q hc hq hsuf
      exact ⟨u, .inr hu, hcu⟩
  | plus greedy r ih =>
    intro s t q hc hq hsuf
    simp only [ways, List.mem_flatMap] at hq ⊢
    obtain ⟨q', hq', hq⟩ := hq
    split at hq
    · obtain ⟨u', hu', hc'⟩ := ih hr s t q' hc hq' (suffix_of_iterate hq hsuf)
      obtain ⟨u, hu, hcu⟩ := (ih hr).iterate greedy q' u' q hc' hq hsuf
      refine ⟨u, ⟨u', hu', ?_⟩, hcu⟩
      rwa [hc.movedFrom hc', if_pos ‹_›]
    · obtain rfl : q = q' := by simpa using hq
      obtain ⟨u, hu, hcu⟩ := ih hr s t q hc hq' hsuf
      refine ⟨u, ⟨u, hu, ?_⟩, hcu⟩
      rw [hc.movedFrom hcu, if_neg ‹_›]
      exact List.mem_singleton_self u

/-- What is matched between blanks, or the ends of the text, is also matched alone. -/
theorem matchesAll_of_ways {names : List String} {r : Regex} (hr : r.Fits names) {s q : Cursor}
    {v : String} (hq : q ∈ ways r s) (hv : s.rest = v.toList ++ q.rest)
    (hbefore : ∀ c ∈ s.before, Text.isBlank c = true)
    (hafter : ∀ c ∈ q.rest.head?, Text.isBlank c = true) : r.matchesAll v = true := by
  have hc : s.Cut q.rest { rest := v.toList } := ⟨hv, .inr ⟨rfl, hbefore⟩⟩
  obtain ⟨u, hu, hcu⟩ := ways_cuts hr hafter s _ q hc hq List.suffix_rfl
  exact (matchesAll_iff r v).2 ⟨u, hu, by simpa using hcu.rest⟩

/-! ## Captures -/

/-- What was captured before `q` since `s` has a name among `names`. -/
def Cursor.Captured (names : List String) (s q : Cursor) : Prop :=
  ∃ new, q.spans = new ++ s.spans ∧ ∀ e ∈ new, e.1 ∈ names

theorem Cursor.Captured.refl (names : List String) (s : Cursor) : s.Captured names s :=
  ⟨[], rfl, List.forall_mem_nil _⟩

theorem Cursor.Captured.trans {names : List String} {s q u : Cursor} (h₁ : s.Captured names q)
    (h₂ : q.Captured names u) : s.Captured names u := by
  obtain ⟨l₁, he₁, hn₁⟩ := h₁
  obtain ⟨l₂, he₂, hn₂⟩ := h₂
  exact ⟨l₂ ++ l₁, by rw [he₂, he₁, List.append_assoc], List.forall_mem_append.2 ⟨hn₂, hn₁⟩⟩

theorem Cursor.Captured.note {names : List String} {s q : Cursor} (h : s.Captured names q)
    {name : String} (hn : name ∈ names) (start : Nat) : s.Captured names (q.note name start) := by
  obtain ⟨l, he, hl⟩ := h
  exact ⟨(name, ⟨start, q.pos⟩) :: l, by simp [he], List.forall_mem_cons.2 ⟨hn, hl⟩⟩

theorem iterate_spans {names : List String} {greedy : Bool} {f : Cursor → List Cursor}
    (hf : ∀ s q, q ∈ f s → s.Captured names q) (s u : Cursor) (h : u ∈ iterate greedy f s) :
    s.Captured names u := by
  rcases mem_iterate.1 h with rfl | ⟨q, hq, hmoved, hu⟩
  · exact .refl _ _
  · exact (hf s q hq).trans (iterate_spans hf q u hu)
termination_by s.rest.length
decreasing_by simpa [Cursor.movedFrom] using hmoved

/-- An expression captures only under its own names. -/
theorem ways_spans {names : List String} {r : Regex} (hr : r.Fits names) {s q : Cursor}
    (hq : q ∈ ways r s) : s.Captured names q := by
  induction r generalizing s q with
  | empty =>
    obtain rfl : q = s := by simpa [ways] using hq
    exact .refl _ _
  | char set =>
    simp only [ways] at hq
    split at hq
    · simp at hq
    · split at hq
      · obtain rfl : q = s.next _ _ := by simpa using hq
        exact ⟨[], rfl, List.forall_mem_nil _⟩
      · simp at hq
  | look a =>
    simp only [ways] at hq
    split at hq
    · obtain rfl : q = s := by simpa using hq
      exact .refl _ _
    · simp at hq
  | capture name r ih =>
    simp only [ways, List.mem_map] at hq
    obtain ⟨u, hu, rfl⟩ := hq
    exact (ih hr.2 hu).note hr.1 _
  | seq _ r t ihr iht =>
    simp only [ways, List.mem_flatMap] at hq
    obtain ⟨u, hu, hq⟩ := hq
    exact (ihr hr.1 hu).trans (iht hr.2 hq)
  | alt r t ihr iht =>
    simp only [ways, List.mem_append] at hq
    rcases hq with hq | hq
    · exact ihr hr.1 hq
    · exact iht hr.2 hq
  | plus greedy r ih =>
    simp only [ways, List.mem_flatMap] at hq
    obtain ⟨u, hu, hq⟩ := hq
    split at hq
    · exact (ih hr hu).trans (iterate_spans (fun _ _ h => ih hr h) u q hq)
    · obtain rfl : q = u := by simpa using hq
      exact ih hr hu

/-! ## Fragments -/

theorem Fragment.fits {cs : List Char} (h : Fragment cs) :
    (itemOf cs).regex.Fits (namesOf cs) := by
  obtain ⟨⟨i, hi⟩, -⟩ := h
  obtain ⟨r, hr, hf⟩ := readItem_eq_ok.1 hi
  simp only [itemOf, namesOf, hi, hr]
  exact (Reader.finish_fits hr hf).mono fun n hn => List.mem_reverse.2 hn

end Regex

end ChatCommand
