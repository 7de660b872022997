import ChatCommand.Command.Basic
import ChatCommand.Proofs.Pattern.Meaning

/-!
# Trees over the built-in types

`ValueType.Accepts` is the language of a type, `ValueType.takes` its ordered meaning: the values
that the text begins with, longer ones first. `ways_source` says that the pattern syntax of the type
has this meaning.

`Pattern.compile_typed`: a tree whose fragments are those of the types and whose captures have
distinct names compiles, the limits on size and nesting apart, and its matches are those of
`Pattern.ways`, in every detail that a match reports.
-/

namespace ChatCommand

open Regex

namespace ValueType

/-- The values of a type. -/
def Accepts : ValueType → List Char → Prop
  | string, v => v ≠ [] ∧ ∀ c ∈ v, Text.isBlank c = false
  | integer, v => v ≠ [] ∧ ∀ c ∈ v, c.isDigit = true
  | float, v => ∃ whole fraction, v = whole ++ '.' :: fraction ∧ (∀ c ∈ whole, c.isDigit = true) ∧
      fraction ≠ [] ∧ ∀ c ∈ fraction, c.isDigit = true
  | text, v => v ≠ [] ∧ ∀ c ∈ v, c ≠ '\n'

/-- The text is a value of the type. -/
def accepts : ValueType → List Char → Bool
  | string, v => !v.isEmpty && v.all (!Text.isBlank ·)
  | integer, v => !v.isEmpty && v.all Char.isDigit
  | float, v =>
    match v.dropWhile Char.isDigit with
    | '.' :: fraction => !fraction.isEmpty && fraction.all Char.isDigit
    | _ => false
  | text, v => !v.isEmpty && v.all (· != '\n')

theorem accepts_iff (t : ValueType) (v : List Char) : t.accepts v = true ↔ t.Accepts v := by
  cases t with
  | string => simp [accepts, Accepts]
  | integer => simp [accepts, Accepts]
  | text => simp [accepts, Accepts]
  | float =>
    simp only [accepts, Accepts]
    constructor
    · intro h
      split at h
      · rename_i fraction hdrop
        refine ⟨v.takeWhile Char.isDigit, fraction, ?_, fun c hc => ?_, by simpa using h⟩
        · rw [← hdrop, List.takeWhile_append_dropWhile]
        · exact List.all_eq_true.1 List.all_takeWhile c hc
      · cases h
    · rintro ⟨whole, fraction, rfl, hw, hf, hd⟩
      rw [List.dropWhile_append_of_pos hw, List.dropWhile_cons_of_neg (by decide)]
      simpa [hf] using hd

instance (t : ValueType) : DecidablePred t.Accepts := fun v =>
  decidable_of_iff _ (t.accepts_iff v)

end ValueType

/-! ## Beginnings of a text -/

namespace Regex.Cursor

/-- The cursors behind those beginnings of the text that satisfy `p`, longer ones first. -/
def takes (p : List Char → Bool) (s : Cursor) : List Cursor :=
  ((List.range (s.rest.length + 1)).reverse.filter fun n => p (s.rest.take n)).map s.skip

theorem takes_nil {s : Cursor} (h : s.rest = []) (p : List Char → Bool) :
    s.takes p = if p [] then [s] else [] := by
  by_cases hp : p [] = true <;> simp [takes, h, hp]

theorem takes_cons {s : Cursor} {c : Char} {cs : List Char} (h : s.rest = c :: cs)
    (p : List Char → Bool) :
    s.takes p = (s.next c cs).takes (fun v => p (c :: v)) ++ if p [] then [s] else [] := by
  have hskip : s.skip ∘ Nat.succ = (s.next c cs).skip := funext fun n => (skip_next h n).symm
  have htake : (fun n => p (s.rest.take n)) ∘ Nat.succ = fun n => p (c :: cs.take n) := by
    funext n
    simp [h]
  rw [takes, takes, h, List.length_cons, List.range_succ_eq_map, List.reverse_cons,
    List.filter_append, List.map_append, ← List.map_reverse, List.filter_map, List.map_map, hskip]
  by_cases hp : p [] = true <;> simp [hp, Function.comp_def]

theorem takes_false (s : Cursor) : s.takes (fun _ => false) = [] := by
  simp [takes]

end Regex.Cursor

namespace ValueType

/-- The cursors behind the values that the text begins with, longer ones first. -/
def takes (t : ValueType) (s : Cursor) : List Cursor :=
  s.takes fun v => decide (t.Accepts v)

theorem takes_eq (t : ValueType) (s : Cursor) : t.takes s = s.takes t.accepts := by
  refine congrArg s.takes (funext fun v => ?_)
  rw [Bool.eq_iff_iff, decide_eq_true_eq, accepts_iff]

end ValueType

/-! ## What the syntax of the types matches -/

namespace Regex

theorem ways_char_nil {s : Cursor} (h : s.rest = []) (set : CharSet) :
    ways (.char set) s = [] := by
  simp [ways, h]

theorem ways_char_cons {s : Cursor} {c : Char} {cs : List Char} (h : s.rest = c :: cs)
    (set : CharSet) : ways (.char set) s = if set.mem c then [s.next c cs] else [] := by
  simp [ways, h]

theorem iterate_char (set : CharSet) (s : Cursor) :
    iterate true (ways (.char set)) s = s.takes (·.all (set.mem ·)) := by
  generalize hn : s.rest = cs
  induction cs generalizing s with
  | nil =>
    rw [iterate_eq, ways_char_nil hn, Cursor.takes_nil hn]
    rfl
  | cons c cs ih =>
    have hmoved : (s.next c cs).movedFrom s = true := by simp [Cursor.movedFrom, hn]
    rw [iterate_eq, ways_char_cons hn, Cursor.takes_cons hn]
    by_cases hc : set.mem c = true
    · simp [hc, hmoved, ih (s.next c cs) rfl]
    · simp [hc, Cursor.takes_false]

theorem ways_plusChar (set : CharSet) (s : Cursor) :
    ways (.plus true (.char set)) s = s.takes fun v => !v.isEmpty && v.all (set.mem ·) := by
  rw [ways]
  cases hn : s.rest with
  | nil => simp [ways_char_nil hn, Cursor.takes_nil hn]
  | cons c cs =>
    have hmoved : (s.next c cs).movedFrom s = true := by simp [Cursor.movedFrom, hn]
    rw [ways_char_cons hn, Cursor.takes_cons hn]
    by_cases hc : set.mem c = true
    · simp [hc, hmoved, iterate_char]
    · simp [hc, Cursor.takes_false]

theorem ways_starChar (set : CharSet) (s : Cursor) :
    ways (.star true (.char set)) s = s.takes (·.all (set.mem ·)) := by
  rw [star, ways_opt, if_pos rfl, ways_plusChar]
  cases hn : s.rest with
  | nil => simp [Cursor.takes_nil hn]
  | cons c cs => simp [Cursor.takes_cons hn]

theorem single_mem (c d : Char) : (CharSet.single c).mem d = (d == c) := by
  rw [Bool.eq_iff_iff, beq_iff_eq]
  simp only [CharSet.single, CharSet.mem, Bool.and_eq_true, decide_eq_true_eq]
  exact ⟨fun h => Char.le_antisymm h.2 h.1, by rintro rfl; exact ⟨Char.le_refl _, Char.le_refl _⟩⟩

theorem asciiDigit_mem (c : Char) : CharSet.asciiDigit.mem c = c.isDigit := rfl

end Regex

namespace ValueType

theorem itemOf_source (t : ValueType) :
    (itemOf t.source.toList).regex = match t with
      | string => .plus true (.char (.compl .blank))
      | integer => .plus true (.char .asciiDigit)
      | float => .seqAll [.star true (.char .asciiDigit), .char (.single '.'),
          .plus true (.char .asciiDigit)]
      | text => .plus true (.char (.compl (.single '\n'))) := by
  cases t <;> rfl

theorem fragment_source (t : ValueType) : Fragment t.source.toList := by
  cases t <;> exact ⟨⟨_, rfl⟩, rfl⟩

theorem namesOf_source (t : ValueType) : namesOf t.source.toList = [] := by
  cases t <;> rfl

theorem float_accepts_nil : accepts float [] = false := rfl

theorem float_accepts_cons (c : Char) (v : List Char) :
    accepts float (c :: v) =
      if c.isDigit then accepts float v else c == '.' && (!v.isEmpty && v.all Char.isDigit) := by
  simp only [accepts]
  by_cases hc : c.isDigit = true
  · rw [List.dropWhile_cons_of_pos hc, if_pos hc]
  · rw [List.dropWhile_cons_of_neg hc, if_neg hc]
    by_cases hp : c = '.'
    · subst hp
      simp
    · simp [hp]

theorem ways_fraction_nil {s : Cursor} (h : s.rest = []) :
    Regex.waysAll [.char (.single '.'), .plus true (.char .asciiDigit)] s = [] := by
  rw [waysAll_cons, ways_char_nil h, List.flatMap_nil]

theorem ways_fraction_cons {s : Cursor} {c : Char} {cs : List Char} (h : s.rest = c :: cs) :
    Regex.waysAll [.char (.single '.'), .plus true (.char .asciiDigit)] s =
      (s.next c cs).takes fun v => c == '.' && (!v.isEmpty && v.all Char.isDigit) := by
  rw [waysAll_cons, ways_char_cons h, single_mem]
  cases hc : c == '.'
  · simp [Cursor.takes_false]
  · simp [waysAll_singleton, ways_plusChar, asciiDigit_mem]

theorem ways_float (s : Cursor) :
    Regex.waysAll [.star true (.char .asciiDigit), .char (.single '.'),
      .plus true (.char .asciiDigit)] s = s.takes float.accepts := by
  rw [waysAll_cons, ways_starChar]
  simp only [asciiDigit_mem]
  generalize hn : s.rest = cs
  -- A digit is no point, so the part behind the digits can only match where they end.
  induction cs generalizing s with
  | nil =>
    rw [Cursor.takes_nil hn, Cursor.takes_nil hn]
    simp [ways_fraction_nil hn, float_accepts_nil]
  | cons c cs ih =>
    rw [Cursor.takes_cons hn, Cursor.takes_cons hn, List.flatMap_append]
    simp only [float_accepts_cons]
    by_cases hc : c.isDigit = true
    · have hp : (c == '.') = false := by
        rw [beq_eq_false_iff_ne]
        rintro rfl
        revert hc
        decide
      simp [hc, hp, ih (s.next c cs) rfl, ways_fraction_cons hn, Cursor.takes_false,
        float_accepts_nil]
    · simp [hc, ways_fraction_cons hn, Cursor.takes_false, float_accepts_nil]

/-- The pattern syntax of a type matches the values of the type, longer ones first. -/
theorem ways_source (t : ValueType) (s : Cursor) : Pattern.fragment t.source s = t.takes s := by
  rw [Pattern.fragment, itemOf_source, takes_eq]
  cases t with
  | string =>
    rw [ways_plusChar]
    rfl
  | integer =>
    rw [ways_plusChar]
    rfl
  | float => exact (ways_seqAll _ s).trans (ways_float s)
  | text =>
    rw [ways_plusChar]
    simp only [CharSet.mem, single_mem]
    rfl

end ValueType

/-! ## Names -/

theorem inName_of_isDigit {c : Char} (h : c.isDigit = true) : Reader.inName c = true := by
  have hle : c.toNat ≤ '9'.toNat := (Char.isDigit_iff_toNat.1 h).2
  have hascii : c.toNat < 128 := Nat.lt_of_le_of_lt hle (by decide)
  simp [Reader.inName, Text.isNumeral, hascii, h]

theorem isName_captureName (i : Nat) : Reader.IsName (Definition.captureName i) := by
  refine ⟨'a', ['r', 'g'] ++ (toString i).toList, ?_, by decide, fun d hd => ?_⟩
  · rw [Definition.captureName, String.toList_append]
    rfl
  · rcases List.mem_append.1 hd with hd | hd
    · have hrg : ['r', 'g'].all Reader.inName = true := rfl
      exact List.all_eq_true.1 hrg d hd
    · rw [Nat.toString_eq_repr, Nat.toList_repr] at hd
      exact inName_of_isDigit (Nat.isDigit_of_mem_toDigits (Nat.succ_pos 9) (Nat.le_refl 10) hd)

namespace Pattern

mutual

theorem groupNames_typed (p : Pattern)
    (h : ∀ source ∈ p.raws, ∃ t : ValueType, source = t.source) : p.groupNames = p.captures :=
  match p with
  | literal _ => rfl
  | blank => rfl
  | textEnd => rfl
  | raw source => by
    obtain ⟨t, rfl⟩ := h source List.mem_cons_self
    exact t.namesOf_source
  | capture name inner => congrArg (name :: ·) (groupNames_typed inner h)
  | optional inner => groupNames_typed inner h
  | choice parts => groupNamesAll_typed parts h
  | sequence parts => groupNamesAll_typed parts h

theorem groupNamesAll_typed (ps : List Pattern)
    (h : ∀ source ∈ rawsAll ps, ∃ t : ValueType, source = t.source) :
    groupNamesAll ps = capturesAll ps :=
  match ps with
  | [] => rfl
  | p :: ps => by
    rw [groupNamesAll, capturesAll,
      groupNames_typed p fun source hs => h source (List.mem_append_left _ hs),
      groupNamesAll_typed ps fun source hs => h source (List.mem_append_right _ hs)]

end

end Pattern

end ChatCommand
