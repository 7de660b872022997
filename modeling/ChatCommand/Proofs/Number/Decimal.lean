import ChatCommand.Number.Binary64
import Mathlib.Data.List.TakeWhile
import Mathlib.Data.Nat.Digits.Defs

/-!
# Numbers written in decimal

`Number.decimal` is the number that decimal digits denote, the first one with the highest weight.
Read as an integer, digits give this number if it is within the limit, and are too large otherwise
(`readNatural_digits`, `readInteger_digits`), whatever their count and the zeros in front. Read as a
double, digits with a point between them give the double nearest to it (`Binary64.read_point`).
-/

namespace ChatCommand.Number

/-- The number that decimal digits denote. -/
def decimal (cs : List Char) : Nat :=
  Nat.ofDigits 10 (cs.map fun c => c.toNat - '0'.toNat).reverse

theorem decimal_cons (c : Char) (cs : List Char) :
    decimal (c :: cs) = (c.toNat - '0'.toNat) * 10 ^ cs.length + decimal cs := by
  rw [decimal, List.map_cons, List.reverse_cons, Nat.ofDigits_append, Nat.ofDigits_singleton,
    List.length_reverse, List.length_map, ← decimal]
  ring

/-! ## Integers -/

variable {limit : Nat} {cs : List Char}

theorem appendDigits_digits (fault : IntegerFault) (hcs : ∀ c ∈ cs, c.isDigit = true) {n : Nat}
    (hn : n ≤ limit) :
    appendDigits limit fault n cs =
      if n * 10 ^ cs.length + decimal cs ≤ limit then .ok (n * 10 ^ cs.length + decimal cs)
      else .error fault := by
  induction cs generalizing n with
  | nil => simp [appendDigits, decimal, hn]
  | cons c cs ih =>
    obtain ⟨hc, hcs⟩ := List.forall_mem_cons.1 hcs
    have hvalue : n * 10 ^ (c :: cs).length + decimal (c :: cs) =
        (n * 10 + (c.toNat - '0'.toNat)) * 10 ^ cs.length + decimal cs := by
      rw [decimal_cons, List.length_cons]
      ring
    rw [hvalue]
    simp only [appendDigits, digit?, hc, if_true]
    split
    · rename_i hle
      exact ih hcs hle
    · rename_i hlt
      have hpos : 0 < 10 ^ cs.length := Nat.pow_pos (by decide)
      have hle := Nat.le_mul_of_pos_right (n * 10 + (c.toNat - '0'.toNat)) hpos
      rw [if_neg (by omega)]

theorem readDigits_digits (fault : IntegerFault) (hne : cs ≠ [])
    (hcs : ∀ c ∈ cs, c.isDigit = true) :
    readDigits limit fault cs =
      if decimal cs ≤ limit then .ok (decimal cs) else .error fault := by
  cases cs with
  | nil => exact absurd rfl hne
  | cons c cs => simpa [readDigits] using appendDigits_digits fault hcs (Nat.zero_le limit)

/-- Digits are read as the number that they denote, unless it is above the limit. -/
theorem readNatural_digits (hne : cs ≠ []) (hcs : ∀ c ∈ cs, c.isDigit = true) :
    readNatural limit cs =
      if decimal cs ≤ limit then .ok (decimal cs) else .error .tooLarge := by
  unfold readNatural
  split
  · exact absurd rfl hne
  · exact absurd (hcs '+' List.mem_cons_self) (by decide)
  · exact readDigits_digits _ hne hcs

theorem readInteger_digits (hne : cs ≠ []) (hcs : ∀ c ∈ cs, c.isDigit = true) :
    readInteger limit cs =
      if decimal cs ≤ limit then .ok (decimal cs : Int) else .error .tooLarge := by
  unfold readInteger
  split
  · exact absurd (hcs '-' List.mem_cons_self) (by decide)
  · rw [readNatural_digits hne hcs]
    split <;> rfl

/-! ## Doubles -/

namespace Binary64

theorem digitsValue_eq (hcs : ∀ c ∈ cs, c.isDigit = true) : digitsValue cs = decimal cs := by
  have hfold : ∀ n, cs.foldl (fun n c => n * 10 + (digit? c).getD 0) n =
      n * 10 ^ cs.length + decimal cs := by
    induction cs with
    | nil => simp [decimal]
    | cons c cs ih =>
      obtain ⟨hc, hcs⟩ := List.forall_mem_cons.1 hcs
      intro n
      rw [List.foldl_cons, ih hcs, decimal_cons, List.length_cons, digit?, if_pos hc,
        Option.getD_some]
      ring
  simpa [digitsValue] using hfold 0

variable {whole fraction : List Char}

theorem readMagnitude?_point (hwhole : ∀ c ∈ whole, c.isDigit = true) (hne : fraction ≠ [])
    (hfraction : ∀ c ∈ fraction, c.isDigit = true) :
    readMagnitude? (whole ++ '.' :: fraction) =
      some (decimal (whole ++ fraction), -(fraction.length : Int)) := by
  have hdigits : ∀ c ∈ whole ++ fraction, c.isDigit = true :=
    List.forall_mem_append.2 ⟨hwhole, hfraction⟩
  have hpoint : ¬ ('.' : Char).isDigit = true := by decide
  have htake : (whole ++ '.' :: fraction).takeWhile Char.isDigit = whole := by
    rw [List.takeWhile_append_of_pos hwhole, List.takeWhile_cons_of_neg hpoint, List.append_nil]
  have hdrop : (whole ++ '.' :: fraction).dropWhile Char.isDigit = '.' :: fraction := by
    rw [List.dropWhile_append_of_pos hwhole, List.dropWhile_cons_of_neg hpoint]
  have htake' : fraction.takeWhile Char.isDigit = fraction := List.takeWhile_eq_self_iff.2 hfraction
  have hdrop' : fraction.dropWhile Char.isDigit = [] := List.dropWhile_eq_nil_iff.2 hfraction
  unfold readMagnitude?
  simp only [htake, hdrop, htake', hdrop', ← digitsValue_eq hdigits]
  simp [hne]

/-- Digits with a point between them are read as the double nearest to what they denote. -/
theorem read_point (hwhole : ∀ c ∈ whole, c.isDigit = true) (hne : fraction ≠ [])
    (hfraction : ∀ c ∈ fraction, c.isDigit = true) :
    read (whole ++ '.' :: fraction) =
      .ok (ofDecimal false (decimal (whole ++ fraction)) (-(fraction.length : Int))) := by
  have hmagnitude := readMagnitude?_point hwhole hne hfraction
  generalize htext : whole ++ '.' :: fraction = text at hmagnitude ⊢
  have hsign : ∀ c ∈ text.head?, c ≠ '-' ∧ c ≠ '+' := by
    intro c hc
    cases whole with
    | nil =>
      obtain rfl : '.' = c := by simpa [← htext] using hc
      decide
    | cons d ds =>
      obtain rfl : d = c := by simpa [← htext] using hc
      have hd := hwhole d List.mem_cons_self
      constructor <;> (rintro rfl; revert hd; decide)
  have hname : ∀ name : String, '.' ∉ name.toList →
      String.ofList (text.map Char.toLower) ≠ name := by
    rintro name hpoint rfl
    refine hpoint ?_
    rw [String.toList_ofList]
    exact List.mem_map.2 ⟨'.', by simp [← htext], rfl⟩
  have hread : read? text = some (ofDecimal false (decimal (whole ++ fraction))
      (-(fraction.length : Int))) := by
    unfold read?
    split
    rename_i negative body hbody
    split at hbody
    · exact absurd rfl (hsign '-' rfl).1
    · exact absurd rfl (hsign '+' rfl).2
    obtain ⟨rfl, rfl⟩ := Prod.mk.inj hbody
    dsimp only
    split
    · exact absurd ‹_› (hname "inf" (by decide))
    · exact absurd ‹_› (hname "infinity" (by decide))
    · exact absurd ‹_› (hname "nan" (by decide))
    · rw [hmagnitude]
      rfl
  have hempty : text.isEmpty = false := by simp [← htext]
  rw [read, hempty, hread]
  rfl

end Binary64

end ChatCommand.Number
