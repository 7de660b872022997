import ChatCommand.Proofs.Regex.Writes
import Mathlib.Data.List.Nodup

/-!
# Reading back what a tree is written as

`Pattern.items` are the elements that the pattern syntax of a tree stands for, given by recursion on
the tree. `Pattern.writes` says that the reader finds these and no others: no literal takes part in
the syntax around it, and nothing binds more or less than one part of the tree. The two main
statements are for the tree as a whole.

* `readItem_chars`: the syntax of a tree is read as `Pattern.item`, if all names are distinct.
* `item_of_compile`: if a tree compiles, it compiles to the expression of `Pattern.item`.

The fragments in a tree have to be patterns of their own that leave no comment open
(`Regex.Fragment`).
-/

namespace ChatCommand

namespace Regex

/-- The element that a list of characters writes, however large. -/
def readItem (cs : List Char) : Except PatternError Item :=
  Reader.readAll {} cs >>= Reader.finish

/-- The element that a fragment writes. -/
def itemOf (cs : List Char) : Item :=
  match readItem cs with
  | .ok i => i
  | .error _ => .empty

/-- The names of the groups in a fragment. -/
def namesOf (cs : List Char) : List String :=
  match Reader.readAll {} cs with
  | .ok r => r.names.reverse
  | .error _ => []

/-- A comment that starts in `cs` would go on behind it. -/
def leavesComment (cs : List Char) : Bool :=
  match Reader.readAll {} cs with
  | .ok r => r.inComment
  | .error _ => false

/-- A pattern of its own that can be followed by other text. -/
structure Fragment (cs : List Char) : Prop where
  reads : ∃ i, readItem cs = .ok i
  closed : leavesComment cs = false

theorem readItem_eq_ok {cs : List Char} {i : Item} :
    readItem cs = .ok i ↔ ∃ r, Reader.readAll {} cs = .ok r ∧ r.finish = .ok i := by
  unfold readItem
  cases h : Reader.readAll {} cs with
  | error e => simp [bind, Except.bind]
  | ok r => simp [bind, Except.bind]

theorem parseChars_eq (cs : List Char) (limit : Nat) :
    parseChars cs limit = readItem cs >>= fun i =>
      if nestLimit < i.depth then .error .malformed
      else if limit < i.room then .error .tooLarge
      else .ok i.regex := by
  unfold readItem Reader.readAll
  rw [bind_assoc]
  rfl

theorem parseChars_eq_ok {cs : List Char} {limit : Nat} {r : Regex} :
    parseChars cs limit = .ok r ↔
      ∃ i, readItem cs = .ok i ∧ i.depth ≤ nestLimit ∧ i.room ≤ limit ∧ i.regex = r := by
  rw [parseChars_eq]
  cases hi : readItem cs with
  | error e => simp [bind, Except.bind]
  | ok i =>
    simp only [bind, Except.bind, Except.ok.injEq, exists_eq_left']
    by_cases hd : nestLimit < i.depth
    · simp [hd, Nat.not_le.2 hd]
    · by_cases hr : limit < i.room
      · simp [hd, hr, Nat.not_le.2 hr]
      · simp [hd, hr, Nat.not_lt.1 hd, Nat.not_lt.1 hr]

/-- A fragment is read in its fence as it is alone. -/
theorem Fragment.writes {cs : List Char} (h : Fragment cs) :
    Reader.WritesWhole (Pattern.fence cs) (·.push (itemOf cs).grouped) (namesOf cs) := by
  obtain ⟨⟨i, hi⟩, hc⟩ := h
  obtain ⟨r, hr, hf⟩ := readItem_eq_ok.1 hi
  simp only [leavesComment, hr] at hc
  simp only [itemOf, namesOf, hi, hr]
  exact .fragment hr hf hc

/-! ## Elements of a scope -/

namespace Scope

/-- The scope with further elements, in order. -/
def pushAll (s : Scope) (items : List Item) : Scope :=
  { s with items := items.reverse ++ s.items }

/-- The scope with further alternatives. -/
def branchAll (s : Scope) : List (List Item) → Scope
  | [] => s
  | items :: branches => (s.endBranch.pushAll items).branchAll branches

theorem pushAll_pushAll (s : Scope) (is js : List Item) :
    (s.pushAll is).pushAll js = s.pushAll (is ++ js) := by
  simp [pushAll]

end Scope

/-- Elements in order as one element. -/
def Item.inOrder (items : List Item) : Item :=
  .sequence items.reverse

/-- The element that is one of several, the preferred one first. -/
def Item.oneOf (items : List Item) : Item :=
  .choice items.reverse

/-- An element in a group that is noted under `name`. -/
def Item.noted (i : Item) (name : String) : Item :=
  { i.grouped with build := fun _ => .capture name i.regex }

namespace Scope

theorem body_branchAll (s : Scope) (branches : List (List Item)) :
    (s.branchAll branches).body =
      .choice ((branches.map Item.inOrder).reverse ++ .sequence s.items :: s.branches) := by
  induction branches generalizing s with
  | nil => rfl
  | cons is branches ih =>
    rw [branchAll, ih]
    simp [endBranch, pushAll, Item.inOrder]

theorem close_pushAll (items : List Item) :
    (({} : Scope).pushAll items).close = (Item.inOrder items).grouped := by
  simp [close, body, pushAll, Item.inOrder, Item.choice, Item.grouped]

theorem close_named_pushAll (name : String) (items : List Item) :
    (({ name := some name } : Scope).pushAll items).close = (Item.inOrder items).noted name := by
  simp [close, body, pushAll, Item.inOrder, Item.choice, Item.grouped, Item.noted]

theorem branchAll_name (s : Scope) (branches : List (List Item)) :
    (s.branchAll branches).name = s.name := by
  induction branches generalizing s with
  | nil => rfl
  | cons is branches ih => exact (ih _).trans rfl

theorem branchAll_outerFlags (s : Scope) (branches : List (List Item)) :
    (s.branchAll branches).outerFlags = s.outerFlags := by
  induction branches generalizing s with
  | nil => rfl
  | cons is branches ih => exact (ih _).trans rfl

theorem close_branchAll (items : List Item) (branches : List (List Item)) :
    ((({} : Scope).pushAll items).branchAll branches).close =
      (Item.oneOf (Item.inOrder items :: branches.map Item.inOrder)).grouped := by
  have hname : ((({} : Scope).pushAll items).branchAll branches).name = none :=
    branchAll_name _ _
  simp only [close, hname, body_branchAll]
  simp [pushAll, Item.inOrder, Item.oneOf, Item.grouped]

end Scope

end Regex

open Regex

namespace Pattern

mutual

/-- The fragments in a tree. -/
def raws : Pattern → List String
  | literal _ | blank | textEnd => []
  | raw source => [source]
  | capture _ inner | optional inner => raws inner
  | choice parts | sequence parts => rawsAll parts

/-- The fragments in some trees. -/
def rawsAll : List Pattern → List String
  | [] => []
  | p :: ps => raws p ++ rawsAll ps

end

mutual

/-- The names of the captures in a tree. -/
def captures : Pattern → List String
  | literal _ | blank | textEnd | raw _ => []
  | capture name inner => name :: captures inner
  | optional inner => captures inner
  | choice parts | sequence parts => capturesAll parts

/-- The names of the captures in some trees. -/
def capturesAll : List Pattern → List String
  | [] => []
  | p :: ps => captures p ++ capturesAll ps

end

mutual

/-- The names of the groups in a tree, also those in its fragments. -/
def groupNames : Pattern → List String
  | literal _ | blank | textEnd => []
  | raw source => namesOf source.toList
  | capture name inner => name :: groupNames inner
  | optional inner => groupNames inner
  | choice parts | sequence parts => groupNamesAll parts

/-- The names of the groups in some trees. -/
def groupNamesAll : List Pattern → List String
  | [] => []
  | p :: ps => groupNames p ++ groupNamesAll ps

end

mutual

/-- The elements that a tree is written as, one after another. -/
def items : Pattern → List Item
  | literal text => text.toList.map fun c => .char (.single c)
  | raw source => [(itemOf source.toList).grouped]
  | blank => [.char .blank]
  | capture name inner => [(Item.inOrder (items inner)).noted name]
  | optional inner => [(Item.inOrder (items inner)).grouped.repeated ⟨0, some 1⟩ true]
  | choice [] => [.look (.edge .either .word), .look (.edge .neither .word)]
  | choice (p :: ps) =>
    [(Item.oneOf (Item.inOrder (items p) :: (branches ps).map Item.inOrder)).grouped]
  | sequence parts => (branches parts).flatten
  | textEnd => [.look .textEnd]

/-- The elements of each of some trees. -/
def branches : List Pattern → List (List Item)
  | [] => []
  | p :: ps => items p :: branches ps

end

/-- The element that a tree is written as. -/
def item (p : Pattern) : Item :=
  .inOrder p.items

/-- A tree whose parts can all be written. -/
structure Writable (raws captures : List String) : Prop where
  raws : ∀ s ∈ raws, Fragment s.toList
  captures : ∀ n ∈ captures, Reader.IsName n

theorem Writable.of_append {r₁ r₂ c₁ c₂ : List String} (h : Writable (r₁ ++ r₂) (c₁ ++ c₂)) :
    Writable r₁ c₁ ∧ Writable r₂ c₂ :=
  ⟨⟨fun s hs => h.raws s (List.mem_append_left _ hs),
      fun n hn => h.captures n (List.mem_append_left _ hn)⟩,
    ⟨fun s hs => h.raws s (List.mem_append_right _ hs),
      fun n hn => h.captures n (List.mem_append_right _ hn)⟩⟩

theorem writes_escape (cs : List Char) :
    Reader.Writes (escape cs) (·.pushAll (cs.map fun c => .char (.single c))) [] := by
  induction cs with
  | nil => exact .nil
  | cons c cs ih =>
    have hc : Reader.Writes (if isMeta c then ['\\', c] else [c])
        (·.push (.char (.single c))) [] := by
      split
      · exact (Reader.writes_meta ‹_›).writes
      · exact (Reader.writes_char (Bool.eq_false_iff.2 ‹¬ _›)).writes
    have h := hc.append ih
    rw [escape, List.flatMap_cons]
    refine h.congr fun s => ?_
    simp [Scope.push, Scope.pushAll]

mutual

/-- The pattern syntax of a tree is read as its elements. -/
theorem writes (p : Pattern) (h : Writable p.raws p.captures) :
    Reader.Writes p.chars (·.pushAll p.items) p.groupNames :=
  match p with
  | literal text => writes_escape text.toList
  | raw source => (h.raws source List.mem_cons_self).writes.writes
  | blank => Reader.writes_blank.writes
  | textEnd => Reader.writes_textEnd.writes
  | capture name inner => by
    have hin := writes inner ⟨h.raws, fun n hn => h.captures n (List.mem_cons_of_mem _ hn)⟩
    have hnamed := Reader.WritesWhole.named hin (h.captures name List.mem_cons_self) rfl
    rw [Scope.close_named_pushAll] at hnamed
    exact hnamed.writes
  | optional inner => by
    have hin := writes inner h
    have hfence := Reader.WritesWhole.fence hin rfl
    rw [Scope.close_pushAll] at hfence
    exact .optional hfence rfl
  | choice [] => Reader.writes_nowhere
  | choice (p :: ps) => by
    have hp := writes p (h.of_append).1
    have hps := writesBehindBar ps (h.of_append).2
    have hfence := Reader.WritesWhole.fence (hp.append hps)
      (Scope.branchAll_outerFlags (({} : Scope).pushAll p.items) (branches ps))
    simp only [Function.comp_apply, Scope.close_branchAll] at hfence
    exact hfence.writes
  | sequence parts => writesAll parts h

theorem writesBehindBar (ps : List Pattern) (h : Writable (rawsAll ps) (capturesAll ps)) :
    Reader.Writes (charsBehindBar ps) (·.branchAll (branches ps)) (groupNamesAll ps) :=
  match ps with
  | [] => .nil
  | p :: ps => by
    have hp := writes p (h.of_append).1
    have hps := writesBehindBar ps (h.of_append).2
    exact (Reader.writes_bar.writes.append hp).append hps

theorem writesAll (ps : List Pattern) (h : Writable (rawsAll ps) (capturesAll ps)) :
    Reader.Writes (charsAll ps) (·.pushAll (branches ps).flatten) (groupNamesAll ps) :=
  match ps with
  | [] => .nil
  | p :: ps => by
    have hp := writes p (h.of_append).1
    have hps := writesAll ps (h.of_append).2
    refine (hp.append hps).congr fun s => ?_
    exact Scope.pushAll_pushAll s _ _

end

/-- Without a clash of names, the syntax of a tree is read as its element. -/
theorem readItem_chars {p : Pattern} (h : Writable p.raws p.captures) (hn : p.groupNames.Nodup) :
    readItem p.chars = .ok p.item := by
  rcases writes p h {} (.of_plain rfl rfl rfl rfl) with ⟨r, hr, -, hs⟩ | ⟨-, hdup⟩
  · refine readItem_eq_ok.2 ⟨r, hr, Reader.finish_eq_ok.2 ⟨?_, ?_, ?_⟩⟩
    · rw [← Reader.ready_outer, hs]
      rfl
    · rw [hs]
      rfl
    · rw [hs]
      simp [Reader.put, Reader.ready, Scope.body, Scope.pushAll, Item.choice, item, Item.inOrder]
  · rw [List.append_nil, List.nodup_reverse] at hdup
    exact absurd hn hdup

/-- Whatever a tree compiles to is the expression of its element, and no two of its groups have one
name. -/
theorem item_of_compile {p : Pattern} {limit : Nat} {r : Regex}
    (h : Writable p.raws p.captures) (hc : p.compile limit = .ok r) :
    p.groupNames.Nodup ∧ p.item.depth ≤ nestLimit ∧ p.item.room ≤ limit ∧
      p.item.regex = r := by
  obtain ⟨i, hi, hd, hr, hreg⟩ := parseChars_eq_ok.1 hc
  obtain ⟨q, hq, hf⟩ := readItem_eq_ok.1 hi
  have hn : p.groupNames.Nodup := by
    have hstable := Reader.readAll_leads p.chars (fun _ => rfl) q hq
    rcases writes p h {} (.of_plain rfl rfl rfl rfl) with ⟨q', hq', -, hs⟩ | ⟨he, -⟩
    · obtain rfl : q = q' := Except.ok.inj (hq.symm.trans hq')
      have hnames := hstable.names.nodup List.nodup_nil
      rw [← Reader.ready_names, hs] at hnames
      simpa [Reader.put, Reader.ready] using hnames
    · rw [hq] at he
      cases he
  obtain rfl : i = p.item := Except.ok.inj (hi.symm.trans (readItem_chars h hn))
  exact ⟨hn, hd, hr, hreg⟩

end Pattern

end ChatCommand
