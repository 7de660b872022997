import ChatCommand.Proofs.Regex.ReadingInv

/-!
# What expressions are made of

`Regex.Fits names r`: the captures of `r` have names among `names`, and the word borders in it are
those of words. Whatever the reader has built fits the names that it has read (`Fits.readAll`).
-/

namespace ChatCommand

/-- A word border of the assertion is one of words, Unicode or ASCII. -/
def Anchor.Usual : Anchor → Prop
  | edge _ inWord => inWord = .word ∨ inWord = .asciiWord
  | _ => True

namespace Regex

/-- The captures have names among `names`, and the assertions are usual ones. -/
def Fits (names : List String) : Regex → Prop
  | empty | char _ => True
  | look a => a.Usual
  | capture name r => name ∈ names ∧ Fits names r
  | seq _ r s | alt r s => Fits names r ∧ Fits names s
  | plus _ r => Fits names r

section
variable {names : List String}

theorem Fits.mono {names' : List String} (hn : ∀ n ∈ names, n ∈ names') {r : Regex}
    (h : r.Fits names) : r.Fits names' := by
  induction r with
  | empty => trivial
  | char _ => trivial
  | look _ => exact h
  | capture _ _ ih => exact ⟨hn _ h.1, ih h.2⟩
  | seq _ _ _ ihr ihs => exact ⟨ihr h.1, ihs h.2⟩
  | alt _ _ ihr ihs => exact ⟨ihr h.1, ihs h.2⟩
  | plus _ _ ih => exact ih h

theorem fits_seqAll {rs : List Regex} (h : ∀ r ∈ rs, r.Fits names) : (seqAll rs).Fits names := by
  induction rs with
  | nil => trivial
  | cons r rs ih =>
    have hr := h r List.mem_cons_self
    have hrs := ih fun t ht => h t (List.mem_cons_of_mem _ ht)
    cases rs with
    | nil => exact hr
    | cons => exact ⟨hr, hrs⟩

theorem fits_altAll {rs : List Regex} (h : ∀ r ∈ rs, r.Fits names) : (altAll rs).Fits names := by
  induction rs with
  | nil => trivial
  | cons r rs ih =>
    have hr := h r List.mem_cons_self
    have hrs := ih fun t ht => h t (List.mem_cons_of_mem _ ht)
    cases rs with
    | nil => exact hr
    | cons => exact ⟨hr, hrs⟩

theorem fits_opt {r : Regex} (greedy : Bool) (h : r.Fits names) : (opt greedy r).Fits names := by
  cases greedy
  · exact ⟨trivial, h⟩
  · exact ⟨h, trivial⟩

theorem fits_atMost {r : Regex} (greedy : Bool) (n : Nat) (h : r.Fits names) :
    (atMost greedy r n).Fits names := by
  induction n with
  | zero => trivial
  | succ n ih =>
    cases n with
    | zero => exact fits_opt greedy h
    | succ n => exact fits_opt greedy ⟨h, ih⟩

theorem fits_repeated {r : Regex} (greedy : Bool) (low : Nat) (high? : Option Nat)
    (h : r.Fits names) : (r.repeated greedy low high?).Fits names := by
  have hrep : ∀ n, ∀ t ∈ List.replicate n r, t.Fits names := fun n t ht => by
    rwa [(List.mem_replicate.1 ht).2]
  have hlast : ∀ n t, t.Fits names → (seqAll (List.replicate n r ++ [t])).Fits names := by
    intro n t ht
    refine fits_seqAll fun u hu => ?_
    rcases List.mem_append.1 hu with hu | hu
    · exact hrep n u hu
    · rwa [List.mem_singleton.1 hu]
  unfold repeated
  split
  · split
    · exact fits_atMost greedy _ h
    · split
      · exact fits_seqAll (hrep _)
      · exact hlast _ _ (fits_atMost greedy _ h)
  · exact fits_opt greedy h
  · exact hlast _ _ h

theorem fits_sequence {items : List Item} (h : ∀ i ∈ items, i.regex.Fits names) :
    (Item.sequence items).regex.Fits names := by
  unfold Item.sequence
  split
  · trivial
  · exact h _ List.mem_cons_self
  · refine fits_seqAll fun r hr => ?_
    obtain ⟨i, hi, rfl⟩ := List.mem_map.1 hr
    exact h i (List.mem_reverse.1 hi)

theorem fits_choice {items : List Item} (h : ∀ i ∈ items, i.regex.Fits names) :
    (Item.choice items).regex.Fits names := by
  unfold Item.choice
  split
  · trivial
  · exact h _ List.mem_cons_self
  · refine fits_altAll fun r hr => ?_
    obtain ⟨i, hi, rfl⟩ := List.mem_map.1 hr
    exact h i (List.mem_reverse.1 hi)

theorem fits_itemRepeated {i : Item} (b : Bounds) (greedy : Bool) (h : i.regex.Fits names) :
    (i.repeated b greedy).regex.Fits names :=
  fits_repeated _ _ _ h

end

/-- Everything in the scope fits, and so does its name. -/
structure Scope.Fits (names : List String) (s : Scope) : Prop where
  name : ∀ n ∈ s.name, n ∈ names
  branches : ∀ i ∈ s.branches, i.regex.Fits names
  items : ∀ i ∈ s.items, i.regex.Fits names

namespace Scope.Fits

variable {names : List String} {s : Scope}

theorem mono {names' : List String} (hn : ∀ n ∈ names, n ∈ names') (h : s.Fits names) :
    s.Fits names' :=
  ⟨fun n hs => hn n (h.name n hs), fun i hi => (h.branches i hi).mono hn,
    fun i hi => (h.items i hi).mono hn⟩

theorem push (h : s.Fits names) {i : Item} (hi : i.regex.Fits names) : (s.push i).Fits names :=
  ⟨h.name, h.branches, List.forall_mem_cons.2 ⟨hi, h.items⟩⟩

theorem endBranch (h : s.Fits names) : s.endBranch.Fits names :=
  ⟨h.name, List.forall_mem_cons.2 ⟨fits_sequence h.items, h.branches⟩, fun _ hi => nomatch hi⟩

theorem withItems (h : s.Fits names) {items : List Item} (hi : ∀ i ∈ items, i ∈ s.items) :
    Scope.Fits names { s with items } :=
  ⟨h.name, h.branches, fun i hm => h.items i (hi i hm)⟩

theorem body (h : s.Fits names) : s.body.regex.Fits names :=
  fits_choice (List.forall_mem_cons.2 ⟨fits_sequence h.items, h.branches⟩)

theorem close (h : s.Fits names) : s.close.regex.Fits names := by
  unfold Scope.close Item.regex
  dsimp only
  cases hn : s.name with
  | none => exact h.body
  | some n => exact ⟨h.name n hn, h.body⟩

end Scope.Fits

/-- The element that a mode goes on with. -/
def Mode.base? : Mode → Option Item
  | repeated i _ _ | count i _ => some i
  | _ => none

/-- An assertion that the atom stands for is a usual one. -/
def Atom.Usual : Atom → Prop
  | look a => a.Usual
  | _ => True

namespace Reader

/-- Everything that has been read fits the names so far. -/
structure Fits (r : Reader) : Prop where
  scope : r.scope.Fits r.names
  outer : ∀ s ∈ r.outer, s.Fits r.names
  base : ∀ i ∈ r.mode.base?, i.regex.Fits r.names

/-- If there is a result, it fits. -/
def Fitting (x : Except PatternError Reader) : Prop :=
  ∀ r, x = .ok r → r.Fits

namespace Fitting

variable {x y : Except PatternError Reader}

theorem error (e : PatternError) : Fitting (.error e) := fun _ h => nomatch h

theorem ok {r : Reader} (h : r.Fits) : Fitting (.ok r) := by
  rintro _ ⟨⟩
  exact h

theorem ite {p : Prop} [Decidable p] (h : Fitting x) (h' : Fitting y) :
    Fitting (if p then x else y) := by
  split
  · exact h
  · exact h'

theorem bind {f : Reader → Except PatternError Reader} (h : Fitting x)
    (hf : ∀ r, r.Fits → Fitting (f r)) : Fitting (x >>= f) := by
  cases x with
  | error e => exact .error e
  | ok r => exact hf r (h r rfl)

end Fitting

section
variable {r : Reader}

theorem Fits.enter (h : r.Fits) {m : Mode} (hm : m.base? = none) : (r.enter m).Fits :=
  ⟨h.scope, h.outer, fun i hi => by rw [show (r.enter m).mode = m from rfl, hm] at hi; cases hi⟩

theorem Fits.enterOn (h : r.Fits) {m : Mode} {i : Item} (hm : m.base? = some i)
    (hi : i.regex.Fits r.names) : (r.enter m).Fits :=
  ⟨h.scope, h.outer, fun j hj => by
    rw [show (r.enter m).mode = m from rfl, hm] at hj
    cases hj
    exact hi⟩

theorem Fits.push (h : r.Fits) {i : Item} (hi : i.regex.Fits r.names) : (r.push i).Fits :=
  ⟨h.scope.push hi, h.outer, fun _ hj => nomatch hj⟩

theorem Fits.pushRepeated (h : r.Fits) {i : Item} (hi : i.regex.Fits r.names) (b : Bounds)
    (greedy : Bool) : (r.pushRepeated i b greedy).Fits :=
  h.push (fits_itemRepeated _ _ hi)

theorem Fits.inBracket (h : r.Fits) (f : Bracket → Bracket) {m : Mode} (hm : m.base? = none) :
    (r.inBracket f m).Fits := by
  unfold Reader.inBracket
  split
  · exact h.enter hm
  · exact ⟨h.scope, h.outer, fun i hi => by
      rw [show Reader.mode _ = m from rfl, hm] at hi
      cases hi⟩

theorem Fits.openGroup (h : r.Fits) {name : Option String} (hn : ∀ n ∈ name, n ∈ r.names)
    (f : Flags) : (r.openGroup name f).Fits :=
  ⟨⟨hn, List.forall_mem_nil _, List.forall_mem_nil _⟩,
    List.forall_mem_cons.2 ⟨h.scope, h.outer⟩, fun _ hi => nomatch hi⟩

theorem Fits.closeGroup (h : r.Fits) : Fitting r.closeGroup := by
  unfold Reader.closeGroup
  split
  · exact .error _
  · rename_i s outer ho
    have hs := List.forall_mem_cons.1 (ho ▸ h.outer)
    exact .ok ⟨hs.1.push h.scope.close, hs.2, fun _ hi => nomatch hi⟩

theorem edgeAnchor_usual (f : Flags) (kind : WordEdge) :
    (Atom.look (edgeAnchor f kind)).Usual := by
  unfold edgeAnchor
  split
  · exact .inl rfl
  · exact .inr rfl

theorem escaped_usual {f : Flags} {c : Char} {a : Atom} (h : escaped? f c = some a) : a.Usual := by
  unfold escaped? at h
  split at h
  · obtain rfl := Option.some.inj h
    trivial
  · split at h
    case h_13 =>
      split at h
      · obtain rfl := Option.some.inj h
        trivial
      · cases h
    all_goals
      obtain rfl := Option.some.inj h
      first
      | trivial
      | exact edgeAnchor_usual _ _

theorem Fits.deliver (h : r.Fits) (p : Place) {a : Atom} (ha : a.Usual) :
    Fitting (r.deliver p a) := by
  cases p <;> cases a <;> simp only [Reader.deliver]
  · exact .ok (h.push trivial)
  · exact .ok (h.push trivial)
  · exact .ok (h.push ha)
  · exact .ok (h.enter rfl)
  · exact .ok (h.enter rfl)
  · exact .error _
  · exact .ite (.ok (h.inBracket _ rfl)) (.error _)
  · exact .error _
  · exact .error _

theorem Fits.deliverCode (h : r.Fits) (p : Place) (k : Nat) (byte : Bool) :
    Fitting (r.deliverCode p k byte) :=
  .ite (h.deliver p trivial) (.error _)

theorem Fits.deliverProperty (h : r.Fits) (p : Place) (negated : Bool) (text : List Char) :
    Fitting (r.deliverProperty p negated text) := by
  unfold Reader.deliverProperty
  split
  · exact .ite (h.deliver p trivial) (.error _)
  · exact .error _

theorem Fits.repeatLast (h : r.Fits) (b : Bounds) : Fitting (r.repeatLast b) := by
  unfold Reader.repeatLast
  split
  · rename_i i items hi
    have hs := List.forall_mem_cons.1 (hi ▸ h.scope.items)
    exact .ite (.ok ⟨⟨h.scope.name, h.scope.branches, hs.2⟩, h.outer, fun j hj => by
      cases hj
      exact hs.1⟩) (.error _)
  · exact .error _

theorem Fits.startCount (h : r.Fits) : Fitting r.startCount := by
  unfold Reader.startCount
  split
  · rename_i i items hi
    have hs := List.forall_mem_cons.1 (hi ▸ h.scope.items)
    exact .ite (.ok ⟨⟨h.scope.name, h.scope.branches, hs.2⟩, h.outer, fun j hj => by
      cases hj
      exact hs.1⟩) (.error _)
  · exact .error _

theorem dot_fits {names : List String} {f : Flags} {i : Item} (h : dot? f = some i) :
    i.regex.Fits names := by
  unfold dot? at h
  split at h
  · cases h
  · repeat' split at h
    all_goals
      obtain rfl := Option.some.inj h
      trivial

theorem Fits.readPlain (h : r.Fits) (c : Char) : Fitting (r.readPlain c) := by
  unfold Reader.readPlain
  split
  · exact .ok (h.enter rfl)
  · exact h.closeGroup
  · exact .ok ⟨h.scope.endBranch, h.outer, h.base⟩
  · exact .ok ⟨h.scope, h.outer, fun _ hi => nomatch hi⟩
  · exact h.repeatLast _
  · exact h.repeatLast _
  · exact h.repeatLast _
  · exact h.startCount
  · exact .ok (h.enter rfl)
  · split
    · exact .ok (h.push (dot_fits ‹_›))
    · exact .error _
  · refine .ok (h.push ?_)
    unfold circumflex
    repeat' split
    all_goals trivial
  · refine .ok (h.push ?_)
    unfold dollar
    repeat' split
    all_goals trivial
  · exact .ok (h.push trivial)

theorem Fits.readCount (h : r.Fits) {i : Item} (hi : i.regex.Fits r.names) (k : Count) (c : Char) :
    Fitting (r.readCount i k c) := by
  have hok : ∀ m : Mode, m.base? = some i → Fitting (.ok (r.enter m)) :=
    fun m hm => .ok (h.enterOn hm hi)
  unfold Reader.readCount
  refine .ite (hok _ rfl) (.ite (.ite (.error _) (hok _ rfl)) ?_)
  split
  · exact hok _ rfl
  · exact hok _ rfl
  · exact .ite (hok _ rfl) (.error _)
  · exact .ite (hok _ rfl) (.error _)
  · exact .error _

theorem Fits.readName (h : r.Fits) (text : List Char) (c : Char) :
    Fitting (r.readName text c) := by
  unfold Reader.readName
  refine .ite (.ite (.error _) (.ok ?_)) (.ite (.ok (h.enter rfl)) (.error _))
  have hn : ∀ n ∈ r.names, n ∈ String.ofList text.reverse :: r.names :=
    fun n hn => List.mem_cons_of_mem _ hn
  refine Fits.openGroup (r := { r with names := String.ofList text.reverse :: r.names })
    ⟨h.scope.mono hn, fun s hs => (h.outer s hs).mono hn, fun i hi => (h.base i hi).mono hn⟩ ?_ _
  rintro n ⟨⟩
  exact List.mem_cons_self

theorem Fits.readFlags (h : r.Fits) (seen : List Char) (negated dangling : Bool) (f : Flags)
    (c : Char) : Fitting (r.readFlags seen negated dangling f c) := by
  unfold Reader.readFlags
  split
  · exact .ite (.error _) (.ok ⟨h.scope.push trivial, h.outer, fun _ hi => nomatch hi⟩)
  · exact .ite (.error _) (.ok (h.openGroup (by rintro _ ⟨⟩) _))
  · exact .ite (.error _) (.ok (h.enter rfl))
  · split
    · exact .ite (.error _) (.ok (h.enter rfl))
    · exact .error _

/-! ## In brackets -/

theorem Fits.pushAtom (h : r.Fits) (a : Atom) : Fitting (r.pushAtom a) := by
  unfold Reader.pushAtom
  split
  · exact .ite (.ok (h.inBracket _ rfl)) (.error _)
  · exact .ok (h.inBracket _ rfl)
  · exact .error _

theorem Fits.pushBracket (h : r.Fits) (i : ClassItem) (outer : List Bracket) :
    (r.pushBracket i outer).Fits := by
  cases outer with
  | nil => exact ⟨h.scope.push trivial, h.outer, fun _ hj => nomatch hj⟩
  | cons b bs => exact ⟨h.scope, h.outer, fun _ hj => nomatch hj⟩

theorem Fits.closeBracket (h : r.Fits) : Fitting r.closeBracket := by
  unfold Reader.closeBracket
  split
  · exact .error _
  · split
    · exact .ok (h.pushBracket _ _)
    · exact .error _

theorem Fits.readClassItem (h : r.Fits) (c : Char) : Fitting (r.readClassItem c) := by
  unfold Reader.readClassItem
  split
  · exact .ok (h.enter rfl)
  · exact h.closeBracket
  all_goals exact .ok (h.enter rfl)

theorem Fits.readClassOpen (h : r.Fits) (c : Char) : Fitting (r.readClassOpen c) := by
  unfold Reader.readClassOpen
  split
  · exact .error _
  · exact .ite (.ok (h.inBracket _ rfl)) (.ite (.ok (h.inBracket _ rfl))
      (.ite (.ok (h.inBracket _ rfl)) (h.readClassItem c)))

theorem Fits.readClassAtom (h : r.Fits) (a : Atom) (c : Char) :
    Fitting (r.readClassAtom a c) := by
  unfold Reader.readClassAtom
  exact .ite (.ok (h.enter rfl)) (.bind (h.pushAtom a) fun _ h' => h'.readClassItem c)

theorem Fits.readRangeEnd (h : r.Fits) (first c : Char) : Fitting (r.readRangeEnd first c) :=
  .ite (.ok (h.enter rfl)) (h.deliver _ trivial)

theorem Fits.readClassDash (h : r.Fits) (a : Atom) (gap : Gap) (c : Char) :
    Fitting (r.readClassDash a gap c) := by
  unfold Reader.readClassDash
  split
  · exact .bind (h.pushAtom a) fun _ h₁ => .bind (h₁.pushAtom _) fun _ h₂ => h₂.closeBracket
  · exact .bind (h.pushAtom a) fun _ h' => .ite (.ok (h'.inBracket _ rfl)) (.ok (h'.enter rfl))
  · split
    · exact h.readRangeEnd _ c
    · exact .error _

theorem Fits.decideDash (h : r.Fits) (c : Char) : Fitting (r.decideDash c) := by
  unfold Reader.decideDash
  split
  · refine .ite (.ok h) (.ite (.bind (h.pushAtom _) fun _ h' => .ok (h'.enter rfl)) ?_)
    split
    · exact .ok (h.enter rfl)
    · exact .error _
  · exact .ok h

theorem Fits.asNested (h : r.Fits) (text : List Char) : (r.asNested text).Fits := by
  cases text <;> exact ⟨h.scope, h.outer, fun _ hi => nomatch hi⟩

theorem Fits.readNamed (h : r.Fits) (text : List Char) (c : Char) :
    Fitting (r.readNamed text c) := by
  have hnested := h.asNested ((c :: text).drop 1)
  unfold Reader.readNamed
  refine .ite ?_ (.ok (h.enter rfl))
  split
  · split
    · exact .ok (h.inBracket _ rfl)
    · exact .error _
  · dsimp only
    split
    · exact hnested.readClassAtom _ _
    · exact hnested.readClassOpen _

/-! ## All steps -/

theorem Fits.readEscape (h : r.Fits) (p : Place) (c : Char) : Fitting (r.readEscape p c) := by
  unfold Reader.readEscape
  split
  case h_6 =>
    split
    · exact .error _
    · refine .bind (h.deliver p (escaped_usual ‹_›)) fun _ h' => ?_
      split
      · exact .ok (h'.enter rfl)
      · exact .ok h'
  all_goals exact .ok (h.enter rfl)

theorem Fits.readHex (h : r.Fits) (p : Place) (k m v : Nat) (c : Char) :
    Fitting (r.readHex p k m v c) := by
  unfold Reader.readHex
  split
  · exact .error _
  · exact .ite (h.deliverCode p _ _) (.ok (h.enter rfl))

theorem Fits.readHexBraces (h : r.Fits) (p : Place) (ds : List Char) (c : Char) :
    Fitting (r.readHexBraces p ds c) := by
  unfold Reader.readHexBraces
  refine .ite ?_ (.ite (.ok (h.enter rfl)) (.error _))
  split
  · exact h.deliverCode p _ _
  · exact .error _

theorem Fits.readProperty (h : r.Fits) (p : Place) (negated : Bool) (c : Char) :
    Fitting (r.readProperty p negated c) :=
  .ite (.ok (h.enter rfl)) (.ite (.error _) (h.deliverProperty p _ _))

theorem Fits.readPropertyBraces (h : r.Fits) (p : Place) (negated : Bool) (text : List Char)
    (c : Char) : Fitting (r.readPropertyBraces p negated text c) :=
  .ite (h.deliverProperty p _ _) (.ok (h.enter rfl))

theorem Fits.readEdgeBraces (h : r.Fits) (text : List Char) (c : Char) :
    Fitting (r.readEdgeBraces text c) := by
  unfold Reader.readEdgeBraces
  refine .ite (.ok (h.enter rfl)) (.ite (.bind h.startCount fun r' h' => ?_) ?_)
  · split
    · rename_i i k hm
      exact h'.readCount (h'.base i (by rw [hm]; rfl)) k c
    · exact .error _
  · split
    · have hs :
          ({ r with scope := { r.scope with items := r.scope.items.drop 1 } } : Reader).Fits :=
        ⟨h.scope.withItems fun i hi => List.mem_of_mem_drop hi, h.outer, h.base⟩
      exact .ok (hs.push (edgeAnchor_usual _ _))
    · exact .error _

theorem Fits.settle (h : r.Fits) (c : Char) : (r.settle c).Fits := by
  unfold Reader.settle
  split
  · rename_i i b blanks hm
    split
    · exact h
    · exact h.pushRepeated (h.base i (by rw [hm]; rfl)) _ _
  · split
    · exact h
    · exact h.enter rfl
  · split
    · exact h
    · exact h.enter rfl
  · split
    · exact h
    · exact h.asNested _
  · exact h

theorem Fits.read (h : r.Fits) (c : Char) : Fitting (r.read c) := by
  have hbase := h.base
  unfold Reader.read
  cases hm : r.mode <;> rw [hm] at hbase <;> dsimp only
  case plain => exact h.readPlain c
  case repeated i b blanks => exact .ok (h.pushRepeated (hbase i rfl) _ _)
  case count i k => exact h.readCount (hbase i rfl) k c
  case groupStart =>
    exact .ite (.ok (h.enter rfl)) (Fits.readPlain (h.openGroup (by rintro _ ⟨⟩) _) c)
  case groupMark =>
    split
    · exact .ok (h.enter rfl)
    · exact .ok (h.enter rfl)
    · exact h.readFlags _ _ _ _ _
  case groupNamed => exact .ite (.ok (h.enter rfl)) (.error _)
  case groupAngle => exact h.readName _ c
  case name => exact h.readName _ c
  case flags => exact h.readFlags _ _ _ _ _
  case escape => exact h.readEscape _ c
  case hexStart => exact .ite (.ok (h.enter rfl)) (h.readHex _ _ _ _ c)
  case hexDigits => exact h.readHex _ _ _ _ c
  case hexBraces => exact h.readHexBraces _ _ c
  case property => exact h.readProperty _ _ c
  case propertyBraces => exact h.readPropertyBraces _ _ _ c
  case edge => exact .ok (h.enter rfl)
  case edgeBraces => exact h.readEdgeBraces _ c
  case classOpen => exact h.readClassOpen c
  case classItem => exact h.readClassItem c
  case classAtom => exact h.readClassAtom _ c
  case classDash => exact h.readClassDash _ _ c
  case classRangeEnd => exact h.readRangeEnd _ c
  case classOperator => exact .ok (h.inBracket _ rfl)
  case classNamed => exact h.readNamed _ c

theorem behind_base? (gap : Gap) (m : Mode) : (behind gap m).base? = m.base? := by
  unfold behind
  split <;> rfl

theorem Fits.advance (h : r.Fits) (c : Char) : Fitting (r.advance c) := by
  have hs := h.settle c
  have hbase : ∀ gap, ∀ i ∈ (behind gap (r.settle c).mode).base?,
      i.regex.Fits (r.settle c).names := by
    intro gap
    rw [behind_base?]
    exact hs.base
  unfold Reader.advance
  refine .ite (.ok ⟨h.scope, h.outer, h.base⟩) (.ite (.ite ?_ (.ite ?_ ?_)) ?_)
  · exact .ok ⟨hs.scope, hs.outer, hbase _⟩
  · exact .ok ⟨hs.scope, hs.outer, hbase _⟩
  · exact hs.read c
  · exact hs.read c

/-- A step builds on what fits only what fits. -/
theorem Fits.step (h : r.Fits) (c : Char) : Fitting (r.step c) :=
  .bind (h.decideDash c) fun _ h' => h'.advance c

theorem Fits.readAll (h : r.Fits) (cs : List Char) : Fitting (r.readAll cs) := by
  induction cs generalizing r with
  | nil => exact .ok h
  | cons c cs ih =>
    rw [readAll_cons]
    exact .bind (h.step c) fun _ h' => ih h'

end

/-- The expression of a whole pattern fits the names that were read. -/
theorem finish_fits {cs : List Char} {r : Reader} {i : Item}
    (h : ({} : Reader).readAll cs = .ok r) (hi : r.finish = .ok i) : i.regex.Fits r.names := by
  have hempty : ({} : Reader).Fits :=
    ⟨⟨by rintro _ ⟨⟩, List.forall_mem_nil _, List.forall_mem_nil _⟩, List.forall_mem_nil _,
      fun _ hi => nomatch hi⟩
  have hr := hempty.readAll cs r h
  unfold finish at hi
  split at hi
  · cases hi
  · split at hi
    · obtain rfl := Except.ok.inj hi
      exact hr.scope.body
    · obtain rfl := Except.ok.inj hi
      exact hr.scope.body
    · rename_i i b blanks hm
      obtain rfl := Except.ok.inj hi
      exact (hr.pushRepeated (hr.base i (by rw [hm]; rfl)) b true).scope.body
    · cases hi

end Reader

end Regex

end ChatCommand
