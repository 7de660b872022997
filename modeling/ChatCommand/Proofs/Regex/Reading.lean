import ChatCommand.Regex.Syntax

/-!
# Reading inside of a group

The reader of patterns takes one character at a time, so what it reads of `as ++ bs` is what it
reads of `bs` from the state behind `as` (`readAll_append`).

`Reader.within r outer names` is the state `r` with further groups around it and further names
taken. A text that is a pattern of its own is read inside of a group as it is read alone, unless one
of its names is taken (`step_carried`): no step looks at what surrounds the innermost group, other
than `closeGroup`, which needs a group to close, and `readName`, which refuses a name that is taken.
-/

namespace ChatCommand.Regex.Reader

/-- The state behind a text. -/
def readAll (r : Reader) (cs : List Char) : Except PatternError Reader :=
  cs.foldlM step r

@[simp] theorem readAll_nil (r : Reader) : r.readAll [] = .ok r := rfl

theorem readAll_cons (r : Reader) (c : Char) (cs : List Char) :
    r.readAll (c :: cs) = r.step c >>= (·.readAll cs) := rfl

theorem readAll_append (r : Reader) (as bs : List Char) :
    r.readAll (as ++ bs) = r.readAll as >>= (·.readAll bs) := by
  simp only [readAll, List.foldlM_append]

/-- The state with groups around it, where `names` are taken already. -/
def within (r : Reader) (outer : List Scope) (names : List String) : Reader :=
  { r with outer := r.outer ++ outer, names := r.names ++ names }

/-! ## Results of reading -/

theorem map_ite (p : Prop) [Decidable p] (x y : Except PatternError Reader)
    (f : Reader → Reader) :
    (if p then x else y).map f = if p then x.map f else y.map f :=
  apply_ite _ p x y

theorem map_ok (r : Reader) (f : Reader → Reader) :
    (Except.ok r : Except PatternError Reader).map f = .ok (f r) := rfl

theorem map_error (e : PatternError) (f : Reader → Reader) :
    (Except.error e : Except PatternError Reader).map f = .error e := rfl

theorem map_bind (x : Except PatternError Reader) (g : Reader → Except PatternError Reader)
    (f : Reader → Reader) : (x >>= g).map f = x >>= fun r => (g r).map f := by
  cases x <;> rfl

theorem bind_map (x : Except PatternError Reader) (g : Reader → Except PatternError Reader)
    (f : Reader → Reader) : (x.map f) >>= g = x >>= fun r => g (f r) := by
  cases x <;> rfl

/-- What is read from a state, as it is read inside of a group: the same, or a name is taken. -/
def Carried (o : List Scope) (n : List String) (x y : Except PatternError Reader) : Prop :=
  ∀ r', x = .ok r' →
    y = .ok (r'.within o n) ∨ y = .error .malformed ∧ ∃ m ∈ r'.names, m ∈ n

theorem Carried.of_map {o : List Scope} {n : List String} {x y : Except PatternError Reader}
    (h : y = x.map (·.within o n)) : Carried o n x y := by
  rintro r' rfl
  exact .inl h

theorem Carried.ite {o : List Scope} {n : List String} {p : Prop} [Decidable p]
    {x x' y y' : Except PatternError Reader} (h : Carried o n x y) (h' : Carried o n x' y') :
    Carried o n (if p then x else x') (if p then y else y') := by
  split
  · exact h
  · exact h'

theorem Carried.bind_map {o : List Scope} {n : List String} {x : Except PatternError Reader}
    {f : Reader → Except PatternError Reader}
    (h : ∀ r, Carried o n (f r) (f (r.within o n))) :
    Carried o n (x >>= f) (x.map (·.within o n) >>= f) := by
  cases x with
  | error e => exact fun _ hr => nomatch hr
  | ok r => exact h r

section
variable (r : Reader) (o : List Scope) (n : List String)

@[simp] theorem within_flags : (r.within o n).flags = r.flags := rfl

@[simp] theorem within_scope : (r.within o n).scope = r.scope := rfl

@[simp] theorem within_mode : (r.within o n).mode = r.mode := rfl

@[simp] theorem within_brackets : (r.within o n).brackets = r.brackets := rfl

@[simp] theorem within_inComment : (r.within o n).inComment = r.inComment := rfl

/-! ## Steps that do not look at the groups around -/

theorem enter_within (m : Mode) : (r.within o n).enter m = (r.enter m).within o n := rfl

theorem push_within (i : Item) : (r.within o n).push i = (r.push i).within o n := rfl

theorem inBracket_within (f : Bracket → Bracket) (m : Mode) :
    (r.within o n).inBracket f m = (r.inBracket f m).within o n := by
  unfold inBracket
  rw [within_brackets]
  split <;> rfl

theorem deliver_within (p : Place) (a : Atom) :
    (r.within o n).deliver p a = (r.deliver p a).map (·.within o n) := by
  cases p <;> cases a <;>
    simp only [deliver, within_flags, push_within, enter_within, inBracket_within, map_ite,
      map_ok, map_error]

theorem pushAtom_within (a : Atom) :
    (r.within o n).pushAtom a = (r.pushAtom a).map (·.within o n) := by
  cases a <;> simp only [pushAtom, within_flags, inBracket_within, map_ite, map_ok, map_error]

theorem pushBracket_within (i : ClassItem) (outer : List Bracket) :
    (r.within o n).pushBracket i outer = (r.pushBracket i outer).within o n := by
  cases outer <;> rfl

theorem closeBracket_within :
    (r.within o n).closeBracket = r.closeBracket.map (·.within o n) := by
  simp only [closeBracket, within_brackets, within_flags]
  cases r.brackets with
  | nil => rfl
  | cons b outer =>
    dsimp only
    cases b.close? r.flags with
    | none => rfl
    | some i => exact congrArg _ (pushBracket_within r o n i outer)

theorem deliverCode_within (p : Place) (k : Nat) (byte : Bool) :
    (r.within o n).deliverCode p k byte = (r.deliverCode p k byte).map (·.within o n) := by
  simp only [deliverCode, within_flags, deliver_within, map_ite, map_error]

theorem deliverProperty_within (p : Place) (negated : Bool) (text : List Char) :
    (r.within o n).deliverProperty p negated text =
      (r.deliverProperty p negated text).map (·.within o n) := by
  unfold deliverProperty
  cases propertyClass? text with
  | none => rfl
  | some q => simp only [within_flags, deliver_within, map_ite, map_error]

theorem repeatLast_within (b : Bounds) :
    (r.within o n).repeatLast b = (r.repeatLast b).map (·.within o n) := by
  simp only [repeatLast, within_scope]
  cases r.scope.items with
  | nil => rfl
  | cons i items => simp only [map_ite]; rfl

theorem startCount_within :
    (r.within o n).startCount = r.startCount.map (·.within o n) := by
  simp only [startCount, within_scope]
  cases r.scope.items with
  | nil => rfl
  | cons i items => simp only [map_ite]; rfl

theorem readCount_within (i : Item) (k : Count) (c : Char) :
    (r.within o n).readCount i k c = (r.readCount i k c).map (·.within o n) := by
  unfold readCount
  simp only [map_ite, enter_within, map_ok, map_error]
  generalize bound? k.digits = b
  refine ite_congr rfl (fun _ => rfl) fun _ => ite_congr rfl (fun _ => rfl) fun _ => ?_
  split
  · rfl
  · rfl
  · simp only [map_ite, map_ok, map_error]
  · simp only [map_ite, map_ok, map_error]
  · rfl

theorem readFlags_within (seen : List Char) (negated dangling : Bool) (f : Flags) (c : Char) :
    (r.within o n).readFlags seen negated dangling f c =
      (r.readFlags seen negated dangling f c).map (·.within o n) := by
  unfold readFlags
  split
  · simp only [map_ite]; rfl
  · simp only [map_ite]; rfl
  · simp only [map_ite]; rfl
  · cases f.switch? c (!negated) with
    | none => rfl
    | some f => simp only [map_ite]; rfl

theorem readEscape_within (p : Place) (c : Char) :
    (r.within o n).readEscape p c = (r.readEscape p c).map (·.within o n) := by
  unfold readEscape
  split
  case h_6 =>
    rw [within_flags]
    cases escaped? r.flags c with
    | none => rfl
    | some a =>
      simp only [deliver_within, map_bind, bind_map]
      congr 1
      funext r'
      split <;> rfl
  all_goals rfl

theorem readHex_within (p : Place) (k m v : Nat) (c : Char) :
    (r.within o n).readHex p k m v c = (r.readHex p k m v c).map (·.within o n) := by
  unfold readHex
  cases Text.hexDigit? c with
  | none => rfl
  | some d => simp only [deliverCode_within, map_ite]; rfl

theorem readHexBraces_within (p : Place) (ds : List Char) (c : Char) :
    (r.within o n).readHexBraces p ds c = (r.readHexBraces p ds c).map (·.within o n) := by
  simp only [readHexBraces, enter_within, map_ite, map_ok, map_error]
  congr 1
  split
  · exact deliverCode_within r o n p _ _
  · rfl

theorem readProperty_within (p : Place) (negated : Bool) (c : Char) :
    (r.within o n).readProperty p negated c = (r.readProperty p negated c).map (·.within o n) := by
  simp only [readProperty, enter_within, deliverProperty_within, map_ite, map_ok, map_error]

theorem readPropertyBraces_within (p : Place) (negated : Bool) (text : List Char) (c : Char) :
    (r.within o n).readPropertyBraces p negated text c =
      (r.readPropertyBraces p negated text c).map (·.within o n) := by
  simp only [readPropertyBraces, enter_within, deliverProperty_within, map_ite, map_ok]

theorem readEdgeBraces_within (text : List Char) (c : Char) :
    (r.within o n).readEdgeBraces text c = (r.readEdgeBraces text c).map (·.within o n) := by
  simp only [readEdgeBraces, startCount_within, enter_within, map_ite, map_ok, map_bind, bind_map]
  congr 1
  congr 1
  · congr 1
    funext r'
    rw [within_mode]
    split
    · exact readCount_within r' o n _ _ _
    · rfl
  · split <;> rfl

theorem readClassItem_within (c : Char) :
    (r.within o n).readClassItem c = (r.readClassItem c).map (·.within o n) := by
  unfold readClassItem
  split
  · rfl
  · exact closeBracket_within r o n
  all_goals rfl

theorem readClassOpen_within (c : Char) :
    (r.within o n).readClassOpen c = (r.readClassOpen c).map (·.within o n) := by
  unfold readClassOpen
  rw [within_brackets]
  cases r.brackets with
  | nil => rfl
  | cons b bs => simp only [inBracket_within, readClassItem_within, map_ite, map_ok]

theorem readClassAtom_within (a : Atom) (c : Char) :
    (r.within o n).readClassAtom a c = (r.readClassAtom a c).map (·.within o n) := by
  simp only [readClassAtom, enter_within, pushAtom_within, readClassItem_within, map_ite, map_bind,
    bind_map, map_ok]

theorem readRangeEnd_within (first c : Char) :
    (r.within o n).readRangeEnd first c = (r.readRangeEnd first c).map (·.within o n) := by
  simp only [readRangeEnd, enter_within, deliver_within, map_ite, map_ok]

theorem readClassDash_within (a : Atom) (gap : Gap) (c : Char) :
    (r.within o n).readClassDash a gap c = (r.readClassDash a gap c).map (·.within o n) := by
  unfold readClassDash
  split
  · simp only [pushAtom_within, closeBracket_within, map_bind, bind_map]
  · simp only [pushAtom_within, enter_within, inBracket_within, map_bind, bind_map, map_ite, map_ok,
      within_flags]
  · rw [within_flags]
    cases rangeStart? r.flags a with
    | none => rfl
    | some first => exact readRangeEnd_within r o n first c

theorem decideDash_within (c : Char) :
    (r.within o n).decideDash c = (r.decideDash c).map (·.within o n) := by
  unfold decideDash
  rw [within_mode]
  split
  · simp only [pushAtom_within, enter_within, within_flags, map_ite, map_bind, bind_map, map_ok]
    congr 1
    congr 1
    split <;> rfl
  · rfl

theorem readClassOperator_within (c : Char) :
    (r.within o n).readClassOperator c = (r.readClassOperator c).map (·.within o n) := by
  simp only [readClassOperator, inBracket_within, map_ok, within_flags]

theorem asNested_within (text : List Char) :
    (r.within o n).asNested text = (r.asNested text).within o n := by
  cases text <;> rfl

theorem readNamed_within (text : List Char) (c : Char) :
    (r.within o n).readNamed text c = (r.readNamed text c).map (·.within o n) := by
  simp only [readNamed, map_ite]
  congr 1
  cases namedClass? (c :: text) with
  | some p =>
    rw [within_flags]
    dsimp only
    split
    · simp only [inBracket_within, map_ok]
    · rfl
  | none =>
    simp only [asNested_within, within_mode]
    split
    · exact readClassAtom_within _ o n _ _
    · exact readClassOpen_within _ o n _

theorem settle_within (c : Char) : (r.within o n).settle c = (r.settle c).within o n := by
  unfold settle
  rw [within_mode]
  cases r.mode with
  | repeated i b blanks =>
    dsimp only [within_flags]
    rw [apply_ite (within · o n)]
    rfl
  | edge =>
    dsimp only
    rw [apply_ite (within · o n)]
    rfl
  | classOperator d =>
    dsimp only
    rw [apply_ite (within · o n)]
    rfl
  | classNamed text =>
    dsimp only
    rw [apply_ite (within · o n), asNested_within]
  | _ => rfl

/-! ## Groups and names -/

theorem closeGroup_carried : Carried o n r.closeGroup (r.within o n).closeGroup := by
  intro r' h
  obtain ⟨flags, scope, outer, names, mode, brackets, inComment⟩ := r
  match outer, h with
  | s :: outer, h =>
    obtain rfl := Except.ok.inj h
    exact .inl rfl

theorem readName_carried (text : List Char) (c : Char) :
    Carried o n (r.readName text c) ((r.within o n).readName text c) := by
  intro r' h
  unfold readName at h ⊢
  split at h
  · rename_i hc
    rw [if_pos hc]
    dsimp only at h ⊢
    split at h
    · cases h
    · rename_i hn
      simp only [Bool.or_eq_true, not_or, Bool.not_eq_true] at hn
      obtain rfl := Except.ok.inj h
      by_cases hm : String.ofList text.reverse ∈ n
      · refine .inr ⟨?_, _, List.mem_cons_self, hm⟩
        rw [if_pos]
        simp [within, hm]
      · refine .inl ?_
        rw [if_neg]
        · rfl
        · simpa [within, hm] using hn
  · rename_i hc
    rw [if_neg hc, show (r.within o n).enter _ = _ from enter_within r o n _]
    exact Carried.ite (.of_map rfl) (.of_map rfl) r' h

theorem readPlain_carried (c : Char) :
    Carried o n (r.readPlain c) ((r.within o n).readPlain c) := by
  unfold readPlain
  split
  case h_2 => exact closeGroup_carried r o n
  case h_5 => exact .of_map (repeatLast_within r o n _)
  case h_6 => exact .of_map (repeatLast_within r o n _)
  case h_7 => exact .of_map (repeatLast_within r o n _)
  case h_8 => exact .of_map (startCount_within r o n)
  case h_10 =>
    refine .of_map ?_
    rw [within_flags]
    cases dot? r.flags <;> rfl
  all_goals exact .of_map rfl

theorem read_carried (c : Char) : Carried o n (r.read c) ((r.within o n).read c) := by
  unfold read
  rw [within_mode]
  cases r.mode with
  | plain => exact readPlain_carried r o n c
  | count i k => exact .of_map (readCount_within r o n i k c)
  | groupStart =>
    dsimp only
    split
    · exact .of_map rfl
    · exact readPlain_carried _ o n c
  | groupMark =>
    dsimp only
    split
    · exact .of_map rfl
    · exact .of_map rfl
    · exact .of_map (readFlags_within r o n _ _ _ _ _)
  | groupNamed =>
    dsimp only
    split <;> exact .of_map rfl
  | groupAngle => exact readName_carried r o n _ _
  | name text => exact readName_carried r o n _ _
  | flags seen negated dangling f => exact .of_map (readFlags_within r o n _ _ _ _ _)
  | escape p => exact .of_map (readEscape_within r o n _ _)
  | hexStart p k =>
    dsimp only
    split
    · exact .of_map rfl
    · exact .of_map (readHex_within r o n _ _ _ _ _)
  | hexDigits p k m v => exact .of_map (readHex_within r o n _ _ _ _ _)
  | hexBraces p ds => exact .of_map (readHexBraces_within r o n _ _ _)
  | property p negated => exact .of_map (readProperty_within r o n _ _ _)
  | propertyBraces p negated text => exact .of_map (readPropertyBraces_within r o n _ _ _ _)
  | edgeBraces text => exact .of_map (readEdgeBraces_within r o n _ _)
  | classOpen => exact .of_map (readClassOpen_within r o n _)
  | classItem => exact .of_map (readClassItem_within r o n _)
  | classAtom a => exact .of_map (readClassAtom_within r o n _ _)
  | classDash a gap => exact .of_map (readClassDash_within r o n _ _ _)
  | classRangeEnd first => exact .of_map (readRangeEnd_within r o n _ _)
  | classOperator d => exact .of_map (readClassOperator_within r o n _)
  | classNamed text => exact .of_map (readNamed_within r o n _ _)
  | repeated i b blanks => exact .of_map rfl
  | edge => exact .of_map rfl

theorem advance_carried (c : Char) : Carried o n (r.advance c) ((r.within o n).advance c) := by
  unfold advance
  rw [within_inComment, settle_within]
  refine .ite (.of_map rfl) (.ite (.ite (.of_map rfl) (.ite (.of_map rfl) ?_)) ?_)
  · exact read_carried _ o n c
  · exact read_carried _ o n c

theorem step_carried (c : Char) : Carried o n (r.step c) ((r.within o n).step c) := by
  unfold step
  rw [decideDash_within]
  exact .bind_map fun q => advance_carried q o n c

end

end ChatCommand.Regex.Reader
