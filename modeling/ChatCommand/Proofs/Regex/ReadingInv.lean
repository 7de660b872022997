import ChatCommand.Proofs.Regex.Reading

/-!
# The invariant of the reader

`Reader.Stable r r'`: from `r` to `r'` the outermost scope keeps its name and the flags to return
to, no name is given up and none comes twice, and outside of brackets none is open. Every step from
a state without open brackets, or from one in brackets, leads to such a state (`step_leads`), and so
does a whole text (`readAll_leads`).
-/

namespace ChatCommand.Regex

/-- The place is in brackets. -/
def Place.inBrackets : Place → Bool
  | .outside => false
  | .classItem | .rangeEnd _ => true

/-- The next character is read in brackets. -/
def Mode.inBrackets : Mode → Bool
  | .escape p | .hexStart p _ | .hexDigits p _ _ _ | .hexBraces p _ | .property p _
  | .propertyBraces p _ _ => p.inBrackets
  | .classOpen | .classItem | .classAtom _ | .classDash _ _ | .classRangeEnd _ | .classOperator _
  | .classNamed _ => true
  | _ => false

namespace Reader

/-- The name of the outermost scope and the flags to return to behind it. -/
def root (r : Reader) : Option String × Flags :=
  let s := r.outer.getLastD r.scope
  (s.name, s.outerFlags)

/-- Brackets are open only while they are read. -/
def Tidy (r : Reader) : Prop := r.mode.inBrackets = false → r.brackets = []

/-- `new` has the names of `old` and further ones, each of them once. -/
structure Grown (old new : List String) : Prop where
  keeps : ∀ m ∈ old, m ∈ new
  nodup : old.Nodup → new.Nodup

theorem Grown.refl {names : List String} : Grown names names := ⟨fun _ h => h, fun h => h⟩

theorem Grown.trans {n₁ n₂ n₃ : List String} (h₁ : Grown n₁ n₂) (h₂ : Grown n₂ n₃) :
    Grown n₁ n₃ :=
  ⟨fun m hm => h₂.keeps m (h₁.keeps m hm), fun h => h₂.nodup (h₁.nodup h)⟩

/-- What reading keeps. -/
structure Stable (r r' : Reader) : Prop where
  root : r'.root = r.root
  names : Grown r.names r'.names
  tidy : r'.Tidy

/-- Whatever the result is, it is stable. -/
def Leads (r : Reader) (x : Except PatternError Reader) : Prop :=
  ∀ r', x = .ok r' → Stable r r'

theorem Stable.refl {r : Reader} (h : r.Tidy) : Stable r r := ⟨rfl, .refl, h⟩

theorem Stable.trans {r r' r'' : Reader} (h₁ : Stable r r') (h₂ : Stable r' r'') :
    Stable r r'' :=
  ⟨h₂.root.trans h₁.root, h₁.names.trans h₂.names, h₂.tidy⟩

namespace Leads

variable {r : Reader} {x y : Except PatternError Reader}

theorem error (e : PatternError) : Leads r (.error e) := fun _ h => nomatch h

theorem ok {r' : Reader} (h : Stable r r') : Leads r (.ok r') := by
  rintro _ ⟨⟩
  exact h

theorem ite {p : Prop} [Decidable p] (h : Leads r x) (h' : Leads r y) :
    Leads r (if p then x else y) := by
  split
  · exact h
  · exact h'

theorem bind {f : Reader → Except PatternError Reader} (h : Leads r x)
    (hf : ∀ r', x = .ok r' → Leads r' (f r')) : Leads r (x >>= f) := by
  cases x with
  | error e => exact .error e
  | ok r₁ => exact fun r' hr' => (h r₁ rfl).trans (hf r₁ rfl r' hr')

theorem of_stable {r₀ : Reader} (h₀ : Stable r₀ r) (h : Leads r x) : Leads r₀ x :=
  fun r' hr' => h₀.trans (h r' hr')

end Leads

/-! ## Outside of brackets -/

section
variable {r : Reader}

theorem enter_stable {m : Mode} (h : m.inBrackets = false → r.brackets = []) :
    Stable r (r.enter m) :=
  ⟨rfl, .refl, h⟩

theorem enter_class {m : Mode} (h : m.inBrackets = true) : Stable r (r.enter m) :=
  enter_stable fun h' => absurd (h.symm.trans h') (by decide)

theorem root_scope {s : Scope} (hn : s.name = r.scope.name)
    (hf : s.outerFlags = r.scope.outerFlags) : ({ r with scope := s } : Reader).root = r.root := by
  unfold root
  cases h : r.outer.getLast? with
  | none =>
    obtain ho : r.outer = [] := by simpa using h
    simp [ho, hn, hf]
  | some t => simp [List.getLastD_eq_getLast?, h]

theorem push_stable (i : Item) (hb : r.brackets = []) : Stable r (r.push i) :=
  ⟨root_scope rfl rfl, .refl, fun _ => hb⟩

theorem inBracket_stable {f : Bracket → Bracket} {m : Mode} (hm : m.inBrackets = true) :
    Stable r (r.inBracket f m) := by
  unfold inBracket
  split
  · exact enter_class hm
  · exact ⟨rfl, .refl, fun h => absurd (hm.symm.trans h) (by decide)⟩

theorem openGroup_stable (name : Option String) (f : Flags) (hb : r.brackets = []) :
    Stable r (r.openGroup name f) := by
  refine ⟨?_, .refl, fun _ => hb⟩
  simp only [root, openGroup, List.getLastD_cons]

theorem closeGroup_leads (hb : r.brackets = []) : Leads r r.closeGroup := by
  intro r' h
  obtain ⟨flags, scope, outer, names, mode, brackets, inComment⟩ := r
  match outer, h with
  | s :: outer, h =>
    obtain rfl := Except.ok.inj h
    refine ⟨?_, .refl, fun _ => hb⟩
    simp only [root, List.getLastD_cons]
    cases outer <;> rfl

theorem deliver_leads {p : Place} {a : Atom} (h : p.inBrackets = false → r.brackets = []) :
    Leads r (r.deliver p a) := by
  cases p <;> cases a <;> simp only [deliver]
  · exact .ok (push_stable _ (h rfl))
  · exact .ok (push_stable _ (h rfl))
  · exact .ok (push_stable _ (h rfl))
  · exact .ok (enter_class rfl)
  · exact .ok (enter_class rfl)
  · exact .error _
  · exact .ite (.ok (inBracket_stable rfl)) (.error _)
  · exact .error _
  · exact .error _

theorem deliver_outside {a : Atom} {r' : Reader} (h : r.deliver .outside a = .ok r') :
    r'.brackets = r.brackets := by
  cases a
  all_goals
    obtain rfl := Except.ok.inj h
    rfl

theorem deliverCode_leads {p : Place} {k : Nat} {byte : Bool}
    (h : p.inBrackets = false → r.brackets = []) : Leads r (r.deliverCode p k byte) :=
  .ite (deliver_leads h) (.error _)

theorem deliverProperty_leads {p : Place} (negated : Bool) (text : List Char)
    (h : p.inBrackets = false → r.brackets = []) :
    Leads r (r.deliverProperty p negated text) := by
  unfold deliverProperty
  split
  · exact .ite (deliver_leads h) (.error _)
  · exact .error _

theorem repeatLast_leads (b : Bounds) (hb : r.brackets = []) : Leads r (r.repeatLast b) := by
  unfold repeatLast
  split
  · exact .ite (.ok ⟨root_scope rfl rfl, .refl, fun _ => hb⟩) (.error _)
  · exact .error _

theorem startCount_leads (hb : r.brackets = []) : Leads r r.startCount := by
  unfold startCount
  split
  · exact .ite (.ok ⟨root_scope rfl rfl, .refl, fun _ => hb⟩) (.error _)
  · exact .error _

theorem startCount_brackets {r' : Reader} (h : r.startCount = .ok r') :
    r'.brackets = r.brackets := by
  unfold startCount at h
  split at h
  · split at h
    · obtain rfl := Except.ok.inj h
      rfl
    · cases h
  · cases h

theorem readPlain_leads (c : Char) (hb : r.brackets = []) : Leads r (r.readPlain c) := by
  unfold readPlain
  split
  · exact .ok (enter_stable fun _ => hb)
  · exact closeGroup_leads hb
  · exact .ok ⟨root_scope rfl rfl, .refl, fun _ => hb⟩
  · exact .ok ⟨rfl, .refl, fun h => by simp [Mode.inBrackets] at h⟩
  · exact repeatLast_leads _ hb
  · exact repeatLast_leads _ hb
  · exact repeatLast_leads _ hb
  · exact startCount_leads hb
  · exact .ok (enter_stable fun _ => hb)
  · split
    · exact .ok (push_stable _ hb)
    · exact .error _
  · exact .ok (push_stable _ hb)
  · exact .ok (push_stable _ hb)
  · exact .ok (push_stable _ hb)

theorem readCount_leads (i : Item) (k : Count) (c : Char) (hb : r.brackets = []) :
    Leads r (r.readCount i k c) := by
  have hok : ∀ m : Mode, Leads r (.ok (r.enter m)) := fun m => .ok (enter_stable fun _ => hb)
  unfold readCount
  refine .ite (hok _) (.ite (.ite (.error _) (hok _)) ?_)
  split
  · exact hok _
  · exact hok _
  · exact .ite (hok _) (.error _)
  · exact .ite (hok _) (.error _)
  · exact .error _

theorem readName_leads (text : List Char) (c : Char) (hb : r.brackets = []) :
    Leads r (r.readName text c) := by
  unfold readName
  refine .ite ?_ (.ite (.ok (enter_stable fun _ => hb)) (.error _))
  dsimp only
  split
  · exact .error _
  · rename_i hfree
    have h := openGroup_stable (some (String.ofList text.reverse)) r.flags hb
    refine .ok ⟨h.root, ⟨fun m hm => List.mem_cons_of_mem _ hm, fun hn => ?_⟩, h.tidy⟩
    exact List.nodup_cons.2 ⟨fun hm => hfree (by simp [hm]), hn⟩

theorem readFlags_leads (seen : List Char) (negated dangling : Bool) (f : Flags) (c : Char)
    (hb : r.brackets = []) : Leads r (r.readFlags seen negated dangling f c) := by
  unfold readFlags
  split
  · exact .ite (.error _) (.ok ⟨root_scope rfl rfl, .refl, fun _ => hb⟩)
  · exact .ite (.error _) (.ok (openGroup_stable _ _ hb))
  · exact .ite (.error _) (.ok (enter_stable fun _ => hb))
  · split
    · exact .ite (.error _) (.ok (enter_stable fun _ => hb))
    · exact .error _

/-! ## In brackets -/

theorem pushAtom_leads (a : Atom) : Leads r (r.pushAtom a) := by
  unfold pushAtom
  split
  · exact .ite (.ok (inBracket_stable rfl)) (.error _)
  · exact .ok (inBracket_stable rfl)
  · exact .error _

theorem pushBracket_stable (i : ClassItem) (outer : List Bracket) :
    Stable r (r.pushBracket i outer) := by
  cases outer with
  | nil => exact ⟨root_scope rfl rfl, .refl, fun _ => rfl⟩
  | cons b bs => exact ⟨rfl, .refl, fun h => by simp [pushBracket, Mode.inBrackets] at h⟩

theorem closeBracket_leads : Leads r r.closeBracket := by
  unfold closeBracket
  split
  · exact .error _
  · split
    · exact .ok (pushBracket_stable _ _)
    · exact .error _

theorem readClassItem_leads (c : Char) : Leads r (r.readClassItem c) := by
  unfold readClassItem
  split
  · exact .ok (enter_class rfl)
  · exact closeBracket_leads
  all_goals exact .ok (enter_class rfl)

theorem readClassOpen_leads (c : Char) : Leads r (r.readClassOpen c) := by
  unfold readClassOpen
  split
  · exact .error _
  · exact .ite (.ok (inBracket_stable rfl)) (.ite (.ok (inBracket_stable rfl))
      (.ite (.ok (inBracket_stable rfl)) (readClassItem_leads c)))

theorem readClassAtom_leads (a : Atom) (c : Char) : Leads r (r.readClassAtom a c) := by
  unfold readClassAtom
  exact .ite (.ok (enter_class rfl))
    (.bind (pushAtom_leads a) fun r' _ => readClassItem_leads (r := r') c)

theorem readRangeEnd_leads (first c : Char) : Leads r (r.readRangeEnd first c) :=
  .ite (.ok (enter_class rfl)) (deliver_leads fun h => nomatch h)

theorem readClassDash_leads (a : Atom) (gap : Gap) (c : Char) :
    Leads r (r.readClassDash a gap c) := by
  unfold readClassDash
  split
  · exact .bind (pushAtom_leads a) fun r₁ _ => .bind (pushAtom_leads _) fun r₂ _ =>
      closeBracket_leads
  · exact .bind (pushAtom_leads a) fun r' _ =>
      .ite (.ok (inBracket_stable rfl)) (.ok (enter_class rfl))
  · split
    · exact readRangeEnd_leads _ c
    · exact .error _

theorem decideDash_leads (c : Char) (h : r.Tidy) : Leads r (r.decideDash c) := by
  unfold decideDash
  split
  · refine .ite (.ok (.refl h)) (.ite ?_ ?_)
    · exact .bind (pushAtom_leads _) fun _ _ => .ok (enter_class rfl)
    · split
      · exact .ok (enter_class rfl)
      · exact .error _
  · exact .ok (.refl h)

theorem asNested_stable (text : List Char) : Stable r (r.asNested text) := by
  cases text <;> exact ⟨rfl, .refl, fun h => by simp [asNested, Mode.inBrackets] at h⟩

theorem readNamed_leads (text : List Char) (c : Char) : Leads r (r.readNamed text c) := by
  unfold readNamed
  refine .ite ?_ (.ok (enter_class rfl))
  split
  · split
    · exact .ok (inBracket_stable rfl)
    · exact .error _
  · refine .of_stable (asNested_stable ((c :: text).drop 1)) ?_
    dsimp only
    split
    · exact readClassAtom_leads _ _
    · exact readClassOpen_leads _

/-! ## All steps -/

theorem readEscape_leads {p : Place} (c : Char) (h : p.inBrackets = false → r.brackets = []) :
    Leads r (r.readEscape p c) := by
  unfold readEscape
  split
  case h_6 =>
    split
    · exact .error _
    · refine .bind (deliver_leads h) fun r' hr' => ?_
      split
      · exact .ok (enter_stable fun _ => (deliver_outside hr').trans (h rfl))
      · exact .ok (.refl (deliver_leads h r' hr').tidy)
  all_goals exact .ok (enter_stable h)

theorem readHex_leads {p : Place} (k m v : Nat) (c : Char)
    (h : p.inBrackets = false → r.brackets = []) : Leads r (r.readHex p k m v c) := by
  unfold readHex
  split
  · exact .error _
  · exact .ite (deliverCode_leads h) (.ok (enter_stable h))

theorem readHexBraces_leads {p : Place} (ds : List Char) (c : Char)
    (h : p.inBrackets = false → r.brackets = []) : Leads r (r.readHexBraces p ds c) := by
  unfold readHexBraces
  refine .ite ?_ (.ite (.ok (enter_stable h)) (.error _))
  split
  · exact deliverCode_leads h
  · exact .error _

theorem readProperty_leads {p : Place} (negated : Bool) (c : Char)
    (h : p.inBrackets = false → r.brackets = []) : Leads r (r.readProperty p negated c) :=
  .ite (.ok (enter_stable h)) (.ite (.error _) (deliverProperty_leads _ _ h))

theorem readPropertyBraces_leads {p : Place} (negated : Bool) (text : List Char) (c : Char)
    (h : p.inBrackets = false → r.brackets = []) :
    Leads r (r.readPropertyBraces p negated text c) :=
  .ite (deliverProperty_leads _ _ h) (.ok (enter_stable h))

theorem readEdgeBraces_leads (text : List Char) (c : Char) (hb : r.brackets = []) :
    Leads r (r.readEdgeBraces text c) := by
  unfold readEdgeBraces
  refine .ite (.ok (enter_stable fun _ => hb)) (.ite (.bind (startCount_leads hb) ?_) ?_)
  · intro r' hr'
    split
    · exact readCount_leads _ _ _ ((startCount_brackets hr').trans hb)
    · exact .error _
  · split
    · have hs : Stable r { r with scope := { r.scope with items := r.scope.items.drop 1 } } :=
        ⟨root_scope rfl rfl, .refl, fun _ => hb⟩
      exact .ok (hs.trans (push_stable _ hb))
    · exact .error _

theorem settle_stable (c : Char) (h : r.Tidy) : Stable r (r.settle c) := by
  unfold settle
  have hr := Stable.refl h
  cases hm : r.mode with
  | repeated i b blanks =>
    dsimp only
    split
    · exact hr
    · exact push_stable _ (h (by rw [hm]; rfl))
  | edge =>
    dsimp only
    split
    · exact hr
    · exact enter_stable fun _ => h (by rw [hm]; rfl)
  | classOperator d =>
    dsimp only
    split
    · exact hr
    · exact enter_class rfl
  | classNamed text =>
    dsimp only
    split
    · exact hr
    · exact asNested_stable text
  | _ => exact hr

theorem read_leads (c : Char) (h : r.Tidy) : Leads r (r.read c) := by
  unfold read
  unfold Tidy at h
  cases hm : r.mode <;> rw [hm] at h <;> dsimp only
  case plain => exact readPlain_leads c (h rfl)
  case repeated => exact .ok (push_stable _ (h rfl))
  case count => exact readCount_leads _ _ c (h rfl)
  case groupStart =>
    exact .ite (.ok (enter_stable h)) (.of_stable (openGroup_stable _ _ (h rfl))
      (readPlain_leads c (h rfl)))
  case groupMark =>
    split
    · exact .ok (enter_stable h)
    · exact .ok (enter_stable h)
    · exact readFlags_leads _ _ _ _ _ (h rfl)
  case groupNamed => exact .ite (.ok (enter_stable h)) (.error _)
  case groupAngle => exact readName_leads _ c (h rfl)
  case name => exact readName_leads _ c (h rfl)
  case flags => exact readFlags_leads _ _ _ _ _ (h rfl)
  case escape => exact readEscape_leads c h
  case hexStart => exact .ite (.ok (enter_stable h)) (readHex_leads _ _ _ c h)
  case hexDigits => exact readHex_leads _ _ _ c h
  case hexBraces => exact readHexBraces_leads _ c h
  case property => exact readProperty_leads _ c h
  case propertyBraces => exact readPropertyBraces_leads _ _ c h
  case edge => exact .ok (enter_stable h)
  case edgeBraces => exact readEdgeBraces_leads _ c (h rfl)
  case classOpen => exact readClassOpen_leads c
  case classItem => exact readClassItem_leads c
  case classAtom => exact readClassAtom_leads _ c
  case classDash => exact readClassDash_leads _ _ c
  case classRangeEnd => exact readRangeEnd_leads _ c
  case classOperator => exact .ok (inBracket_stable rfl)
  case classNamed => exact readNamed_leads _ c

theorem behind_inBrackets (gap : Gap) (m : Mode) : (behind gap m).inBrackets = m.inBrackets := by
  unfold behind
  split <;> rfl

theorem advance_leads (c : Char) (h : r.Tidy) : Leads r (r.advance c) := by
  unfold advance
  have hs := settle_stable c h
  have hbehind : ∀ gap, (behind gap (r.settle c).mode).inBrackets = false →
      (r.settle c).brackets = [] := by
    intro gap
    rw [behind_inBrackets]
    exact hs.tidy
  refine .ite (.ok ⟨rfl, .refl, h⟩) (.of_stable hs (.ite (.ite ?_ (.ite ?_ ?_)) ?_))
  · exact .ok (enter_stable (hbehind _))
  · exact .ok ⟨rfl, .refl, hbehind _⟩
  · exact read_leads c hs.tidy
  · exact read_leads c hs.tidy

/-- A step keeps what reading keeps. -/
theorem step_leads (c : Char) (h : r.Tidy) : Leads r (r.step c) :=
  .bind (decideDash_leads c h) fun r' hr' => advance_leads c (decideDash_leads c h r' hr').tidy

/-- Outside of brackets no dash waits for what follows. -/
theorem step_outside (c : Char) (h : r.mode.inBrackets = false) : r.step c = r.advance c := by
  have hd : r.decideDash c = .ok r := by
    unfold decideDash
    split
    · rename_i hm
      rw [hm] at h
      cases h
    · rfl
  unfold step
  rw [hd]
  rfl

theorem readAll_leads (cs : List Char) (h : r.Tidy) : Leads r (r.readAll cs) := by
  induction cs generalizing r with
  | nil => exact .ok (.refl h)
  | cons c cs ih =>
    rw [readAll_cons]
    exact .bind (step_leads c h) fun r' hr' => ih (step_leads c h r' hr').tidy

end

/-- A text is read inside of groups as it is read alone, unless one of its names is taken. -/
theorem readAll_carried {r : Reader} (h : r.Tidy) (o : List Scope) (n : List String)
    (cs : List Char) : Carried o n (r.readAll cs) ((r.within o n).readAll cs) := by
  induction cs generalizing r with
  | nil => exact .of_map rfl
  | cons c cs ih =>
    intro r'' hr
    rw [readAll_cons] at hr ⊢
    cases hs : r.step c with
    | error e => rw [hs] at hr; cases hr
    | ok r' =>
      rw [hs] at hr
      have ht := (step_leads c h r' hs).tidy
      rcases step_carried r o n c r' hs with hw | ⟨hw, m, hm, hmn⟩
      · rw [hw]
        exact ih ht r'' hr
      · refine .inr ⟨by rw [hw]; rfl, m, ?_, hmn⟩
        exact (readAll_leads cs ht r'' hr).names.keeps m hm

end Reader

end ChatCommand.Regex
